import QuicTelemetry.Text.Fields
import QuicTelemetry.Text.Quoted

/-!
# Peer addresses

An address of the Internet Protocol, of either version, with its text in both
directions. An address of version 6 may name a *scope*, a text of its own that
is no part of the 128 bits.

Reading accepts every spelling: any letter case, leading zeros of a group, one
run of zero groups left out, a dotted ending. Writing has one: lower case,
no leading zeros, and of the runs of two or more zero groups the first longest
one left out.
-/

namespace QuicTelemetry

/-- **An address.** -/
inductive Address where
  /-- An address of version 4. -/
  | v4 (bits : BitVec 32)
  /-- An address of version 6, with a scope or none. -/
  | v6 (bits : BitVec 128) (scope : Option String)
  deriving DecidableEq, Repr

namespace Address

/-! ## Writing -/

/-- The digits of a number in front of which no zero stands. -/
def decimal (n : Nat) : List Char := Nat.toDigits 10 n

/-- The four bytes of an address of version 4, the first one in front. -/
def octets (bits : BitVec 32) : List Nat :=
  [24, 16, 8, 0].map fun shift => bits.toNat / Nat.pow 2 shift % 256

/-- The eight groups of an address of version 6, the first one in front. -/
def groups (bits : BitVec 128) : List Nat :=
  [112, 96, 80, 64, 48, 32, 16, 0].map fun shift => bits.toNat / Nat.pow 2 shift % 65536

/-- The four bytes with dots between them. -/
def dotted (bits : BitVec 32) : List Char := Text.join '.' ((octets bits).map decimal)

/-- The number of zeros in front. -/
def leadingZeros (gs : List Nat) : Nat := (gs.takeWhile (· = 0)).length

/-- The first longest run of zeros: where it starts, and its length. The
arguments are the place of the list's head and the best run so far. -/
def longestZeros (start : Nat) (best : Nat × Nat) : List Nat → Nat × Nat
  | [] => best
  | g :: rest =>
    -- a tail of a run that was met before is shorter than the run and never wins
    let run := leadingZeros (g :: rest)
    longestZeros (start + 1) (if best.2 < run then (start, run) else best) rest

/-- Groups in hexadecimal with colons between them. -/
def colonSeparated (gs : List Nat) : List Char := Text.join ':' (gs.map (Nat.toDigits 16))

/-- The text of eight groups: the longest run of zeros, if it has two at
least, becomes a double colon. -/
def compressed (gs : List Nat) : List Char :=
  let (start, size) := longestZeros 0 (0, 0) gs
  if size < 2 then colonSeparated gs
  else colonSeparated (gs.take start) ++ [':', ':'] ++ colonSeparated (gs.drop (start + size))

/-- **The text of an address.** -/
def text : Address → String
  | .v4 bits => String.ofList (dotted bits)
  | .v6 bits none => String.ofList (compressed (groups bits))
  | .v6 bits (some scope) => String.ofList (compressed (groups bits)) ++ "%" ++ scope

/-! ## Reading -/

/-- The number some digits of the given base stand for. -/
def number (base : Nat) (digits : List Nat) : Nat := digits.foldl (fun n d => base * n + d) 0

/-- A byte in decimal: one to three ASCII digits without a leading zero. -/
def octet? (cs : List Char) : Option Nat :=
  if cs = [] ∨ 3 < cs.length ∨ !cs.all Char.isDigit then none
  else if cs.head? = some '0' ∧ cs ≠ ['0'] then none
  else
    let n := number 10 (cs.map fun c => c.toNat - '0'.toNat)
    if n < 256 then some n else none

/-- An address of version 4: four bytes with dots between them. -/
def readDotted? (cs : List Char) : Option (BitVec 32) := do
  let parts := Text.fields '.' cs
  let bytes ← parts.mapM octet?
  if bytes.length = 4 then some (BitVec.ofNat 32 (number 256 bytes)) else none

/-- The value of a hexadecimal digit in either case. -/
def hexDigit? (c : Char) : Option Nat :=
  if c.isDigit then some (c.toNat - '0'.toNat)
  else if 'a' ≤ c ∧ c ≤ 'f' then some (c.toNat - 'a'.toNat + 10)
  else if 'A' ≤ c ∧ c ≤ 'F' then some (c.toNat - 'A'.toNat + 10)
  else none

/-- A group: one to four hexadecimal digits. -/
def group? (cs : List Char) : Option Nat := do
  if cs = [] ∨ 4 < cs.length then none
  else some (number 16 (← cs.mapM hexDigit?))

/-- The fields of a text with colons, where a dotted ending has become two
groups. -/
def colonFields? (cs : List Char) : Option (List (List Char)) :=
  let parts := Text.fields ':' cs
  match parts.getLast? with
  | some ending =>
    if ending.contains '.' then
      (readDotted? ending).map fun bits =>
        parts.dropLast
          ++ [Nat.toDigits 16 (bits.toNat / 65536), Nat.toDigits 16 (bits.toNat % 65536)]
    else some parts
  | none => some parts

/-- The fields on the two sides of the one empty field that is neither the
first nor the last; nothing if there are several. -/
def gap? (parts : List (List Char)) : Option (Option (List (List Char) × List (List Char))) :=
  let inner := parts.drop 1 |>.dropLast
  match inner.countP (· = []) with
  | 0 => some none
  | 1 =>
    let front := inner.takeWhile (· ≠ [])
    some (some (parts.take (front.length + 1), parts.drop (front.length + 2)))
  | _ => none

/-- The groups beside a gap. An empty field at the outer end is only allowed
if it stands alone, as it does where the gap is at that end of the text. -/
def side? (fields : List (List Char)) : Option (List Nat) :=
  if fields = [[]] then some [] else fields.mapM group?

/-- The eight groups of a text with colons: at least two of the latter, at
most one gap, and a gap stands for at least one group. -/
def readGroups? (cs : List Char) : Option (List Nat) := do
  -- the colons are counted before a dotted ending becomes two groups
  if (Text.fields ':' cs).length < 3 then none
  let parts ← colonFields? cs
  if 9 < parts.length then none
  match ← gap? parts with
  | none =>
    let gs ← parts.mapM group?
    if gs.length = 8 then some gs else none
  | some (front, back) =>
    let front ← side? front
    let back ← side? back
    if front.length + back.length < 8 then
      some (front ++ List.replicate (8 - (front.length + back.length)) 0 ++ back)
    else none

/-- The bits of eight groups. -/
def ofGroups (gs : List Nat) : BitVec 128 := BitVec.ofNat 128 (number 65536 gs)

/-- An address of version 6. A scope follows a percent sign, is not empty and
has no other percent sign. -/
def readV6? (cs : List Char) : Option Address :=
  match Text.cut? '%' cs with
  | none => (readGroups? cs).map fun gs => .v6 (ofGroups gs) none
  | some (front, scope) =>
    if scope = [] ∨ scope.contains '%' then none
    else (readGroups? front).map fun gs => .v6 (ofGroups gs) (some (String.ofList scope))

/-- **The address a text stands for.** No slash is part of an address, not
even in a scope. -/
def read? (s : String) : Option Address :=
  let cs := s.toList
  if cs.contains '/' then none
  else
    match readDotted? cs with
    | some bits => some (.v4 bits)
    | none => readV6? cs

/-- The version of the protocol. -/
def version : Address → Nat
  | .v4 _ => 4
  | .v6 .. => 6

/-- The bits of an address as a number. -/
def toNat : Address → Nat
  | .v4 bits => bits.toNat
  | .v6 bits _ => bits.toNat

/-- **The address behind a mapped one.** An address of version 6 whose upper
96 bits are `0xFFFF` carries one of version 4. -/
def unmapped : Address → Address
  | .v6 bits scope =>
    if bits.toNat / 0x100000000 = 0xFFFF then
      .v4 (BitVec.ofNat 32 (bits.toNat % 0x100000000))
    else .v6 bits scope
  | other => other

end Address

end QuicTelemetry
