import QuicTelemetry.Document.Kind
import QuicTelemetry.Fault

/-!
# Scalars

Reading the text of a scalar as what its kind says. A plain scalar has the
kind its text asks for and is nearly always read; a tag may ask for what the
text is not.

Of the values only truth values and texts are of use to a reader of flags. The
others are read for their faults.
-/

namespace QuicTelemetry.Document

/-- **What a node is read as.** -/
inductive Datum where
  /-- A truth value. -/
  | bool (b : Bool)
  /-- A text. -/
  | text (s : String)
  /-- A scalar of another kind. -/
  | other
  /-- A collection, which is no key. -/
  | collection
  deriving DecidableEq, Repr

namespace Scalar

/-- What the words for truth values stand for, in lower case. -/
def truthValues : List (String × Bool) :=
  [("yes", true), ("no", false), ("true", true), ("false", false), ("on", true), ("off", false)]

/-- The truth value a word stands for, letter case aside. -/
def truth (s : String) : Except Fault Bool :=
  match truthValues.lookup (Text.lower s) with
  | some b => .ok b
  | none => .error .missingKey

/-- A text without its underscores. -/
def unmarked (s : String) : List Char := s.toList.filter (· ≠ '_')

/-- What stands behind the sign of a number. There has to be a character. -/
def signless : List Char → Except Fault (List Char)
  | [] => .error .emptyText
  | cs => .ok (Kind.unsigned cs)

/-! ## Whole numbers -/

/-- The value of a digit in a base up to sixteen. -/
def digitIn? (base : Nat) (c : Char) : Option Nat :=
  let value := (Text.digitValue? c).or (Address.hexDigit? c)
  value.filter (· < base)

/-- The letter that marks a base. -/
def baseMark? (base : Nat) : Option Char := [(2, 'b'), (8, 'o'), (16, 'x')].lookup base

/-- The most digits a decimal number may have. -/
def mostDigits : Nat := 4300

/-- Whether a text is a whole number in a base: blanks around it, a sign and
the mark of the base are allowed. -/
def isWhole (base : Nat) (cs : List Char) : Bool :=
  let cs := Kind.unsigned (Text.trimBlanks cs)
  let digits := match cs, baseMark? base with
    | '0' :: c :: rest, some mark => if c.toLower = mark then rest else cs
    | cs, _ => cs
  !digits.isEmpty && digits.all (fun c => (digitIn? base c).isSome)
    && (base != 10 || digits.length ≤ mostDigits)

/-- Whether the text of a whole number can be read. -/
def wholeFault? (s : String) : Except Fault Unit := do
  let check (ok : Bool) : Except Fault Unit := if ok then .ok () else .error .malformed
  match ← signless (unmarked s) with
  | [] => .error .emptyText
  | ['0'] => .ok ()
  | '0' :: 'b' :: rest => check (isWhole 2 rest)
  | '0' :: 'x' :: rest => check (isWhole 16 rest)
  | '0' :: rest => check (isWhole 8 ('0' :: rest))
  | cs => check ((Text.fields ':' cs).all (isWhole 10))

/-! ## Binary64 numbers -/

/-- The number of places in base sixty from which on a number is beyond the
range of binary64. -/
def mostSixtieths : Nat := 175

/-- Whether the text of a binary64 number can be read. -/
def realFault? (s : String) : Except Fault Unit := do
  let lowered := (Text.lower (String.ofList (unmarked s))).toList
  let cs ← signless lowered
  if cs = ".inf".toList ∨ cs = ".nan".toList then .ok ()
  else
    let places := Text.fields ':' cs
    if places.all fun place => (Binary64.ofText? (String.ofList place)).isSome then
      if places.length < mostSixtieths then .ok () else .error .overflow
    else .error .malformed

/-! ## Raw bytes -/

/-- Whether a character is one of the sixty-four that stand for six bits. -/
def isSextet (c : Char) : Bool := c.isAlphanum || c == '+' || c == '/'

/-- Whether a text in sextets is complete: groups of four, the last one filled
up with equals signs. Other characters do not count. The first argument is the
number of sextets of the group so far, the second that of the equals signs
behind it. -/
def isFilled (sextets pads : Nat) : List Char → Bool
  | [] => sextets == 0
  | c :: rest =>
    if c = '=' then
      if 2 ≤ sextets && 4 ≤ sextets + pads + 1 then true else isFilled sextets (pads + 1) rest
    else if isSextet c then isFilled ((sextets + 1) % 4) 0 rest
    else isFilled sextets pads rest

/-- Whether the text of raw bytes can be read. -/
def binaryFault? (s : String) : Except Fault Unit :=
  let cs := s.toList
  if cs.all (fun c => c.toNat < 128) && isFilled 0 0 cs then .ok () else .error .unreadable

/-! ## Dates -/

/-- Whether a year has a day more. -/
def isLeap (year : Nat) : Bool := year % 4 == 0 && (year % 100 != 0 || year % 400 == 0)

/-- The number of days of a month. -/
def daysIn (year month : Nat) : Nat :=
  if month = 2 then if isLeap year then 29 else 28
  else if [4, 6, 9, 11].contains month then 30
  else 31

/-- Whether there is such a date, time of day and zone. -/
def isStamp (t : Kind.Stamp) : Bool :=
  1 ≤ t.year && 1 ≤ t.month && t.month ≤ 12 && 1 ≤ t.day && t.day ≤ daysIn t.year t.month
    && t.offset < 24 * 60
    && match t.time with
      | none => true
      | some (hour, minute, second) => hour < 24 && minute < 60 && second < 60

/-- Whether the text of a date can be read. -/
def timeFault? (s : String) : Except Fault Unit :=
  let cs := s.toList
  let cs := if cs.getLast? = some '\n' then cs.dropLast else cs
  match Kind.stamp? true cs with
  | none => .error .absent
  | some t => if isStamp t then .ok () else .error .malformed

end Scalar

/-- **What a scalar of a kind is read as.** -/
def Kind.read (kind : Kind) (s : String) : Except Fault Datum :=
  match kind with
  | .null => .ok .other
  | .bool => (Scalar.truth s).map .bool
  | .int => (Scalar.wholeFault? s).map fun _ => .other
  | .real => (Scalar.realFault? s).map fun _ => .other
  | .binary => (Scalar.binaryFault? s).map fun _ => .other
  | .time => (Scalar.timeFault? s).map fun _ => .other
  | .text => .ok (.text s)
  | _ => .error .unreadable

end QuicTelemetry.Document
