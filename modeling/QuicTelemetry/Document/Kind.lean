import QuicTelemetry.Number.Numeral
import QuicTelemetry.Text.LowerCase
import QuicTelemetry.Text.Fields

/-!
# Kinds of nodes

What a node of a document stands for is told by its tag. A plain scalar
without one is told by its text: `yes` and `Off` are truth values, `0x1F` and
`1:30` whole numbers, `2024-01-31` a date, and what is none of these is a text.
Letter case counts: `oN` is a text.
-/

namespace QuicTelemetry.Document

/-- **The kind of a node.** -/
inductive Kind where
  /-- The absence of a value. -/
  | null
  /-- A truth value. -/
  | bool
  /-- A whole number. -/
  | int
  /-- A binary64 number. -/
  | real
  /-- Raw bytes. -/
  | binary
  /-- A date, or a date with a time of day. -/
  | time
  /-- A text. -/
  | text
  /-- A sequence. -/
  | sequence
  /-- A mapping. -/
  | mapping
  /-- A set. -/
  | set
  /-- A sequence of mappings of one entry each. -/
  | pairs
  /-- The key whose value is merged into its mapping. -/
  | merge
  /-- The key for the main value of a mapping. -/
  | default
  /-- A kind without a meaning here. -/
  | unknown
  deriving DecidableEq, Repr

namespace Kind

/-- What all tags of the notation itself start with. -/
def tagFront : String := "tag:yaml.org,2002:"

/-- The tags of the notation, without their front. -/
def tags : List (String × Kind) :=
  [("null", null), ("bool", bool), ("int", int), ("float", real), ("binary", binary),
    ("timestamp", time), ("str", text), ("seq", sequence), ("map", mapping), ("set", set),
    ("omap", pairs), ("pairs", pairs), ("merge", merge), ("value", default)]

/-- **The kind a tag stands for.** -/
def ofTag (tag : String) : Kind :=
  ((tags.find? fun (name, _) => tagFront ++ name == tag).map Prod.snd).getD unknown

/-! ## Plain scalars -/

/-- The words that stand for truth values. -/
def truthWords : List String :=
  ["yes", "Yes", "YES", "no", "No", "NO", "true", "True", "TRUE", "false", "False", "FALSE", "on",
    "On", "ON", "off", "Off", "OFF"]

/-- A text without the sign in front. -/
def unsigned (cs : List Char) : List Char :=
  match cs with
  | '+' :: rest | '-' :: rest => rest
  | rest => rest

/-- Whether a character is a digit or an underscore. -/
def isDigitOrMark (c : Char) : Bool := c.isDigit || c == '_'

/-- Whether a text is one digit and then digits and underscores. -/
def isMarkedNumeral : List Char → Bool
  | [] => false
  | c :: rest => c.isDigit && rest.all isDigitOrMark

/-- Whether a text is a number below sixty in one or two digits. -/
def isSixtieth : List Char → Bool
  | [a] => a.isDigit
  | [a, b] => '0' ≤ a && a ≤ '5' && b.isDigit
  | _ => false

/-- Whether a text is not empty and of characters that pass a test. -/
def isRun (test : Char → Bool) (cs : List Char) : Bool := !cs.isEmpty && cs.all test

/-- Whether a text is a whole number in one of the bases, or in base sixty
with colons. -/
def isInt (cs : List Char) : Bool :=
  match unsigned cs with
  | '0' :: 'b' :: digits => isRun (fun c => c == '0' || c == '1' || c == '_') digits
  | '0' :: 'x' :: digits =>
    isRun (fun c => isDigitOrMark c || ('a' ≤ c && c ≤ 'f') || ('A' ≤ c && c ≤ 'F')) digits
  | ['0'] => true
  | '0' :: digits => isRun (fun c => ('0' ≤ c && c ≤ '7') || c == '_') digits
  | digits =>
    match Text.fields ':' digits with
    | [] => false
    | first :: sixtieths => isMarkedNumeral first && sixtieths.all isSixtieth

/-- Whether a text is the exponent of a number: a sign has to be there. -/
def isExponent : List Char → Bool
  | [] => true
  | e :: sign :: digits =>
    (e == 'e' || e == 'E') && (sign == '+' || sign == '-') && isRun Char.isDigit digits
  | _ => false

/-- Whether a text is a binary64 number: there has to be a point in it. -/
def isReal (cs : List Char) : Bool :=
  let body := unsigned cs
  if [".inf", ".Inf", ".INF"].contains (String.ofList body) then true
  else if [".nan", ".NaN", ".NAN"].contains (String.ofList cs) then true
  else
    -- without a whole part there must be no sign, so that case looks at the text itself
    match Text.cut? '.' cs, Text.cut? '.' body with
    | some ([], places), _ =>
      isMarkedNumeral (places.takeWhile isDigitOrMark)
        && isExponent (places.dropWhile isDigitOrMark)
    | _, some (whole, places) =>
      match Text.fields ':' whole with
      | [] => false
      | [whole] => isMarkedNumeral whole && isExponent (places.dropWhile isDigitOrMark)
      | first :: sixtieths =>
        isMarkedNumeral first && sixtieths.all isSixtieth && places.all isDigitOrMark
    | _, none => false

/-- **A date, and the time of day behind it.** -/
structure Stamp where
  /-- The year. -/
  year : Nat
  /-- The month. -/
  month : Nat
  /-- The day. -/
  day : Nat
  /-- The hour, the minute and the second. -/
  time : Option (Nat × Nat × Nat) := none
  /-- How many minutes the zone differs from universal time. -/
  offset : Nat := 0
  deriving DecidableEq, Repr

/-- The number in one digit or two, and what follows. -/
def upToTwo? : List Char → Option (List Char × List Char)
  | a :: b :: rest =>
    if a.isDigit then if b.isDigit then some ([a, b], rest) else some ([a], b :: rest) else none
  | [a] => if a.isDigit then some ([a], []) else none
  | [] => none

/-- The number in two digits, and what follows. -/
def two? : List Char → Option (Nat × List Char)
  | a :: b :: rest =>
    if a.isDigit && b.isDigit then some (Numeral.natOf [a, b], rest) else none
  | _ => none

/-- What follows a given character. -/
def after? (c : Char) : List Char → Option (List Char)
  | [] => none
  | d :: rest => if c = d then some rest else none

/-- The offset of a zone in minutes. -/
def zone? (cs : List Char) : Option Nat :=
  match cs.dropWhile fun c => c == ' ' || c == '\t' with
  | [] => if cs = [] then some 0 else none
  | ['Z'] => some 0
  | sign :: rest => do
    if sign ≠ '+' ∧ sign ≠ '-' then none
    let (hours, rest) ← upToTwo? rest
    match rest with
    | [] => some (60 * Numeral.natOf hours)
    | rest => do
      let (minutes, rest) ← two? (← after? ':' rest)
      if rest = [] then some (60 * Numeral.natOf hours + minutes) else none

/-- The time of day behind a date, and the offset of its zone. -/
def clock? (cs : List Char) : Option ((Nat × Nat × Nat) × Nat) := do
  let rest ← match cs with
    | 'T' :: rest | 't' :: rest => some rest
    | ' ' :: rest | '\t' :: rest => some (rest.dropWhile fun c => c == ' ' || c == '\t')
    | _ => none
  let (hour, rest) ← upToTwo? rest
  let (minute, rest) ← two? (← after? ':' rest)
  let (second, rest) ← two? (← after? ':' rest)
  let rest := match rest with
    | '.' :: rest => rest.dropWhile Char.isDigit
    | rest => rest
  return ((Numeral.natOf hour, minute, second), ← zone? rest)

/-- **The date and time a text stands for.** The flag tells whether a date
alone may have a month or a day in one digit. -/
def stamp? (short : Bool) (cs : List Char) : Option Stamp := do
  let year := cs.take 4
  if !(year.length == 4 && year.all Char.isDigit) then none
  let (month, rest) ← upToTwo? (← after? '-' (cs.drop 4))
  let (day, rest) ← upToTwo? (← after? '-' rest)
  let date : Stamp :=
    ⟨Numeral.natOf year, Numeral.natOf month, Numeral.natOf day, none, 0⟩
  match rest with
  | [] => if short || (month.length == 2 && day.length == 2) then some date else none
  | rest => do
    let (clock, offset) ← clock? rest
    return { date with time := some clock, offset }

/-- **The kind of a plain scalar**, told by its text. One line end behind the
text does not count. -/
def ofPlain (s : String) : Kind :=
  if s = "" then null
  else
    let cs := s.toList
    let cs := if cs.getLast? = some '\n' then cs.dropLast else cs
    let word := String.ofList cs
    if truthWords.contains word then bool
    else if isReal cs then real
    else if isInt cs then int
    else if word = "<<" then merge
    else if ["~", "null", "Null", "NULL"].contains word then null
    else if (stamp? false cs).isSome then time
    else if word = "=" then default
    else if ["!", "&", "*"].contains word then unknown
    else text

end Kind

end QuicTelemetry.Document
