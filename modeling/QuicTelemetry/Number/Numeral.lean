import QuicTelemetry.Number.Binary64
import QuicTelemetry.Text.Blank
import QuicTelemetry.Text.DecimalDigit

/-!
# Numerals

Reading a binary64 number from a text. Blanks around the numeral are passed
over, digits of every script count, and an underscore may stand between two
digits. The names of the infinities and of `nan` are read in any letter case.
-/

namespace QuicTelemetry.Numeral

/-- The text with every decimal digit in ASCII, and without underscores; none
if an underscore does not stand between two digits. The first argument tells
whether a digit stands in front. -/
def plainDigits? (afterDigit : Bool) : List Char → Option (List Char)
  | [] => some []
  | '_' :: rest =>
    match rest with
    | c :: _ =>
      if afterDigit && (Text.digitValue? c).isSome then plainDigits? false rest else none
    | [] => none
  | c :: rest =>
    match Text.digitValue? c with
    | some value => (plainDigits? true rest).map (Nat.digitChar value :: ·)
    | none => (plainDigits? false rest).map (c :: ·)

/-- A sign in front, if there is one, and the rest. -/
def sign : List Char → Bool × List Char
  | '-' :: rest => (true, rest)
  | '+' :: rest => (false, rest)
  | rest => (false, rest)

/-- The number that some ASCII digits stand for. -/
def natOf (digits : List Char) : Nat :=
  digits.foldl (fun n c => 10 * n + (c.toNat - '0'.toNat)) 0

/-- The exponent behind a mantissa: zero if nothing stands there. -/
def exponent? : List Char → Option Int
  | [] => some 0
  | c :: rest =>
    if c = 'e' ∨ c = 'E' then
      let (negative, digits) := sign rest
      if digits ≠ [] ∧ digits.all Char.isDigit then
        some (if negative then -(natOf digits : Int) else natOf digits)
      else none
    else none

/-- A numeral without a sign, in ASCII digits and without underscores. -/
def unsigned? (negative : Bool) (cs : List Char) : Option Binary64 :=
  let word := String.ofList (cs.map Char.toLower)
  if word = "inf" ∨ word = "infinity" then some (.infinite negative)
  else if word = "nan" then some .nan
  else
    let whole := cs.takeWhile Char.isDigit
    let rest := cs.dropWhile Char.isDigit
    let (places, rest) := match rest with
      | '.' :: rest => (rest.takeWhile Char.isDigit, rest.dropWhile Char.isDigit)
      | rest => ([], rest)
    if whole = [] ∧ places = [] then none
    else
      (exponent? rest).map fun exponent =>
        Binary64.ofDecimal negative (natOf (whole ++ places)) (exponent - places.length)

/-- **The number a text stands for**, if it is a numeral. -/
def read? (s : String) : Option Binary64 := do
  let cs ← plainDigits? false (Text.trimBlanks s.toList)
  let (negative, digits) := sign cs
  unsigned? negative digits

end QuicTelemetry.Numeral

namespace QuicTelemetry

/-- The number a text stands for, if it is a numeral. -/
def Binary64.ofText? (s : String) : Option Binary64 := Numeral.read? s

end QuicTelemetry
