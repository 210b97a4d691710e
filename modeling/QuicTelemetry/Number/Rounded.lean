import QuicTelemetry.Number.Decimal

/-!
# Rounded decimal texts

Texts of a magnitude with a number of digits that is given from outside: a
number of places behind the point, or a number of digits in all. The magnitude
is exact, so the one rounding there is goes to the nearest decimal, and a tie
to the even one.

A point with nothing behind it is left out, unless the caller wants it kept.
-/

namespace QuicTelemetry.Decimal

/-- The digits of a number, at least so many. -/
def paddedDigits (least n : Nat) : List Char :=
  let digits := Nat.toDigits 10 n
  List.replicate (least - digits.length) '0' ++ digits

/-- Digits with a point behind the first of them. -/
def pointed (keepPoint : Bool) (whole places : List Char) : List Char :=
  if places = [] && !keepPoint then whole else whole ++ '.' :: places

/-- **A magnitude with so many places** behind the point. -/
def fixed (keepPoint : Bool) (places units : Nat) : List Char :=
  let n := Binary64.nearestEven (units * Nat.pow 10 places) Binary64.unitsPerOne
  let digits := paddedDigits (places + 1) n
  pointed keepPoint (digits.take (digits.length - places)) (digits.drop (digits.length - places))

/-- So many leading digits of a magnitude, and the place of the point, counted
from the front. -/
def leading (count units : Nat) : List Char × Int :=
  if units = 0 then (List.replicate count '0', 1)
  else
    let point := pointOf units
    let shift := (count : Int) - point
    let n := Binary64.nearestEven (units * Nat.pow 10 shift.toNat)
      (Binary64.unitsPerOne * Nat.pow 10 (-shift).toNat)
    -- all nines may round up to a power of ten, which has a digit more
    if n = Nat.pow 10 count then (Nat.toDigits 10 (n / 10), point + 1)
    else (Nat.toDigits 10 n, point)

/-- The exponent of a number whose point stands at a place. -/
def exponentOf (point : Int) : List Char :=
  let exponent := point - 1
  'e' :: (if exponent < 0 then '-' else '+') :: paddedDigits 2 exponent.natAbs

/-- **A magnitude with an exponent** and so many places behind the point. -/
def scientific (keepPoint : Bool) (places units : Nat) : List Char :=
  let (digits, point) := leading (places + 1) units
  pointed keepPoint (digits.take 1) (digits.drop 1) ++ exponentOf point

/-- **A magnitude with so many digits in all**, with an exponent if it is small
or has more whole digits. Zeros behind the last digit are left out, unless the
caller wants the point kept. -/
def general (keepPoint : Bool) (count units : Nat) : List Char :=
  let count := max 1 count
  let (digits, point) := leading count units
  let kept := if keepPoint then digits else (digits.reverse.dropWhile (· == '0')).reverse
  let kept := if kept = [] then ['0'] else kept
  if point ≤ -4 ∨ point > count then
    pointed keepPoint (kept.take 1) (kept.drop 1) ++ exponentOf point
  else if point ≤ 0 then
    '0' :: '.' :: List.replicate (-point).toNat '0' ++ kept
  else
    let whole := kept.take point.toNat
    pointed keepPoint (whole ++ List.replicate (point.toNat - whole.length) '0')
      (kept.drop point.toNat)

end QuicTelemetry.Decimal
