import QuicTelemetry.Number.Binary64

/-!
# Decimal texts of binary64 numbers

A finite number is written with **the fewest digits that read back as the
same number**, and of the decimals with that many digits the one nearest to
it. The reals that round to a number form an interval around it; if a decimal
grid has a point in that interval, then one of the two grid points next to the
number lies in it, so it is enough to try these two for 1, 2, … 17 digits.

How the digits are laid out is a separate decision, and a record: `Layout`
says how large a number stays positional, and how the infinities and `nan` are
spelled. The three layouts of this library differ in nothing else.
-/

namespace QuicTelemetry

/-- **A positive decimal**: its digits and the place of the point, counted
from the front, so that `⟨"25", 1⟩` is 2.5. -/
structure Decimal where
  /-- The digits, neither the first nor the last of them zero. -/
  digits : List Char
  /-- How many digits stand before the point; below one, zeros follow it. -/
  point : Int
  deriving Repr, DecidableEq

namespace Decimal

/-- A coefficient without its trailing zeros, and how many these were. The
second argument bounds their number. -/
def dropZeros (coefficient : Nat) : Nat → Nat × Nat
  | 0 => (coefficient, 0)
  | places + 1 =>
    if coefficient ≠ 0 ∧ coefficient % 10 = 0 then
      let (rest, zeros) := dropZeros (coefficient / 10) places
      (rest, zeros + 1)
    else (coefficient, 0)

/-- The decimal `coefficient · 10 ^ exponent`. -/
def ofCoefficient (coefficient : Nat) (exponent : Int) : Decimal :=
  let (rest, zeros) := dropZeros coefficient 400
  let digits := Nat.toDigits 10 rest
  ⟨digits, digits.length + exponent + zeros⟩

/-- Four times the least and four times the greatest number of units that
round to a positive magnitude: half a step to either side, where the step
below a power of two is half as wide. -/
def readBackInterval (units : Nat) : Nat × Nat :=
  let step := Nat.pow 2 (Binary64.excess units)
  let below := if 1 < step ∧ units = Nat.pow 2 52 * step then step else 2 * step
  (4 * units - below, 4 * units + 2 * step)

/-- Whether the ends of the interval round to the magnitude as well, which
they do if its significand is even. -/
def takesEnds (units : Nat) : Bool := units / Nat.pow 2 (Binary64.excess units) % 2 = 0

/-- The power of ten next above a positive magnitude: `10 ^ (p - 1) ≤ m < 10 ^ p`. -/
def pointOf (units : Nat) : Int :=
  (Nat.toDigits 10 (units * Nat.pow 10 400 / Binary64.unitsPerOne)).length - 400

/-- The nearer of the two neighbours of a magnitude on the grid of multiples
of `10 ^ exponent` that read back, if one does. -/
def onGrid? (units : Nat) (exponent : Int) : Option Nat :=
  -- everything is scaled to whole numbers: the magnitude by `up`, a step of the grid to `unit`
  let up := Nat.pow 10 (-exponent).toNat
  let unit := Nat.pow 10 exponent.toNat * Binary64.unitsPerOne
  let below := units * up / unit
  let (least, greatest) := readBackInterval units
  let readsBack (c : Nat) : Bool :=
    let four := 4 * c * unit
    if takesEnds units then least * up ≤ four && four ≤ greatest * up
    else least * up < four && four < greatest * up
  let gap := units * up - below * unit
  -- where both neighbours read back, the nearer one wins, and a tie goes to the even one
  match readsBack below, readsBack (below + 1) with
  | true, true =>
    if 2 * gap < unit ∨ (2 * gap = unit ∧ below % 2 = 0) then some below else some (below + 1)
  | true, false => some below
  | false, true => some (below + 1)
  | false, false => none

/-- The first grid that has a decimal which reads back, from `digits` digits
on. -/
def search (units : Nat) (point : Int) (digits : Nat) : Nat → Decimal
  | 0 => ofCoefficient (units / Binary64.unitsPerOne) 0
  | fuel + 1 =>
    match onGrid? units (point - digits) with
    | some coefficient => ofCoefficient coefficient (point - digits)
    | none => search units point (digits + 1) fuel

/-- **The shortest decimal that reads back** as the given positive number of
units. Seventeen digits always do. -/
def shortest (units : Nat) : Decimal := search units (pointOf units) 1 17

/-! ## Layout -/

/-- How the text of a number looks. -/
structure Layout where
  /-- A number is positional if its point is at most here, … -/
  mostWhole : Int
  /-- … or, for one that is not positive, at most here, … -/
  mostWholeNegative : Int
  /-- … and beyond here; otherwise it has an exponent of two digits at least. -/
  mostZeros : Int := -4
  /-- The text of plus infinity. -/
  infinity : String
  /-- The text of minus infinity. -/
  negativeInfinity : String
  /-- The text of what has no value. -/
  undefined : String

/-- The plain layout: positional from `0.0001` up to sixteen whole digits. -/
def Layout.plain : Layout where
  mostWhole := 16
  mostWholeNegative := 16
  infinity := "inf"
  negativeInfinity := "-inf"
  undefined := "nan"

/-- The layout of JSON texts: the plain one with other names for what is not
finite. -/
def Layout.json : Layout :=
  { Layout.plain with
    infinity := "Infinity", negativeInfinity := "-Infinity", undefined := "NaN" }

/-- The layout of exposition texts: positive numbers have an exponent from
seven whole digits on. -/
def Layout.exposition : Layout where
  mostWhole := 6
  mostWholeNegative := 16
  infinity := "+Inf"
  negativeInfinity := "-Inf"
  undefined := "NaN"

/-- The positional text: a point always stands between two digits. -/
def positional (d : Decimal) : List Char :=
  if d.point ≤ 0 then '0' :: '.' :: List.replicate (-d.point).toNat '0' ++ d.digits
  else
    let whole := d.point.toNat
    if d.digits.length ≤ whole then
      d.digits ++ List.replicate (whole - d.digits.length) '0' ++ ['.', '0']
    else d.digits.take whole ++ '.' :: d.digits.drop whole

/-- The text with an exponent: one digit before the point, and no point after
a single digit. -/
def exponential (d : Decimal) : List Char :=
  let exponent := d.point - 1
  let size := Nat.toDigits 10 exponent.natAbs
  let mantissa := match d.digits with
    | [] => []
    | [digit] => [digit]
    | digit :: rest => digit :: '.' :: rest
  mantissa ++ 'e' :: (if exponent < 0 then '-' else '+')
    :: List.replicate (2 - size.length) '0' ++ size

end Decimal

namespace Binary64

/-- **The text of a number** in a layout. -/
def render (layout : Decimal.Layout) : Binary64 → String
  | .nan => layout.undefined
  | .infinite true => layout.negativeInfinity
  | .infinite false => layout.infinity
  | .finite negative units _ =>
    let body :=
      if units = 0 then "0.0".toList
      else
        let d := Decimal.shortest units
        let most := if negative then layout.mostWholeNegative else layout.mostWhole
        if layout.mostZeros < d.point ∧ d.point ≤ most then d.positional else d.exponential
    String.ofList (if negative then '-' :: body else body)

/-- The plain text of a number. -/
def text (x : Binary64) : String := x.render .plain

instance : ToString Binary64 := ⟨text⟩

end Binary64

end QuicTelemetry
