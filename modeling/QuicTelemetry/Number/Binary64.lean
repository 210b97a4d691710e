/-!
# Binary64 numbers

A finite 64-bit float is a whole multiple of the least positive one,
`2 ^ (-1074)`. It is therefore held as a sign and a natural number of such
*units*, and every operation is exact arithmetic on units followed by one
rounding: to the nearest number with 53 significant bits, a tie going to the
even neighbour, and to infinity from `2 ^ 1024` on.

Nothing here is approximate, so a statement about sums, comparisons or bounds
is a statement about natural numbers. The two zeros are kept apart, because
their texts differ; `==` on the type is structural, and the numeric
comparisons are `Binary64.lt`, `Binary64.le` and `Binary64.eq`.
-/

namespace QuicTelemetry

namespace Binary64

/-- The number of units in one: the reciprocal of the least positive number. -/
def unitsPerOne : Nat := Nat.pow 2 1074

/-- The first magnitude, in units, that no finite number reaches. -/
def limit : Nat := Nat.pow 2 2098

/-- The whole number nearest to `num / den`, a tie going to the even one. -/
def nearestEven (num den : Nat) : Nat :=
  let whole := num / den
  let twice := 2 * (num % den)
  if den < twice ∨ (twice = den ∧ whole % 2 = 1) then whole + 1 else whole

theorem nearestEven_le {num den bound : Nat} (h : num / den < bound) :
    nearestEven num den ≤ bound := by
  dsimp only [nearestEven]
  split <;> omega

/-- The binary places a magnitude of `whole` units has beyond the 53 that are
kept. -/
def excess (whole : Nat) : Nat := whole.log2 + 1 - 53

theorem div_two_pow_excess_lt (whole : Nat) :
    whole / Nat.pow 2 (excess whole) < Nat.pow 2 53 := by
  refine Nat.div_lt_of_lt_mul ?_
  show whole < 2 ^ excess whole * 2 ^ 53
  rw [← Nat.pow_add]
  exact Nat.lt_of_lt_of_le Nat.lt_log2_self
    (Nat.pow_le_pow_right (by decide) (by unfold excess; omega))

/-- **The magnitude nearest to `num / den` units** that 53 significant bits
can hold. -/
def round (num den : Nat) : Nat :=
  let step := Nat.pow 2 (excess (num / den))
  nearestEven num (den * step) * step

/-- **A magnitude a finite number can have**: 53 significant bits followed by
zeros, below the limit. -/
def Representable (units : Nat) : Prop :=
  (∃ significand places : Nat,
      significand < Nat.pow 2 53 ∧ units = significand * Nat.pow 2 places)
    ∧ units < limit

theorem round_eq_significand (num den : Nat) :
    ∃ significand places : Nat,
      significand < Nat.pow 2 53 ∧ round num den = significand * Nat.pow 2 places := by
  have hle : nearestEven num (den * Nat.pow 2 (excess (num / den))) ≤ Nat.pow 2 53 := by
    refine nearestEven_le ?_
    rw [← Nat.div_div_eq_div_mul]
    exact div_two_pow_excess_lt _
  rcases Nat.lt_or_eq_of_le hle with hlt | heq
  · exact ⟨_, _, hlt, rfl⟩
  · refine ⟨Nat.pow 2 52, excess (num / den) + 1, by decide, ?_⟩
    show nearestEven num (den * Nat.pow 2 (excess (num / den))) * Nat.pow 2 (excess (num / den))
      = _
    rw [heq]
    show 2 ^ 53 * 2 ^ excess (num / den) = 2 ^ 52 * 2 ^ (excess (num / den) + 1)
    rw [← Nat.pow_add, ← Nat.pow_add]
    congr 1
    omega

theorem representable_round {num den : Nat} (h : round num den < limit) :
    Representable (round num den) :=
  ⟨round_eq_significand num den, h⟩

theorem representable_zero : Representable 0 :=
  ⟨⟨0, 0, by decide, rfl⟩, by decide +kernel⟩

end Binary64

/-- **A 64-bit float.** -/
inductive Binary64 where
  /-- A signed whole number of units; zero has both signs. -/
  | finite (negative : Bool) (units : Nat) (representable : Binary64.Representable units)
  /-- An infinity. -/
  | infinite (negative : Bool)
  /-- What has no value. -/
  | nan
  deriving DecidableEq

namespace Binary64

instance : Repr Binary64 where
  reprPrec x _ := match x with
    | .finite negative units _ => f!"finite {negative} {units}"
    | .infinite negative => f!"infinite {negative}"
    | .nan => "nan"

/-- The number of the given sign nearest to `num / den` units. -/
def ofUnits (negative : Bool) (num den : Nat) : Binary64 :=
  if h : round num den < limit then .finite negative (round num den) (representable_round h)
  else .infinite negative

/-- A zero of the given sign. -/
def zero (negative : Bool) : Binary64 := .finite negative 0 representable_zero

instance : Inhabited Binary64 := ⟨zero false⟩

/-- Whether the number is neither infinite nor `nan`. -/
def isFinite : Binary64 → Bool
  | .finite .. => true
  | _ => false

/-- Whether the sign is minus; `nan` has none. -/
def isNegative : Binary64 → Bool
  | .finite negative .. => negative
  | .infinite negative => negative
  | .nan => false

/-- **The value of a finite number**, in units. -/
def units? : Binary64 → Option Int
  | .finite negative units _ => some (if negative then -(units : Int) else units)
  | _ => none

/-! ## Order -/

/-- Numeric comparison: false as soon as one side is `nan`. -/
def lt : Binary64 → Binary64 → Bool
  | .nan, _ | _, .nan => false
  | .infinite a, .infinite b => a && !b
  | .infinite a, .finite .. => a
  | .finite .., .infinite b => !b
  | .finite a m _, .finite b n _ =>
    decide ((if a then -(m : Int) else m) < (if b then -(n : Int) else n))

/-- Numeric equality: the zeros are equal and `nan` differs from itself. -/
def eq : Binary64 → Binary64 → Bool
  | .infinite a, .infinite b => a == b
  | .finite a m _, .finite b n _ =>
    decide ((if a then -(m : Int) else m) = (if b then -(n : Int) else n))
  | _, _ => false

/-- Numeric comparison: false as soon as one side is `nan`. -/
def le (x y : Binary64) : Bool := x.lt y || x.eq y

/-- The larger of two numbers; the first unless the second is larger, so a
`nan` in front stays. -/
def max (x y : Binary64) : Binary64 := if x.lt y then y else x

/-- The smaller of two numbers; the first unless the second is smaller. -/
def min (x y : Binary64) : Binary64 := if y.lt x then y else x

/-! ## Arithmetic -/

/-- The number nearest to a signed number of units; the sign of zero is
given. -/
def ofSignedUnits (negativeZero : Bool) (units : Int) : Binary64 :=
  if units = 0 then zero negativeZero else ofUnits (decide (units < 0)) units.natAbs 1

/-- The number with the opposite sign. -/
def neg : Binary64 → Binary64
  | .finite negative units h => .finite (!negative) units h
  | .infinite negative => .infinite (!negative)
  | .nan => .nan

/-- **The rounded sum.** An exact zero is negative only if both terms are. -/
def add : Binary64 → Binary64 → Binary64
  | .nan, _ | _, .nan => .nan
  | .infinite a, .infinite b => if a = b then .infinite a else .nan
  | .infinite a, .finite .. => .infinite a
  | .finite .., .infinite b => .infinite b
  | .finite a m _, .finite b n _ =>
    ofSignedUnits (a && b) ((if a then -(m : Int) else m) + (if b then -(n : Int) else n))

/-- The rounded difference. -/
def sub (x y : Binary64) : Binary64 := x.add y.neg

/-- The rounded product with a positive whole number. -/
def mulNat (x : Binary64) (factor : Nat) : Binary64 :=
  match x with
  | .finite negative units _ => ofUnits negative (units * factor) 1
  | other => other

/-! ## Whole numbers and decimals -/

/-- The number nearest to a whole one, or nothing beyond the finite range. -/
def ofInt? (i : Int) : Option Binary64 :=
  match ofSignedUnits false (i * unitsPerOne) with
  | .finite negative units h => some (.finite negative units h)
  | _ => none

/-- The whole number towards zero from a finite one. -/
def truncate? : Binary64 → Option Int
  | .finite negative units _ =>
    let whole : Int := (units / unitsPerOne : Nat)
    some (if negative then -whole else whole)
  | _ => none

/-- The whole number towards minus infinity from a finite one. -/
def floor? (x : Binary64) : Option Int :=
  x.units?.map fun units => Int.fdiv units unitsPerOne

/-- **The number nearest to `coefficient · 10 ^ exponent`.** Far outside the
range the answer is infinity or zero without any arithmetic. -/
def ofDecimal (negative : Bool) (coefficient : Nat) (exponent : Int) : Binary64 :=
  if coefficient = 0 then zero negative
  else
    -- the place of the first digit decides whether the exact arithmetic is worth while
    let magnitude : Int := (Nat.toDigits 10 coefficient).length + exponent
    if 400 < magnitude then .infinite negative
    else if magnitude < -400 then zero negative
    else if 0 ≤ exponent then
      ofUnits negative (coefficient * Nat.pow 10 exponent.toNat * unitsPerOne) 1
    else ofUnits negative (coefficient * unitsPerOne) (Nat.pow 10 exponent.natAbs)

instance : OfScientific Binary64 where
  ofScientific mantissa negativeExponent exponent :=
    ofDecimal false mantissa (if negativeExponent then -(exponent : Int) else exponent)

instance (n : Nat) : OfNat Binary64 n := ⟨ofDecimal false n 0⟩

/-- The sum of a list, from zero and from the left. -/
def sum (xs : List Binary64) : Binary64 := xs.foldl add (zero false)

end Binary64

end QuicTelemetry
