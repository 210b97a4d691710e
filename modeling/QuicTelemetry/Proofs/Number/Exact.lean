import Mathlib.Algebra.Group.Int.Defs
import Mathlib.Algebra.Group.Nat.Defs
import QuicTelemetry.Amount

/-!
# Exact arithmetic

A sum of binary64 numbers is rounded, so it depends on the order of its terms
and may differ from the sum of their values. It does neither where nothing is
rounded, and that is decided by the values alone: the values of finite numbers
are whole numbers of units, and **a sum whose value a finite number can have is
that number** (`Binary64.units?_add`).

Two numbers with one value need not be the same, as there are two zeros.
`Binary64.SameNumber` is equality up to the sign of zero, and sums respect it.
-/

namespace QuicTelemetry

namespace Binary64

/-! ## Rounding -/

/-- What 53 significant bits can hold has no excess bit that is not zero. -/
theorem two_pow_excess_dvd {n : Nat} (h : Representable n) : 2 ^ excess n ∣ n := by
  obtain ⟨⟨significand, places, hs, hn⟩, -⟩ := h
  have hn : n = significand * 2 ^ places := hn
  have hs : significand < 2 ^ 53 := hs
  rcases Nat.eq_zero_or_pos n with h0 | hpos
  · rw [h0]
    exact Nat.dvd_zero _
  · have hlt : n < 2 ^ (53 + places) := by
      rw [hn, Nat.pow_add]
      exact Nat.mul_lt_mul_of_pos_right hs (Nat.two_pow_pos places)
    have hlog := (Nat.log2_lt (Nat.pos_iff_ne_zero.mp hpos)).mpr hlt
    rw [hn]
    refine Nat.dvd_trans (Nat.pow_dvd_pow 2 ?_) (Nat.dvd_mul_left _ _)
    rw [← hn]
    unfold excess
    omega

/-- A whole quotient is its own nearest whole number. -/
theorem nearestEven_of_dvd {num den : Nat} (hden : 0 < den) (h : den ∣ num) :
    nearestEven num den = num / den := by
  have hmod : num % den = 0 := Nat.mod_eq_zero_of_dvd h
  simp only [nearestEven]
  rw [hmod]
  exact if_neg (by omega)

/-- A whole number of units is rounded to a multiple of its excess. -/
theorem round_one (n : Nat) : round n 1 = nearestEven n (2 ^ excess n) * 2 ^ excess n := by
  show nearestEven n (1 * 2 ^ excess (n / 1)) * 2 ^ excess (n / 1) = _
  rw [Nat.div_one, Nat.one_mul]

/-- **Rounding keeps what a finite number can have.** -/
theorem round_of_representable {n : Nat} (h : Representable n) : round n 1 = n := by
  have hstep : 2 ^ excess n ∣ n := two_pow_excess_dvd h
  rw [round_one, nearestEven_of_dvd (Nat.two_pow_pos _) hstep]
  exact Nat.div_mul_cancel hstep

/-- The nearest whole number is at most half a one too large. -/
theorem two_mul_nearestEven_le (num : Nat) {den : Nat} (hden : 0 < den) :
    2 * (nearestEven num den * den) ≤ 2 * num + den := by
  have hdiv : num / den * den + num % den = num := by
    rw [Nat.mul_comm]
    exact Nat.div_add_mod num den
  have hlt : num % den < den := Nat.mod_lt _ hden
  simp only [nearestEven]
  split
  · rw [Nat.add_mul, Nat.one_mul]
    omega
  · omega

/-- A magnitude with excess bits has all of the 53 before them. -/
theorem two_pow_52_mul_le {n : Nat} (h : 0 < excess n) : 2 ^ 52 * 2 ^ excess n ≤ n := by
  have hn : n ≠ 0 := by
    rintro rfl
    exact absurd h (by decide)
  have hlog : 52 + excess n = n.log2 := by
    unfold excess at h ⊢
    omega
  rw [← Nat.pow_add, hlog]
  exact Nat.log2_self_le hn

/-- **Rounding adds at most one part in 2⁵³.** -/
theorem round_mul_le (n : Nat) : 2 ^ 53 * round n 1 ≤ (2 ^ 53 + 1) * n := by
  have hhalf := two_mul_nearestEven_le n (Nat.two_pow_pos (excess n))
  rw [round_one]
  rcases Nat.eq_zero_or_pos (excess n) with h0 | hpos
  · rw [h0, Nat.pow_zero, nearestEven_of_dvd Nat.one_pos (Nat.one_dvd n), Nat.div_one]
    omega
  · have hstep := two_pow_52_mul_le hpos
    omega

theorem round_le_two_mul (n : Nat) : round n 1 ≤ 2 * n := by
  have hround := round_mul_le n
  omega

/-- The nearest whole number is at least the quotient. -/
theorem div_le_nearestEven (num den : Nat) : num / den ≤ nearestEven num den := by
  simp only [nearestEven]
  split
  · exact Nat.le_succ _
  · exact Nat.le_refl _

/-- **Rounding does not fall below what a finite number can have.** -/
theorem le_round {n m : Nat} (hn : Representable n) (h : n ≤ m) : n ≤ round m 1 := by
  have hdiv : m / 2 ^ excess m * 2 ^ excess m ≤ round m 1 := by
    rw [round_one]
    exact Nat.mul_le_mul_right _ (div_le_nearestEven _ _)
  refine Nat.le_trans ?_ hdiv
  rcases Nat.eq_zero_or_pos n with rfl | hpos
  · exact Nat.zero_le _
  · have hlog : n.log2 ≤ m.log2 :=
      (Nat.le_log2 (by omega)).mpr (Nat.le_trans (Nat.log2_self_le (by omega)) h)
    rcases Nat.eq_or_lt_of_le hlog with heq | hlt
    · -- as many bits: both are rounded to the same multiples
      have hexcess : excess n = excess m := by
        unfold excess
        rw [heq]
      have hstep := two_pow_excess_dvd hn
      rw [hexcess] at hstep
      rw [← Nat.div_mul_cancel hstep]
      exact Nat.mul_le_mul_right _ (Nat.div_le_div_right h)
    · -- fewer bits: the first bit of the larger one stays
      have hfirst : 2 ^ m.log2 ≤ m / 2 ^ excess m * 2 ^ excess m := by
        have hdvd : 2 ^ excess m ∣ 2 ^ m.log2 := Nat.pow_dvd_pow 2 (by unfold excess; omega)
        rw [← Nat.div_mul_cancel hdvd]
        exact Nat.mul_le_mul_right _ (Nat.div_le_div_right (Nat.log2_self_le (by omega)))
      have hbits : n < 2 ^ m.log2 :=
        Nat.lt_of_lt_of_le Nat.lt_log2_self (Nat.pow_le_pow_right (by decide) hlt)
      exact Nat.le_trans (Nat.le_of_lt hbits) hfirst

/-- One has a power of two of units, and 53 bits in front of it are within the
range. -/
theorem exists_places : ∃ places, unitsPerOne = 2 ^ places ∧ 2 ^ (53 + places) ≤ limit := by
  unfold unitsPerOne limit
  -- the exponents alone are compared, no power is evaluated
  have hle : 53 + 1074 ≤ 2098 := by decide
  generalize 1074 = places at hle ⊢
  generalize 2098 = bits at hle ⊢
  exact ⟨places, rfl, Nat.pow_le_pow_right (by decide) hle⟩

/-- Whole numbers up to 2¹⁰²⁴ are within the range. -/
theorem two_pow_mul_unitsPerOne_le {n : Nat} (h : n ≤ 1024) : 2 ^ n * unitsPerOne ≤ limit := by
  unfold unitsPerOne limit
  have hbits : n + 1074 ≤ 2098 := by omega
  generalize 1074 = places at hbits ⊢
  generalize 2098 = bits at hbits ⊢
  show 2 ^ n * 2 ^ places ≤ 2 ^ bits
  rw [← Nat.pow_add]
  exact Nat.pow_le_pow_right (by decide) hbits

theorem unitsPerOne_pos : 0 < unitsPerOne := by
  obtain ⟨places, hunit, -⟩ := exists_places
  rw [hunit]
  exact Nat.two_pow_pos places

theorem representable_one : Representable 1 := by
  obtain ⟨places, -, hlimit⟩ := exists_places
  exact ⟨⟨1, 0, by decide, rfl⟩, Nat.lt_of_lt_of_le (Nat.one_lt_two_pow (by omega)) hlimit⟩

/-- Rounding keeps what is not zero. -/
theorem round_pos {n : Nat} (h : 0 < n) : 0 < round n 1 := le_round representable_one h

/-- A rounded number of units is finite with the rounded magnitude, or infinite. -/
theorem ofUnits_cases (negative : Bool) (num den : Nat) :
    (∃ h, ofUnits negative num den = .finite negative (round num den) h)
      ∨ ofUnits negative num den = .infinite negative := by
  by_cases h : round num den < limit
  · exact .inl ⟨representable_round h, dif_pos h⟩
  · exact .inr (dif_neg h)

/-- **Units well below the limit are finite** after rounding. -/
theorem ofUnits_of_lt (negative : Bool) {n : Nat} (h : 2 * n < limit) :
    ∃ hround, ofUnits negative n 1 = .finite negative (round n 1) hround := by
  have hround : round n 1 < limit := Nat.lt_of_le_of_lt (round_le_two_mul n) h
  exact ⟨representable_round hround, dif_pos hround⟩

theorem ofUnits_ne_nan (negative : Bool) (num den : Nat) : ofUnits negative num den ≠ .nan := by
  rcases ofUnits_cases negative num den with ⟨h, heq⟩ | heq
  · rw [heq]
    exact Binary64.noConfusion
  · rw [heq]
    exact Binary64.noConfusion

/-! ## Values -/

theorem isFinite_iff {x : Binary64} : x.isFinite = true ↔ ∃ k, x.units? = some k := by
  cases x <;> simp [isFinite, units?]

/-- **The number with a given value**, wherever the value is one a finite
number can have. -/
theorem units?_ofSignedUnits (negativeZero : Bool) {k : Int} (h : Representable k.natAbs) :
    (ofSignedUnits negativeZero k).units? = some k := by
  unfold ofSignedUnits
  split
  · next h0 =>
    rw [h0]
    cases negativeZero <;> rfl
  · next h0 =>
    have hround : round k.natAbs 1 = k.natAbs := round_of_representable h
    unfold ofUnits
    rw [dif_pos (by rw [hround]; exact h.2)]
    simp only [units?, hround]
    by_cases hneg : k < 0
    · rw [decide_eq_true hneg, if_pos rfl]
      congr 1
      omega
    · rw [decide_eq_false hneg, if_neg Bool.false_ne_true]
      congr 1
      omega

/-- **A sum is exact** if a finite number can have its value. -/
theorem units?_add {x y : Binary64} {a b : Int} (hx : x.units? = some a)
    (hy : y.units? = some b) (h : Representable (a + b).natAbs) :
    (x.add y).units? = some (a + b) := by
  cases x with
  | finite s m hm =>
    cases y with
    | finite t n hn =>
      obtain rfl : (if s then -(m : Int) else m) = a := Option.some.inj hx
      obtain rfl : (if t then -(n : Int) else n) = b := Option.some.inj hy
      exact units?_ofSignedUnits _ h
    | infinite t => exact absurd hy (by simp [units?])
    | nan => exact absurd hy (by simp [units?])
  | infinite s => exact absurd hx (by simp [units?])
  | nan => exact absurd hx (by simp [units?])

@[simp] theorem units?_neg (x : Binary64) : x.neg.units? = x.units?.map Neg.neg := by
  cases x with
  | finite negative units h => cases negative <;> simp [neg, units?]
  | infinite negative => rfl
  | nan => rfl

/-- A difference is exact if a finite number can have its value. -/
theorem units?_sub {x y : Binary64} {a b : Int} (hx : x.units? = some a)
    (hy : y.units? = some b) (h : Representable (a - b).natAbs) :
    (x.sub y).units? = some (a - b) := by
  rw [Int.sub_eq_add_neg] at h ⊢
  exact units?_add hx (by rw [units?_neg, hy]; rfl) h

/-- A product that a finite number can have is not rounded. -/
theorem mulNat_of_representable {s : Bool} {m factor : Nat} (hm : Representable m)
    (h : Representable (m * factor)) :
    (finite s m hm).mulNat factor = .finite s (m * factor) h := by
  show ofUnits s (m * factor) 1 = _
  have hround := round_of_representable h
  unfold ofUnits
  rw [dif_pos (by rw [hround]; exact h.2)]
  congr 1

/-! ## Order -/

/-- Finite numbers are ordered as their values are. -/
theorem lt_eq_decide {x y : Binary64} {a b : Int} (hx : x.units? = some a)
    (hy : y.units? = some b) : x.lt y = decide (a < b) := by
  cases x <;> cases y <;> simp_all [units?, lt]

theorem le_eq_decide {x y : Binary64} {a b : Int} (hx : x.units? = some a)
    (hy : y.units? = some b) : x.le y = decide (a ≤ b) := by
  have heq : x.eq y = decide (a = b) := by
    cases x <;> cases y <;> simp_all [units?, eq]
  rw [le, lt_eq_decide hx hy, heq, ← Bool.decide_or]
  exact decide_eq_decide.mpr (by omega)

theorem le_self {x : Binary64} (hx : x.isFinite = true) : x.le x = true := by
  obtain ⟨a, ha⟩ := isFinite_iff.mp hx
  rw [le_eq_decide ha ha]
  exact decide_eq_true (Int.le_refl a)

theorem le_trans {x y z : Binary64} (hxy : x.le y = true) (hyz : y.le z = true) :
    x.le z = true := by
  cases x <;> cases y <;> cases z <;> simp_all [le, lt, eq]
  case finite.finite.finite => omega
  case infinite.infinite.infinite s t u => cases s <;> cases t <;> simp_all

/-- **A whole number below 2⁵³ is one a finite number can have.** -/
theorem representable_whole {i : Int} (h : i.natAbs < 2 ^ 53) :
    Representable (i * unitsPerOne).natAbs := by
  obtain ⟨places, hunit, hlimit⟩ := exists_places
  rw [Int.natAbs_mul, Int.natAbs_natCast, hunit]
  refine ⟨⟨i.natAbs, places, h, rfl⟩, Nat.lt_of_lt_of_le ?_ hlimit⟩
  show i.natAbs * 2 ^ places < 2 ^ (53 + places)
  rw [Nat.pow_add]
  exact Nat.mul_lt_mul_of_pos_right h (Nat.two_pow_pos places)

/-- The whole part of a number that a finite number can have is one, too. -/
theorem representable_div_mul {m : Nat} (h : Representable m) :
    Representable (m / unitsPerOne * unitsPerOne) := by
  obtain ⟨significand, places, hsignificand, hm⟩ := h.1
  have hm : m = significand * 2 ^ places := hm
  have hsignificand : significand < 2 ^ 53 := hsignificand
  obtain ⟨point, hunit, -⟩ := exists_places
  by_cases hplaces : point ≤ places
  · -- nothing is cut off
    have hdvd : unitsPerOne ∣ m := by
      rw [hunit, hm]
      exact Nat.dvd_trans (Nat.pow_dvd_pow 2 hplaces) (Nat.dvd_mul_left _ _)
    rw [Nat.div_mul_cancel hdvd]
    exact h
  · -- what is left of the 53 bits stands before the point
    have hle : m ≤ significand * unitsPerOne := by
      rw [hm, hunit]
      exact Nat.mul_le_mul_left _ (Nat.pow_le_pow_right (by decide) (by omega))
    have hwhole : m / unitsPerOne < 2 ^ 53 :=
      Nat.lt_of_le_of_lt (Nat.div_le_of_le_mul (by rwa [Nat.mul_comm])) hsignificand
    exact representable_whole (i := (m / unitsPerOne : Nat)) hwhole

theorem units?_zero : (0 : Binary64).units? = some 0 := rfl

/-- A difference of finite numbers is that of their values, rounded. -/
theorem exists_sub_eq {x y : Binary64} {a b : Int} (hx : x.units? = some a)
    (hy : y.units? = some b) : ∃ s, x.sub y = ofSignedUnits s (a - b) := by
  cases x with
  | finite s m hm =>
    cases y with
    | finite t n hn =>
      obtain rfl : (if s then -(m : Int) else m) = a := Option.some.inj hx
      obtain rfl : (if t then -(n : Int) else n) = b := Option.some.inj hy
      refine ⟨s && !t, ?_⟩
      show ofSignedUnits _ (_ + (if (!t) = true then -(n : Int) else n)) = _
      congr 1
      cases t <;> simp [Int.sub_eq_add_neg]
    | infinite t => exact absurd hy (by simp [units?])
    | nan => exact absurd hy (by simp [units?])
  | infinite s => exact absurd hx (by simp [units?])
  | nan => exact absurd hx (by simp [units?])

/-- A rounded number of units has the sign of what was rounded. -/
theorem zero_le_ofSignedUnits {s : Bool} {k : Int} :
    (0 : Binary64).le (ofSignedUnits s k) = decide (0 ≤ k) := by
  unfold ofSignedUnits
  split
  · next h0 =>
    rw [h0]
    cases s <;> rfl
  · next h0 =>
    by_cases hneg : k < 0
    · rw [decide_eq_true hneg, decide_eq_false (by omega : ¬ 0 ≤ k)]
      rcases ofUnits_cases true k.natAbs 1 with ⟨hr, heq⟩ | heq
      · have hpos : 0 < round k.natAbs 1 := round_pos (by omega)
        rw [heq, le_eq_decide (x := 0) units?_zero (b := -(round k.natAbs 1 : Nat)) rfl]
        exact decide_eq_false (by omega)
      · rw [heq]
        rfl
    · rw [decide_eq_false hneg, decide_eq_true (by omega : 0 ≤ k)]
      rcases ofUnits_cases false k.natAbs 1 with ⟨hr, heq⟩ | heq
      · rw [heq, le_eq_decide (x := 0) units?_zero (b := (round k.natAbs 1 : Nat)) rfl]
        exact decide_eq_true (Int.natCast_nonneg _)
      · rw [heq]
        rfl

/-- **A number that is not negative does not make a sum smaller**, however the sum is
rounded. -/
theorem le_add {x a : Binary64} (hx : (0 : Binary64).le x = true) (ha : (0 : Binary64).le a = true) :
    x.le (x.add a) = true ∧ (0 : Binary64).le (x.add a) = true := by
  cases x with
  | nan => cases hx
  | infinite s =>
    cases s with
    | true => cases hx
    | false =>
      cases a with
      | nan => cases ha
      | finite t n hn => exact ⟨rfl, rfl⟩
      | infinite t =>
        cases t with
        | true => cases ha
        | false => exact ⟨rfl, rfl⟩
  | finite s m hm =>
    cases a with
    | nan => cases ha
    | infinite t =>
      cases t with
      | true => cases ha
      | false => exact ⟨rfl, rfl⟩
    | finite t n hn =>
      obtain ⟨k, hk⟩ : ∃ k, (finite s m hm).units? = some k := ⟨_, rfl⟩
      obtain ⟨j, hj⟩ : ∃ j, (finite t n hn).units? = some j := ⟨_, rfl⟩
      rw [le_eq_decide units?_zero hk, decide_eq_true_eq] at hx
      rw [le_eq_decide units?_zero hj, decide_eq_true_eq] at ha
      have hrepresentable : Representable k.natAbs := by
        obtain rfl : (if s then -(m : Int) else m) = k := Option.some.inj hk
        cases s <;> simpa using hm
      have hsum : (finite s m hm).add (finite t n hn) = ofSignedUnits (s && t) (k + j) := by
        rw [← Option.some.inj hk, ← Option.some.inj hj]
        rfl
      rw [hsum, zero_le_ofSignedUnits, decide_eq_true_eq]
      refine ⟨?_, by omega⟩
      unfold ofSignedUnits
      split
      · next hzero =>
        rw [le_eq_decide hk (b := 0) (by cases s && t <;> rfl)]
        exact decide_eq_true (by omega)
      · rw [decide_eq_false (by omega : ¬ k + j < 0)]
        have hround : k.natAbs ≤ round (k + j).natAbs 1 := le_round hrepresentable (by omega)
        rcases ofUnits_cases false (k + j).natAbs 1 with ⟨hr, heq⟩ | heq
        · rw [heq, le_eq_decide hk (b := (round (k + j).natAbs 1 : Nat)) rfl]
          exact decide_eq_true (by omega)
        · rw [heq]
          rfl

/-- A rounded number of units that is finite is at most one part in 2⁵³ too
large. -/
theorem units?_ofSignedUnits_le {s : Bool} {k r : Int} (hk : 0 ≤ k)
    (h : (ofSignedUnits s k).units? = some r) : 2 ^ 53 * r ≤ (2 ^ 53 + 1) * k := by
  unfold ofSignedUnits at h
  split at h
  · next h0 =>
    obtain rfl : 0 = r := by
      cases s <;> exact Option.some.inj h
    rw [h0]
    decide
  · rw [decide_eq_false (by omega : ¬ k < 0)] at h
    rcases ofUnits_cases false k.natAbs 1 with ⟨hr, heq⟩ | heq
    · rw [heq] at h
      obtain rfl : (round k.natAbs 1 : Int) = r := Option.some.inj h
      have hround := round_mul_le k.natAbs
      omega
    · rw [heq] at h
      cases h

/-- **A difference of finite numbers is not negative** exactly if the second is at
most the first: it may be rounded, and may be infinite, but keeps its sign. -/
theorem zero_le_sub_eq {x y : Binary64} (hx : x.isFinite = true) (hy : y.isFinite = true) :
    (0 : Binary64).le (y.sub x) = x.le y := by
  obtain ⟨a, ha⟩ := isFinite_iff.mp hx
  obtain ⟨b, hb⟩ := isFinite_iff.mp hy
  obtain ⟨s, hs⟩ := exists_sub_eq hb ha
  rw [hs, zero_le_ofSignedUnits, le_eq_decide ha hb]
  exact decide_eq_decide.mpr (by omega)

/-- A difference is not negative if the second is at most the first. -/
theorem zero_le_sub {x y : Binary64} (hx : x.isFinite = true) (hy : y.isFinite = true)
    (h : x.le y = true) : (0 : Binary64).le (y.sub x) = true :=
  (zero_le_sub_eq hx hy).trans h

/-- A difference of finite numbers is a number. -/
theorem sub_ne_nan {x y : Binary64} (hx : x.isFinite = true) (hy : y.isFinite = true) :
    x.sub y ≠ .nan := by
  cases x with
  | finite s m hm =>
    cases y with
    | finite t n hn =>
      show ofSignedUnits _ ((if s then -(m : Int) else m) + (if !t then -(n : Int) else n)) ≠ nan
      rw [ofSignedUnits]
      generalize (if s then -(m : Int) else m) + (if !t then -(n : Int) else n) = k
      by_cases hk : k = 0
      · rw [if_pos hk]
        exact Binary64.noConfusion
      · rw [if_neg hk]
        exact ofUnits_ne_nan _ _ _
    | infinite t => exact absurd hy Bool.false_ne_true
    | nan => exact absurd hy Bool.false_ne_true
  | infinite s => exact absurd hx Bool.false_ne_true
  | nan => exact absurd hx Bool.false_ne_true

/-- A number cut off at zero is not negative. -/
theorem zero_le_max_zero {x : Binary64} (h : x ≠ .nan) : (0 : Binary64).le (x.max 0) = true := by
  unfold max
  split
  · rfl
  · next hlt =>
    cases x with
    | finite s m hm =>
      rw [lt_eq_decide (x := finite s m hm) (y := 0) rfl units?_zero, decide_eq_true_eq] at hlt
      rw [le_eq_decide (x := 0) (y := finite s m hm) units?_zero rfl, decide_eq_true_eq]
      omega
    | infinite s =>
      cases s
      · rfl
      · exact absurd rfl hlt
    | nan => exact absurd rfl h

/-- A number that is not negative is not cut off. -/
theorem max_zero_of_zero_le {x : Binary64} (h : (0 : Binary64).le x = true) : x.max 0 = x := by
  unfold max
  refine if_neg ?_
  cases x with
  | finite s m hm =>
    rw [le_eq_decide (x := 0) (y := finite s m hm) units?_zero rfl, decide_eq_true_eq] at h
    rw [lt_eq_decide (x := finite s m hm) (y := 0) rfl units?_zero, decide_eq_true_eq]
    omega
  | infinite s =>
    cases s
    · exact Bool.false_ne_true
    · cases h
  | nan => exact Bool.false_ne_true

/-! ## The same number -/

/-- **Two numbers are the same** up to the sign of zero. -/
def SameNumber (x y : Binary64) : Prop := x = y ∨ (x.units? = some 0 ∧ y.units? = some 0)

namespace SameNumber

variable {x y z a b : Binary64}

theorem refl (x : Binary64) : SameNumber x x := .inl rfl

theorem symm (h : SameNumber x y) : SameNumber y x := h.imp Eq.symm And.symm

theorem trans (hxy : SameNumber x y) (hyz : SameNumber y z) : SameNumber x z := by
  rcases hxy with rfl | hxy
  · exact hyz
  · rcases hyz with rfl | hyz
    · exact .inr hxy
    · exact .inr ⟨hxy.1, hyz.2⟩

/-- The sign of a zero has no part in the value that is rounded. -/
theorem ofSignedUnits (s t : Bool) (k : Int) :
    SameNumber (ofSignedUnits s k) (ofSignedUnits t k) := by
  unfold Binary64.ofSignedUnits
  split
  · exact .inr ⟨by cases s <;> rfl, by cases t <;> rfl⟩
  · exact refl _

theorem add_right (h : SameNumber x y) (a : Binary64) : SameNumber (x.add a) (y.add a) := by
  rcases h with rfl | ⟨hx, hy⟩
  · exact refl _
  · cases x with
    | finite s m hm =>
      cases y with
      | finite t n hn =>
        have hxk : (if s then -(m : Int) else m) = 0 := Option.some.inj hx
        have hyk : (if t then -(n : Int) else n) = 0 := Option.some.inj hy
        cases a with
        | finite u k hk =>
          show SameNumber (Binary64.ofSignedUnits _ _) (Binary64.ofSignedUnits _ _)
          rw [hxk, hyk]
          exact ofSignedUnits _ _ _
        | infinite u => exact refl _
        | nan => exact refl _
      | infinite t => exact absurd hy (by simp [units?])
      | nan => exact absurd hy (by simp [units?])
    | infinite s => exact absurd hx (by simp [units?])
    | nan => exact absurd hx (by simp [units?])

end SameNumber

theorem add_comm (x y : Binary64) : x.add y = y.add x := by
  cases x with
  | finite s m hm =>
    cases y with
    | finite t n hn =>
      show ofSignedUnits _ _ = ofSignedUnits _ _
      rw [Bool.and_comm, Int.add_comm]
    | infinite t => rfl
    | nan => rfl
  | infinite s =>
    cases y with
    | finite t n hn => rfl
    | infinite t => cases s <;> cases t <;> rfl
    | nan => rfl
  | nan => cases y <;> rfl

/-- The number with the opposite value has the opposite sign, zero apart. -/
theorem SameNumber.ofSignedUnits_neg (s : Bool) (k : Int) :
    SameNumber (Binary64.ofSignedUnits s (-k)) (Binary64.ofSignedUnits s k).neg := by
  unfold Binary64.ofSignedUnits
  by_cases hk : k = 0
  · rw [if_pos hk, if_pos (by omega)]
    exact .inr ⟨by cases s <;> rfl, by cases s <;> rfl⟩
  · rw [if_neg hk, if_neg (by omega), Int.natAbs_neg]
    have hsign : decide (-k < 0) = !decide (k < 0) := by
      rw [← decide_not]
      exact decide_eq_decide.mpr (by omega)
    rw [hsign]
    refine .inl ?_
    unfold Binary64.ofUnits
    split <;> rfl

/-- **Sums of the same numbers are the same.** -/
theorem SameNumber.add {x y a b : Binary64} (hxy : SameNumber x y) (hab : SameNumber a b) :
    SameNumber (x.add a) (y.add b) := by
  refine (hxy.add_right a).trans ?_
  rw [add_comm y a, add_comm y b]
  exact hab.add_right y

/-! ## Amounts -/

theorem ofInt?_zero : ofInt? 0 = some 0 := by
  unfold ofInt?
  rw [Int.zero_mul]
  rfl

theorem ofInt?_one : ofInt? 1 = some 1 := by decide +kernel

/-- A whole number that is not rounded is one that a finite number can have. -/
theorem exists_ofInt? {i : Int} (h : Representable (i * unitsPerOne).natAbs) :
    ∃ x, ofInt? i = some x := by
  have hunits := units?_ofSignedUnits false h
  unfold ofInt?
  cases hx : ofSignedUnits false (i * unitsPerOne) with
  | finite s m hm => exact ⟨_, rfl⟩
  | infinite s =>
    rw [hx] at hunits
    cases hunits
  | nan =>
    rw [hx] at hunits
    cases hunits

/-- The number nearest to a whole one and the number nearest to its opposite
exist together, and are opposite. -/
theorem ofInt?_neg_cases (i : Int) :
    (ofInt? i = none ∧ ofInt? (-i) = none)
      ∨ ∃ x y, ofInt? i = some x ∧ ofInt? (-i) = some y ∧ SameNumber y x.neg := by
  have hsame := SameNumber.ofSignedUnits_neg false (i * unitsPerOne)
  rw [← Int.neg_mul] at hsame
  unfold ofInt?
  rcases hsame with heq | ⟨hx, hy⟩
  · rw [heq]
    cases ofSignedUnits false (i * unitsPerOne) with
    | finite s m h => exact .inr ⟨_, _, rfl, rfl, .refl _⟩
    | infinite s => exact .inl ⟨rfl, rfl⟩
    | nan => exact .inl ⟨rfl, rfl⟩
  · rw [units?_neg] at hy
    generalize ofSignedUnits false (i * unitsPerOne) = x at hy ⊢
    generalize ofSignedUnits false (-i * unitsPerOne) = y at hx ⊢
    cases x with
    | finite s m h =>
      cases y with
      | finite t n h' => exact .inr ⟨_, _, rfl, rfl, .inr ⟨hx, by rw [units?_neg]; exact hy⟩⟩
      | infinite t => exact absurd hx (by simp [units?])
      | nan => exact absurd hx (by simp [units?])
    | infinite s => exact absurd hy (by simp [units?])
    | nan => exact absurd hy (by simp [units?])

end Binary64

theorem Amount.toReal_whole {i : Int} {x : Binary64} (h : Binary64.ofInt? i = some x) :
    (whole i).toReal = .ok x := by
  simp only [toReal, h]

theorem Amount.ofValue?_of_ofValue {v : Value} {a : Amount} (h : Amount.ofValue v = .ok a) :
    Amount.ofValue? v = some a := by
  unfold Amount.ofValue at h
  split at h
  · next heq =>
    cases h
    exact heq
  · cases h

/-- The number of an amount is the number of the value it was given as. -/
theorem Value.toReal_of_ofValue {v : Value} {a : Amount} (h : Amount.ofValue v = .ok a) :
    v.toReal = a.toReal := by
  cases v with
  | bool b =>
    cases h
    cases b with
    | false =>
      show Except.ok 0 = (Amount.whole 0).toReal
      exact (Amount.toReal_whole Binary64.ofInt?_zero).symm
    | true =>
      show Except.ok 1 = (Amount.whole 1).toReal
      exact (Amount.toReal_whole Binary64.ofInt?_one).symm
  | int i =>
    cases h
    rfl
  | real x =>
    cases h
    rfl
  | _ => cases h

end QuicTelemetry
