import Mathlib.Algebra.Ring.Int.Defs
import QuicTelemetry.Proofs.Store.Buckets
import QuicTelemetry.Proofs.Store.Reading

/-!
# What a series of the memory store comes to

A series is told by its mutations, in order. `settled` is what they come to as
whole numbers of units, and `MemoryCell.Shows` says that a cell is at that
value, or has divided the observations by the bounds. **A mutation that the
shape takes keeps it so** (`Memory.change_of_shows`), as long as nothing is
rounded: `Exact` asks that of every amount and of every sum on the way.
-/

namespace QuicTelemetry

open Binary64 (Representable)

/-! ## Values as numbers of units -/

/-- The value of an amount, in units, if it is finite. -/
def Amount.units? : Amount → Option Int
  | .whole i => some (i * Binary64.unitsPerOne)
  | .real x => x.units?

/-- The amount a value is, in units. -/
def Value.units? (v : Value) : Option Int := (Amount.ofValue? v).bind Amount.units?

namespace Amount

/-- The binary64 number of an amount that one can have. -/
theorem toReal_of_units? {a : Amount} {k : Int} (h : a.units? = some k)
    (hk : Representable k.natAbs) : ∃ x, a.toReal = .ok x ∧ x.units? = some k := by
  cases a with
  | real x => exact ⟨x, rfl, h⟩
  | whole i =>
    obtain rfl : i * Binary64.unitsPerOne = k := Option.some.inj h
    have hunits := Binary64.units?_ofSignedUnits false hk
    cases hx : Binary64.ofSignedUnits false (i * Binary64.unitsPerOne) with
    | finite s m hm =>
      rw [hx] at hunits
      refine ⟨_, toReal_whole (x := .finite s m hm) ?_, hunits⟩
      unfold Binary64.ofInt?
      rw [hx]
    | infinite s =>
      rw [hx] at hunits
      exact absurd hunits.symm (Option.some_ne_none _)
    | nan =>
      rw [hx] at hunits
      exact absurd hunits.symm (Option.some_ne_none _)

/-- An amount is negative as its value is. -/
theorem isNegative_eq_decide {a : Amount} {k : Int} (h : a.units? = some k) :
    a.isNegative = decide (k < 0) := by
  cases a with
  | whole i =>
    obtain rfl : i * Binary64.unitsPerOne = k := Option.some.inj h
    refine decide_eq_decide.mpr ⟨fun hi => ?_, fun hi => ?_⟩
    · exact Int.mul_neg_of_neg_of_pos hi (Int.natCast_pos.mpr Binary64.unitsPerOne_pos)
    · refine Int.not_le.mp fun hnonneg => ?_
      exact absurd (Int.mul_nonneg hnonneg (Int.natCast_nonneg _)) (Int.not_le.mpr hi)
  | real x =>
    cases x with
    | finite s m hm =>
      obtain rfl : (if s then -(m : Int) else m) = k := Option.some.inj h
      show decide (_ < 0 * (Binary64.unitsPerOne : Int)) = _
      rw [Int.zero_mul]
    | infinite s => exact absurd h (by simp [units?, Binary64.units?])
    | nan => exact absurd h (by simp [units?, Binary64.units?])

end Amount

/-- An observation lies above a bound as its value does. -/
theorem isAbove_eq_decide {bound : Binary64} {a : Amount} {j k : Int} (hbound : bound.units? = some j)
    (ha : a.units? = some k) : isAbove bound a = decide (j < k) := by
  cases a with
  | real x => exact Binary64.lt_eq_decide hbound ha
  | whole i =>
    obtain rfl : i * Binary64.unitsPerOne = k := Option.some.inj ha
    cases bound with
    | finite s m hm =>
      obtain rfl : (if s then -(m : Int) else m) = j := Option.some.inj hbound
      rfl
    | infinite s => exact absurd hbound (by simp [Binary64.units?])
    | nan => exact absurd hbound (by simp [Binary64.units?])

/-! ## Mutations -/

/-- **An operation on a series**, with its argument. -/
structure Mutation where
  /-- The operation. -/
  verb : Verb
  /-- Its argument. -/
  argument : Value

namespace Mutation

/-- The number that is added, subtracted, set or observed. -/
def units (u : Mutation) : Int := u.argument.units?.getD 0

/-- The amount that is observed. -/
def amount (u : Mutation) : Amount := (Amount.ofValue? u.argument).getD (.whole 0)

/-- What a number comes to by a mutation. -/
def settle (t : Int) (u : Mutation) : Int :=
  match u.verb with
  | .inc | .observe => t + u.units
  | .dec => t - u.units
  | .set => u.units

end Mutation

/-- **What some mutations come to**, in order. -/
def settled (us : List Mutation) : Int := us.foldl Mutation.settle 0

theorem settled_append (us : List Mutation) (u : Mutation) :
    settled (us ++ [u]) = u.settle (settled us) := by
  unfold settled
  rw [List.foldl_append]
  rfl

/-- What only adds comes to the sum. -/
theorem settled_eq_sum {us : List Mutation} (h : ∀ u ∈ us, u.verb = .inc ∨ u.verb = .observe) :
    settled us = (us.map Mutation.units).sum := by
  have hfold (t : Int) : us.foldl Mutation.settle t = t + (us.map Mutation.units).sum := by
    induction us generalizing t with
    | nil => exact (Int.add_zero t).symm
    | cons u us ih =>
      have hsettle : u.settle t = t + u.units := by
        unfold Mutation.settle
        rcases h u List.mem_cons_self with hverb | hverb <;> rw [hverb]
      rw [List.foldl_cons, ih fun u hu => h u (List.mem_cons_of_mem _ hu), hsettle, List.map_cons,
        List.sum_cons, Int.add_assoc]
  exact (hfold 0).trans (Int.zero_add _)

/-- **Mutations of which nothing is rounded**: neither an amount, nor what the
first of them come to. -/
structure Exact (us : List Mutation) : Prop where
  amounts : ∀ u ∈ us, ∃ k, u.argument.units? = some k ∧ Representable k.natAbs
  sums : ∀ n, Representable (settled (us.take n)).natAbs

/-- The first of exact mutations are exact. -/
theorem Exact.of_append {us vs : List Mutation} (h : Exact (us ++ vs)) : Exact us := by
  refine ⟨fun u hu => h.amounts u (List.mem_append_left _ hu), fun n => ?_⟩
  rcases Nat.le_total n us.length with hn | hn
  · have hsum := h.sums n
    rw [List.take_append_of_le_length hn] at hsum
    exact hsum
  · have hsum := h.sums us.length
    rw [List.take_left' rfl] at hsum
    rw [List.take_of_length_le hn]
    exact hsum

theorem Exact.settled {us : List Mutation} (h : Exact us) :
    Representable (settled us).natAbs := by
  have hsum := h.sums us.length
  rw [List.take_length] at hsum
  exact hsum

/-- Whether a mutation brings a whole number of at most some magnitude. -/
def Mutation.isWhole (bound : Nat) (u : Mutation) : Bool :=
  match u.argument with
  | .int i => decide (i.natAbs ≤ bound)
  | _ => false

theorem Mutation.exists_of_isWhole {bound : Nat} {u : Mutation} (h : u.isWhole bound = true) :
    ∃ i : Int, u.argument.units? = some (i * Binary64.unitsPerOne)
      ∧ u.units = i * Binary64.unitsPerOne ∧ i.natAbs ≤ bound := by
  unfold isWhole at h
  split at h
  · next i hi =>
    have hunits : u.argument.units? = some (i * Binary64.unitsPerOne) := by
      rw [hi]
      rfl
    refine ⟨i, hunits, ?_, of_decide_eq_true h⟩
    unfold units
    rw [hunits]
    rfl
  · exact absurd h Bool.false_ne_true

/-- Whole numbers come to a whole number. -/
theorem exists_settled_of_isWhole {us : List Mutation} {bound : Nat}
    (h : ∀ u ∈ us, u.isWhole bound = true) :
    ∃ i : Int, settled us = i * Binary64.unitsPerOne ∧ i.natAbs ≤ us.length * bound := by
  suffices hfold : ∀ j : Int, ∃ i : Int,
      us.foldl Mutation.settle (j * Binary64.unitsPerOne) = i * Binary64.unitsPerOne
        ∧ i.natAbs ≤ j.natAbs + us.length * bound by
    obtain ⟨i, hi, hle⟩ := hfold 0
    rw [Int.zero_mul] at hi
    exact ⟨i, hi, by simpa using hle⟩
  induction us with
  | nil => exact fun j => ⟨j, rfl, Nat.le_add_right _ _⟩
  | cons u us ih =>
    intro j
    obtain ⟨k, -, hunits, hbound⟩ := Mutation.exists_of_isWhole (h u List.mem_cons_self)
    obtain ⟨j', hj', hle'⟩ : ∃ j' : Int,
        u.settle (j * Binary64.unitsPerOne) = j' * Binary64.unitsPerOne
          ∧ j'.natAbs ≤ j.natAbs + bound := by
      unfold Mutation.settle
      rw [hunits]
      cases u.verb with
      | inc => exact ⟨j + k, (Int.add_mul ..).symm, by omega⟩
      | observe => exact ⟨j + k, (Int.add_mul ..).symm, by omega⟩
      | dec => exact ⟨j - k, (Int.sub_mul ..).symm, by omega⟩
      | set => exact ⟨k, rfl, by omega⟩
    obtain ⟨i, hi, hle⟩ := ih (fun u hu => h u (List.mem_cons_of_mem _ hu)) j'
    refine ⟨i, ?_, ?_⟩
    · rw [List.foldl_cons, hj', hi]
    · rw [List.length_cons, Nat.succ_mul]
      omega

/-- **Whole numbers are not rounded** as long as their magnitudes cannot add up
to 2⁵³, whatever is done with them in whatever order. -/
theorem Exact.of_isWhole {us : List Mutation} {bound : Nat} (h : ∀ u ∈ us, u.isWhole bound = true)
    (hlength : us.length * bound < 2 ^ 53) : Exact us := by
  refine ⟨fun u hu => ?_, fun n => ?_⟩
  · obtain ⟨i, hunits, -, hbound⟩ := Mutation.exists_of_isWhole (h u hu)
    refine ⟨_, hunits, Binary64.representable_whole ?_⟩
    calc i.natAbs ≤ 1 * bound := by rw [Nat.one_mul]; exact hbound
      _ ≤ us.length * bound := Nat.mul_le_mul_right _ (List.length_pos_of_mem hu)
      _ < 2 ^ 53 := hlength
  · obtain ⟨i, hi, hle⟩ := exists_settled_of_isWhole fun u hu => h u (List.mem_of_mem_take hu)
    rw [hi]
    refine Binary64.representable_whole (Nat.lt_of_le_of_lt hle (Nat.lt_of_le_of_lt ?_ hlength))
    exact Nat.mul_le_mul_right _ (List.length_take_le' _ _)

/-- **A mutation that a shape takes**: one of its operations, and no decrease of
a counter. -/
def Shape.Takes (shape : Shape) (u : Mutation) : Prop :=
  u.verb ∈ shape.verbs ∧ (shape = .counter → 0 ≤ u.units)

/-- **The bounds of a shape are in order**, if it has bounds. A search by halving finds
nothing sensible otherwise. -/
def Shape.IsAscending : Shape → Prop
  | .histogram bounds => Ascending bounds
  | _ => True

/-! ## Cells -/

/-- **A cell that shows what some mutations come to.** -/
def MemoryCell.Shows (shape : Shape) (us : List Mutation) (cell : MemoryCell) : Prop :=
  match shape with
  | .histogram bounds =>
    ∃ sum, cell = .histogram (tallied bounds (us.map Mutation.amount)) sum
      ∧ sum.units? = some (settled us)
  | _ => ∃ x, cell = .value x ∧ x.units? = some (settled us)

/-- A fresh cell shows that nothing has happened. -/
theorem MemoryCell.shows_fresh (shape : Shape) : (MemoryCell.fresh shape).Shows shape [] := by
  cases shape with
  | counter => exact ⟨0, rfl, rfl⟩
  | gauge => exact ⟨0, rfl, rfl⟩
  | histogram bounds => exact ⟨0, by rw [List.map_nil, tallied_nil]; rfl, rfl⟩

/-- What a counter or a gauge shows. -/
theorem MemoryCell.Shows.value {shape : Shape} (hshape : shape.isHistogram = false)
    {us : List Mutation} {cell : MemoryCell} (h : cell.Shows shape us) :
    ∃ x, cell = .value x ∧ x.units? = some (settled us) := by
  cases shape with
  | counter => exact h
  | gauge => exact h
  | histogram bounds => exact absurd hshape.symm Bool.false_ne_true

/-- The amount of an exact mutation. -/
theorem Mutation.units?_amount {u : Mutation} {k : Int} (h : u.argument.units? = some k) :
    Amount.ofValue u.argument = .ok u.amount ∧ u.amount.units? = some u.units ∧ u.units = k := by
  obtain ⟨a, ha, hunits⟩ := Option.bind_eq_some_iff.mp h
  have hamount : u.amount = a := by
    unfold amount
    rw [ha]
    rfl
  have hu : u.units = k := by
    unfold units
    rw [h]
    rfl
  refine ⟨?_, ?_, hu⟩
  · unfold Amount.ofValue
    rw [ha, hamount]
  · rw [hamount, hu, hunits]

/-- The number that an exact mutation brings. -/
theorem Mutation.exists_toReal {us : List Mutation} {u : Mutation} (h : Exact (us ++ [u])) :
    Amount.ofValue u.argument = .ok u.amount ∧ u.amount.units? = some u.units
      ∧ ∃ x, u.amount.toReal = .ok x ∧ x.units? = some u.units := by
  obtain ⟨k, hk, hrepresentable⟩ := h.amounts u (List.mem_append_right _ List.mem_cons_self)
  obtain ⟨hamount, hunits, hu⟩ := u.units?_amount hk
  rw [← hu] at hrepresentable
  exact ⟨hamount, hunits, Amount.toReal_of_units? hunits hrepresentable⟩

namespace Memory

/-- **A mutation that the shape takes brings a cell to the next value**, and does
not fail. -/
theorem change_of_shows {shape : Shape} {us : List Mutation} {u : Mutation} {cell : MemoryCell}
    (hascending : shape.IsAscending) (hcell : cell.Shows shape us) (htakes : shape.Takes u)
    (hexact : Exact (us ++ [u])) :
    ∃ cell', change shape cell u.verb u.argument = (.ok (), cell')
      ∧ cell'.Shows shape (us ++ [u]) := by
  obtain ⟨ha, haunits, r, hr, hrunits⟩ := Mutation.exists_toReal hexact
  obtain ⟨a, hamount⟩ : ∃ a, u.amount = a := ⟨_, rfl⟩
  rw [hamount] at ha haunits hr
  have hsum := hexact.settled
  have hsettled := settled_append us u
  obtain ⟨verb, argument⟩ := u
  obtain ⟨hverb, hnonneg⟩ := htakes
  cases shape with
  | counter =>
    obtain ⟨x, rfl, hx⟩ := hcell
    obtain rfl : verb = .inc := List.mem_singleton.mp hverb
    have hpositive : a.isNegative = false := by
      rw [Amount.isNegative_eq_decide haunits, decide_eq_false_iff_not]
      exact Int.not_lt.mpr (hnonneg rfl)
    refine ⟨.value (x.add r), ?_, x.add r, rfl, ?_⟩
    · simp only [change, ha, hpositive, Amount.addTo, hr]
      rfl
    · rw [hsettled] at hsum ⊢
      exact Binary64.units?_add hx hrunits hsum
  | gauge =>
    obtain ⟨x, rfl, hx⟩ := hcell
    rw [hsettled] at hsum
    simp only [Shape.verbs, List.mem_cons, List.not_mem_nil, or_false] at hverb
    rcases hverb with rfl | rfl | rfl
    · refine ⟨.value (x.add r), ?_, x.add r, rfl, ?_⟩
      · simp only [change, ha, Amount.addTo, hr, bind, Except.bind]
        rfl
      · rw [hsettled]
        exact Binary64.units?_add hx hrunits hsum
    · refine ⟨.value (x.sub r), ?_, x.sub r, rfl, ?_⟩
      · simp only [change, ha, Amount.subFrom, hr, bind, Except.bind]
        rfl
      · rw [hsettled]
        exact Binary64.units?_sub hx hrunits hsum
    · refine ⟨.value r, ?_, r, rfl, ?_⟩
      · simp only [change, Value.toReal_of_ofValue ha, hr]
      · rw [hsettled]
        exact hrunits
  | histogram bounds =>
    obtain ⟨sum, rfl, hx⟩ := hcell
    obtain rfl : verb = .observe := List.mem_singleton.mp hverb
    rw [hsettled] at hsum
    refine ⟨.histogram (countIn (tallied bounds (us.map Mutation.amount)) (bucketOf bounds a))
      (sum.add r), ?_, sum.add r, ?_, ?_⟩
    · simp only [change, ha, bisect_eq_bucketOf hascending, Amount.addTo, hr]
      rfl
    · rw [List.map_append, List.map_singleton, hamount, tallied_append]
    · rw [hsettled]
      exact Binary64.units?_add hx hrunits hsum

end Memory

end QuicTelemetry
