import QuicTelemetry.Proofs.Store.Observations

/-!
# Counters only grow

A counter refuses what is below zero, and what is added to it is rounded. Rounding
does not undo a sum (`Binary64.le_add`), so the value of a counter never falls, and
infinity stays infinity. Refused increments leave it as it is.

The guard compares, and what does not compare is not below zero. So the one amount
that spoils a counter is `nan`: it is added, and the counter is `nan` from then on
(`Binary64.foldl_increase_of_nan`). **Of any two values of a counter the later one is
at least the earlier one exactly if no increment so far was `nan`**
(`Session.counter_grows_iff`).
-/

namespace QuicTelemetry

/-! ## Increments -/

/-- What does not compare is `nan`. -/
theorem Amount.eq_nan_of_not_compares {a : Amount} (h : a.compares = false) : a = .real .nan := by
  cases a with
  | whole i => cases h
  | real x =>
    cases x with
    | nan => rfl
    | finite s m hm => cases h
    | infinite s => cases h

/-- **What a counter adds is not below zero.** -/
theorem Amount.zero_le_of_toReal {a : Amount} (hcompares : a.compares = true)
    (hpositive : a.isNegative = false) {y : Binary64} (hy : a.toReal = .ok y) :
    (0 : Binary64).le y = true := by
  cases a with
  | real x =>
    cases hy
    cases y with
    | finite s m hm =>
      rw [isNegative_eq_decide (k := if s then -(m : Int) else m) rfl, decide_eq_false_iff_not]
        at hpositive
      rw [Binary64.le_eq_decide Binary64.units?_zero (y := .finite s m hm) rfl]
      exact decide_eq_true (Int.not_lt.mp hpositive)
    | infinite s =>
      cases s with
      | false => rfl
      | true => cases hpositive
    | nan => cases hcompares
  | whole i =>
    have hnonneg : 0 ≤ i := Int.not_lt.mp (of_decide_eq_false hpositive)
    have hy := ofInt?_of_toReal hy
    have hle := Binary64.zero_le_ofSignedUnits (s := false) (k := i * Binary64.unitsPerOne)
    rw [decide_eq_true (Int.mul_nonneg hnonneg (Int.natCast_nonneg _))] at hle
    unfold Binary64.ofInt? at hy
    split at hy
    · next heq =>
      rw [heq] at hle
      cases hy
      exact hle
    · cases hy

namespace Binary64

theorem add_nan (x : Binary64) : x.add .nan = .nan := by
  cases x <;> rfl

theorem nan_add (x : Binary64) : nan.add x = .nan := by
  cases x <;> rfl

/-- What is at least something is at least itself. -/
theorem le_self_of_le {x y : Binary64} (h : x.le y = true) : y.le y = true := by
  cases y with
  | finite s m hm => exact le_self rfl
  | infinite s => cases s <;> rfl
  | nan => cases x <;> cases h

/-- **One increment** that compares does not make a value smaller. -/
theorem le_increase {x : Binary64} (hx : (0 : Binary64).le x = true) {a : Amount}
    (ha : a.compares = true) :
    x.le (x.increase a) = true ∧ (0 : Binary64).le (x.increase a) = true := by
  have hself := le_self_of_le hx
  unfold increase
  split
  · exact ⟨hself, hx⟩
  · next hpositive =>
    unfold accumulate Amount.addTo
    cases hy : a.toReal with
    | error fault => exact ⟨hself, hx⟩
    | ok y => exact le_add hx (Amount.zero_le_of_toReal ha (Bool.eq_false_iff.mpr hpositive) hy)

/-- **Increments that compare** do not make a value smaller. -/
theorem le_foldl_increase {amounts : List Amount} (h : ∀ a ∈ amounts, a.compares = true)
    {x : Binary64} (hx : (0 : Binary64).le x = true) :
    x.le (amounts.foldl increase x) = true ∧ (0 : Binary64).le (amounts.foldl increase x) = true := by
  induction amounts generalizing x with
  | nil => exact ⟨le_self_of_le hx, hx⟩
  | cons a amounts ih =>
    obtain ⟨hle, hnonneg⟩ := le_increase hx (h a List.mem_cons_self)
    obtain ⟨hrest, hend⟩ := ih (fun b hb => h b (List.mem_cons_of_mem _ hb)) hnonneg
    exact ⟨le_trans hle hrest, hend⟩

theorem foldl_increase_nan (amounts : List Amount) : amounts.foldl increase nan = .nan := by
  induction amounts with
  | nil => rfl
  | cons a amounts ih =>
    have hstep : nan.increase a = .nan := by
      unfold increase accumulate Amount.addTo
      split
      · rfl
      · cases a.toReal with
        | error fault => rfl
        | ok y => exact nan_add y
    rw [List.foldl_cons, hstep, ih]

/-- **An increment by `nan`** passes the guard and spoils the value for good. -/
theorem foldl_increase_of_nan {amounts : List Amount} (h : Amount.real .nan ∈ amounts)
    (x : Binary64) : amounts.foldl increase x = .nan := by
  obtain ⟨before, after, rfl⟩ := List.append_of_mem h
  have hstep (y : Binary64) : y.increase (.real .nan) = .nan := add_nan y
  rw [List.foldl_append, List.foldl_cons, hstep, foldl_increase_nan]

/-- **The later value is at least the earlier one** exactly if nothing so far was
`nan`. -/
theorem foldl_increase_le_iff (before after : List Amount) :
    (before.foldl increase 0).le ((before ++ after).foldl increase 0) = true
      ↔ ∀ a ∈ before ++ after, a.compares = true := by
  constructor
  · intro hle a ha
    cases hcompares : a.compares with
    | true => rfl
    | false =>
      rw [Amount.eq_nan_of_not_compares hcompares] at ha
      rw [foldl_increase_of_nan ha] at hle
      cases hx : before.foldl increase 0 <;> rw [hx] at hle <;> cases hle
  · intro h
    obtain ⟨hbefore, hafter⟩ := List.forall_mem_append.mp h
    rw [List.foldl_append]
    exact (le_foldl_increase hafter (le_foldl_increase hbefore rfl).2).1

end Binary64

/-! ## Sessions -/

namespace Session

/-- The value of a counter of a session, by what was brought to it. -/
theorem shown?_counter {actions : List SessionAction} {id : SeriesId}
    (hid : id ∈ (after ⟨.ofMemory, []⟩ actions).handles)
    (hshape : (after ⟨.ofMemory, []⟩ actions).store.shape? id.family = some .counter) :
    (after ⟨.ofMemory, []⟩ actions).store.shown? id
      = some (.value ((amounts actions .inc id).foldl Binary64.increase 0)) := by
  obtain ⟨m, h⟩ := told_after actions
  rw [h.shown?_eq hid hshape, Memory.changed_counter]
  rfl

/-- **A counter only grows**, exactly if no increment was `nan`. A session over the
memory store has a counter and goes on, with any actions between any increments, which
may be refused. Then the value of the counter at the end is at least its value before
if and only if all increments up to the end compare. -/
theorem counter_grows_iff (before actions : List SessionAction) {id : SeriesId}
    (hid : id ∈ (after ⟨.ofMemory, []⟩ before).handles)
    (hshape : (after ⟨.ofMemory, []⟩ before).store.shape? id.family = some .counter) :
    ∃ x y, (after ⟨.ofMemory, []⟩ before).store.shown? id = some (.value x)
      ∧ (after ⟨.ofMemory, []⟩ (before ++ actions)).store.shown? id = some (.value y)
      ∧ (x.le y = true ↔ ∀ a ∈ amounts (before ++ actions) .inc id, a.compares = true) := by
  obtain ⟨m, h⟩ := told_after before
  obtain ⟨m', -, hcontinues⟩ := h.after actions
  rw [← after_append] at hcontinues
  have hend := shown?_counter (hcontinues.handles.subset hid) (hcontinues.shapes _ _ hshape)
  obtain ⟨later, hamounts⟩ := amounts_append before actions .inc id
  refine ⟨_, _, shown?_counter hid hshape, hend, ?_⟩
  rw [← hamounts]
  exact Binary64.foldl_increase_le_iff _ later

/-- A counter that takes an increment, refuses one and takes one that is infinite. -/
theorem counter_grows_to_infinity :
    let before := [SessionAction.register "drops" "Drops." .counter [], .resolve "drops" [],
      .operate 0 .inc (some (.real 0.5))]
    let actions := [SessionAction.operate 0 .inc (some (.int (-1))),
      .operate 0 .inc (some (.real (.infinite false)))]
    ∃ x y, (after ⟨.ofMemory, []⟩ before).store.shown? ⟨"drops", []⟩ = some (.value x)
      ∧ (after ⟨.ofMemory, []⟩ (before ++ actions)).store.shown? ⟨"drops", []⟩ = some (.value y)
      ∧ x.le y = true := by
  intro before actions
  have hid : (⟨"drops", []⟩ : SeriesId) ∈ (after ⟨.ofMemory, []⟩ before).handles := by decide +kernel
  have hshape : (after ⟨.ofMemory, []⟩ before).store.shape? "drops" = some .counter := by
    decide +kernel
  obtain ⟨x, y, hx, hy, hgrows⟩ := counter_grows_iff before actions hid hshape
  exact ⟨x, y, hx, hy, hgrows.mpr (by decide +kernel)⟩

/-- **An increment by `nan` is taken**, and the counter no longer compares with its
earlier value. -/
theorem counter_spoiled_by_nan :
    let before := [SessionAction.register "drops" "Drops." .counter [], .resolve "drops" [],
      .operate 0 .inc none]
    let spoiling := SessionAction.operate 0 .inc (some (.real .nan))
    ((after ⟨.ofMemory, []⟩ before).step spoiling).1.isOk = true
      ∧ ∃ x y, (after ⟨.ofMemory, []⟩ before).store.shown? ⟨"drops", []⟩ = some (.value x)
        ∧ (after ⟨.ofMemory, []⟩ (before ++ [spoiling])).store.shown? ⟨"drops", []⟩
          = some (.value y)
        ∧ x.le y = false := by
  intro before spoiling
  let id : SeriesId := ⟨"drops", []⟩
  let spoilt := before ++ [spoiling]
  have hx : (after ⟨.ofMemory, []⟩ before).store.shown? id = _ :=
    shown?_counter (by decide +kernel) (by decide +kernel)
  have hy : (after ⟨.ofMemory, []⟩ spoilt).store.shown? id = _ :=
    shown?_counter (by decide +kernel) (by decide +kernel)
  exact ⟨by decide +kernel, _, _, hx, hy, by decide +kernel⟩

end Session

end QuicTelemetry
