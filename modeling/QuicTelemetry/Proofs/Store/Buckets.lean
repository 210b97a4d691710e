import QuicTelemetry.Proofs.Lists
import QuicTelemetry.Proofs.Number.Exact
import QuicTelemetry.Store.Memory

/-!
# What a histogram counts

A histogram keeps a count for each bucket and is read as running sums. What the
counts are can be said without any order of events: `tallied` divides the
observations by the bounds, bound after bound, and one more observation is one
more in its bucket (`tallied_append`). For bounds in ascending order the running
sums are then what they are for: **how many observations lie at or below each
bound** (`runningSums_tallied`).

An observation lies at or below a bound if the bound is not below it. That way
what cannot be compared is counted with every bound, as the store has it.

The store searches for the bucket by halving. That finds the first bound that is
not below the observation because the bounds are in order: **those in front of it
are below the observation and no others** (`isAbove_getElem?_iff`), so each half
that is thrown away is on the wrong side (`bisect_of_le`).
-/

namespace QuicTelemetry

/-! ## Bounds in order -/

/-- **Bounds in ascending order**, all of them finite. -/
def Ascending (bounds : List Binary64) : Prop :=
  (∀ bound ∈ bounds, bound.isFinite = true)
    ∧ bounds.Pairwise fun before bound => before.lt bound = true

namespace Bounds

/-- A finite number that is not at most another is above it. -/
theorem lt_of_not_le {x y : Binary64} (hx : x.isFinite = true) (hy : y.isFinite = true)
    (h : y.le x = false) : x.lt y = true := by
  obtain ⟨a, ha⟩ := Binary64.isFinite_iff.mp hx
  obtain ⟨b, hb⟩ := Binary64.isFinite_iff.mp hy
  rw [Binary64.le_eq_decide hb ha, decide_eq_false_iff_not] at h
  rw [Binary64.lt_eq_decide ha hb, decide_eq_true_eq]
  omega

theorem lt_trans {x y z : Binary64} (hx : x.isFinite = true) (hy : y.isFinite = true)
    (hz : z.isFinite = true) (hxy : x.lt y = true) (hyz : y.lt z = true) : x.lt z = true := by
  obtain ⟨a, ha⟩ := Binary64.isFinite_iff.mp hx
  obtain ⟨b, hb⟩ := Binary64.isFinite_iff.mp hy
  obtain ⟨c, hc⟩ := Binary64.isFinite_iff.mp hz
  rw [Binary64.lt_eq_decide ha hb, decide_eq_true_eq] at hxy
  rw [Binary64.lt_eq_decide hb hc, decide_eq_true_eq] at hyz
  rw [Binary64.lt_eq_decide ha hc, decide_eq_true_eq]
  omega

/-- Finite bounds none of which descends are in order. -/
theorem pairwise_of_descent? {bounds : List Binary64}
    (hfinite : ∀ bound ∈ bounds, bound.isFinite = true) (h : descent? bounds = none) :
    bounds.Pairwise fun before bound => before.lt bound = true := by
  induction bounds with
  | nil => exact .nil
  | cons first rest ih =>
    cases rest with
    | nil => exact List.pairwise_singleton _ _
    | cons second rest =>
      have hfirst := hfinite first List.mem_cons_self
      have hrest : ∀ bound ∈ second :: rest, bound.isFinite = true :=
        fun bound hbound => hfinite bound (List.mem_cons_of_mem _ hbound)
      unfold descent? at h
      split at h
      · cases h
      · next hle =>
        have hordered := ih hrest h
        have hlt : first.lt second = true :=
          lt_of_not_le hfirst (hrest second List.mem_cons_self) (by simpa using hle)
        refine .cons (fun bound hbound => ?_) hordered
        rcases List.mem_cons.mp hbound with rfl | hin
        · exact hlt
        · exact lt_trans hfirst (hrest second List.mem_cons_self) (hrest bound hbound) hlt
            (List.rel_of_pairwise_cons hordered hin)

/-- **Bounds that are not refused are in order.** -/
theorem ascending_of_refusal? {bounds : List Binary64} (h : refusal? bounds = none) :
    Ascending bounds := by
  unfold refusal? at h
  split at h
  · cases h
  · split at h
    · cases h
    · next hfind =>
      have hfinite : ∀ bound ∈ bounds, bound.isFinite = true := by
        intro bound hbound
        have hnot := List.find?_eq_none.mp hfind bound hbound
        simpa using hnot
      exact ⟨hfinite, pairwise_of_descent? hfinite (Option.map_eq_none_iff.mp h)⟩

/-- Numbers in order do not descend. -/
theorem descent?_of_pairwise {bounds : List Binary64}
    (hfinite : ∀ bound ∈ bounds, bound.isFinite = true)
    (h : bounds.Pairwise fun before bound => before.lt bound = true) : descent? bounds = none := by
  induction bounds with
  | nil => rfl
  | cons first rest ih =>
    cases rest with
    | nil => rfl
    | cons second rest =>
      obtain ⟨a, ha⟩ := Binary64.isFinite_iff.mp (hfinite first List.mem_cons_self)
      obtain ⟨b, hb⟩ := Binary64.isFinite_iff.mp
        (hfinite second (List.mem_cons_of_mem _ List.mem_cons_self))
      have hlt := List.rel_of_pairwise_cons h List.mem_cons_self
      rw [Binary64.lt_eq_decide ha hb, decide_eq_true_eq] at hlt
      unfold descent?
      rw [Binary64.le_eq_decide hb ha, if_neg (by rw [decide_eq_true_eq]; omega)]
      exact ih (fun bound hbound => hfinite bound (List.mem_cons_of_mem _ hbound)) h.of_cons

/-- **Bounds are accepted** if there are some and they are in order. -/
theorem refusal?_eq_none_iff {bounds : List Binary64} :
    refusal? bounds = none ↔ bounds ≠ [] ∧ Ascending bounds := by
  constructor
  · intro h
    refine ⟨?_, ascending_of_refusal? h⟩
    rintro rfl
    cases h
  · rintro ⟨hne, hfinite, hordered⟩
    have hfind : bounds.find? (!·.isFinite) = none :=
      List.find?_eq_none.mpr fun bound hbound => by simp [hfinite bound hbound]
    unfold refusal?
    rw [if_neg (by simpa using hne), hfind]
    dsimp only
    rw [descent?_of_pairwise hfinite hordered]
    rfl

/-- **A check answers with the bounds** or with a fault of the metric. -/
theorem check_cases (metric : String) (bounds : List Binary64) :
    ((bounds ≠ [] ∧ Ascending bounds) ∧ check metric bounds = .ok bounds)
      ∨ ¬(bounds ≠ [] ∧ Ascending bounds)
        ∧ ∃ refusal, check metric bounds = .error (.schema metric refusal) := by
  rw [← refusal?_eq_none_iff]
  unfold check
  cases refusal? bounds with
  | none => exact .inl ⟨rfl, rfl⟩
  | some refusal => exact .inr ⟨Option.some_ne_none refusal, refusal, rfl⟩

end Bounds

/-! ## Observations divided by bounds -/

/-- Whether an observation lies above a bound. -/
def isAbove (bound : Binary64) (a : Amount) : Bool := (Amount.real bound).lt a

/-- What lies above a bound lies above every bound in front of it. -/
theorem isAbove_of_lt {before bound : Binary64} (hbefore : before.isFinite = true)
    (hbound : bound.isFinite = true) (h : before.lt bound = true) {a : Amount}
    (ha : isAbove bound a = true) : isAbove before a = true := by
  obtain ⟨j, hj⟩ := Binary64.isFinite_iff.mp hbefore
  obtain ⟨k, hk⟩ := Binary64.isFinite_iff.mp hbound
  rw [Binary64.lt_eq_decide hj hk, decide_eq_true_eq] at h
  cases before with
  | finite s m hm =>
    cases bound with
    | finite t n hn =>
      obtain rfl : (if s then -(m : Int) else m) = j := Option.some.inj hj
      obtain rfl : (if t then -(n : Int) else n) = k := Option.some.inj hk
      cases a with
      | whole i =>
        have ha : (if t then -(n : Int) else n) < i * Binary64.unitsPerOne := of_decide_eq_true ha
        exact decide_eq_true (Int.lt_trans h ha)
      | real x =>
        cases x with
        | finite u l hl =>
          have ha : (if t then -(n : Int) else n) < if u then -(l : Int) else l :=
            of_decide_eq_true ha
          exact decide_eq_true (Int.lt_trans h ha)
        | infinite u => exact ha
        | nan => exact ha
    | infinite t => exact absurd hbound Bool.false_ne_true
    | nan => exact absurd hbound Bool.false_ne_true
  | infinite s => exact absurd hbefore Bool.false_ne_true
  | nan => exact absurd hbefore Bool.false_ne_true

/-! ## Searching by halving -/

/-- The number of the first bucket whose bound is not below an observation. -/
def bucketOf (bounds : List Binary64) (a : Amount) : Nat :=
  (bounds.takeWhile fun bound => (Amount.real bound).lt a).length

/-- An observation lies above the bounds in front of its bucket and no others. -/
theorem isAbove_getElem?_iff {bounds : List Binary64} (h : Ascending bounds) (a : Amount) (i : Nat) :
    (bounds[i]?).any (isAbove · a) = true ↔ i < bucketOf bounds a := by
  induction bounds generalizing i with
  | nil => simp [bucketOf]
  | cons first bounds ih =>
    obtain ⟨hfinite, hordered⟩ := h
    have hrest : Ascending bounds :=
      ⟨fun bound hbound => hfinite bound (List.mem_cons_of_mem _ hbound), hordered.of_cons⟩
    unfold bucketOf
    rw [List.takeWhile_cons]
    cases ha : isAbove first a with
    | true =>
      rw [if_pos (by exact ha), List.length_cons]
      cases i with
      | zero => simp [ha]
      | succ i =>
        rw [List.getElem?_cons_succ, ih hrest, Nat.succ_lt_succ_iff]
        rfl
    | false =>
      rw [if_neg (by exact Bool.eq_false_iff.mp ha), List.length_nil]
      refine ⟨fun hsome => ?_, fun hlt => absurd hlt (Nat.not_lt_zero i)⟩
      obtain ⟨bound, hbound, habove⟩ := (Option.any_eq_true _ _).mp hsome
      rcases List.mem_cons.mp (List.mem_of_getElem? hbound) with rfl | hmem
      · rw [ha] at habove
        exact absurd habove Bool.false_ne_true
      · have hlt := List.rel_of_pairwise_cons hordered hmem
        rw [isAbove_of_lt (hfinite first List.mem_cons_self) (hrest.1 bound hmem) hlt habove] at ha
        exact absurd ha.symm Bool.false_ne_true

/-- A search by halving finds the bucket if it is between the two places. -/
theorem bisect_of_le {bounds : List Binary64} (h : Ascending bounds) (a : Amount)
    {low high : Nat} (hlow : low ≤ bucketOf bounds a) (hhigh : bucketOf bounds a ≤ high) :
    bisect bounds a low high = bucketOf bounds a := by
  fun_induction bisect bounds a low high with
  | case1 low high hlt middle habove ih =>
    exact ih ((isAbove_getElem?_iff h a middle).mp habove) hhigh
  | case2 low high hlt middle hnot ih =>
    exact ih hlow (Nat.not_lt.mp fun hbelow => hnot ((isAbove_getElem?_iff h a middle).mpr hbelow))
  | case3 low high hnot => omega

/-- **The memory store finds the bucket by halving**, for bounds in order, whether
or not the observation compares with them. -/
theorem bisect_eq_bucketOf {bounds : List Binary64} (h : Ascending bounds) (a : Amount) :
    bisect bounds a 0 bounds.length = bucketOf bounds a :=
  bisect_of_le h a (Nat.zero_le _) (List.takeWhile_prefix _).length_le

/-- **The observations, divided by the bounds**: how many lie above none of
them, how many above the first alone, and so on. -/
def tallied : List Binary64 → List Amount → List Nat
  | [], seen => [seen.length]
  | bound :: bounds, seen =>
    seen.countP (!isAbove bound ·) :: tallied bounds (seen.filter (isAbove bound))

theorem tallied_nil (bounds : List Binary64) :
    tallied bounds [] = List.replicate (bounds.length + 1) 0 := by
  induction bounds with
  | nil => rfl
  | cons bound bounds ih =>
    rw [tallied, List.filter_nil, ih]
    rfl

/-- **One more observation is one more in its bucket.** -/
theorem tallied_append (bounds : List Binary64) (seen : List Amount) (a : Amount) :
    tallied bounds (seen ++ [a]) = countIn (tallied bounds seen) (bucketOf bounds a) := by
  induction bounds generalizing seen with
  | nil =>
    show [(seen ++ [a]).length] = [seen.length + 1]
    rw [List.length_append]
    rfl
  | cons bound bounds ih =>
    unfold tallied countIn bucketOf
    rw [List.countP_append, List.filter_append, List.takeWhile_cons]
    cases ha : isAbove bound a with
    | false =>
      have hfilter : [a].filter (isAbove bound) = [] := List.filter_cons_of_neg (by simp [ha])
      rw [show (Amount.real bound).lt a = false from ha, hfilter, List.append_nil,
        List.countP_singleton, ha]
      rfl
    | true =>
      have hfilter : [a].filter (isAbove bound) = [a] := List.filter_cons_of_pos ha
      rw [show (Amount.real bound).lt a = true from ha, hfilter, ih, List.countP_singleton, ha]
      rfl

theorem total_tallied (bounds : List Binary64) (seen : List Amount) :
    total (tallied bounds seen) = seen.length := by
  induction bounds generalizing seen with
  | nil => rfl
  | cons bound bounds ih =>
    show seen.countP (!isAbove bound ·) + total (tallied bounds (seen.filter (isAbove bound))) = _
    rw [ih, ← List.countP_true]
    exact (countP_eq_add_filter (fun _ _ => rfl) seen).symm

/-- **The running sums count what lies at or below each bound**, and last
everything. -/
theorem runningSums_tallied {bounds : List Binary64} (h : Ascending bounds) (start : Nat)
    (seen : List Amount) :
    runningSums start (tallied bounds seen)
      = bounds.map (fun bound => start + seen.countP (!isAbove bound ·)) ++ [start + seen.length] := by
  induction bounds generalizing start seen with
  | nil => rfl
  | cons first bounds ih =>
    obtain ⟨hfinite, hordered⟩ := h
    have hrest : Ascending bounds :=
      ⟨fun bound hbound => hfinite bound (List.mem_cons_of_mem _ hbound), hordered.of_cons⟩
    show (start + seen.countP (!isAbove first ·))
        :: runningSums (start + seen.countP (!isAbove first ·))
          (tallied bounds (seen.filter (isAbove first))) = _
    rw [ih hrest, List.map_cons, List.cons_append]
    have hmap : bounds.map (fun bound => start + seen.countP (!isAbove first ·)
          + (seen.filter (isAbove first)).countP (!isAbove bound ·))
        = bounds.map fun bound => start + seen.countP (!isAbove bound ·) := by
      refine List.map_congr_left fun bound hbound => ?_
      -- what is not above the first bound is above no other
      have hnot (a : Amount) (ha : isAbove first a = false) : (!isAbove bound a) = true := by
        cases hb : isAbove bound a with
        | false => rfl
        | true =>
          have hlt := List.rel_of_pairwise_cons hordered hbound
          rw [isAbove_of_lt (hfinite first List.mem_cons_self) (hrest.1 bound hbound) hlt hb] at ha
          exact absurd ha.symm Bool.false_ne_true
      rw [countP_eq_add_filter hnot seen, Nat.add_assoc]
    have hlength : start + seen.countP (!isAbove first ·) + (seen.filter (isAbove first)).length
        = start + seen.length := by
      rw [← List.countP_true, Nat.add_assoc,
        ← countP_eq_add_filter (fun _ _ => rfl) seen]
    rw [hmap, hlength]

/-- **A snapshot shows how many observations lie at or below each bound.** -/
theorem snapshot_tallied {bounds : List Binary64} (h : Ascending bounds) (seen : List Amount)
    (sum : Binary64) :
    Snapshot.of bounds (tallied bounds seen) sum
      = ⟨bounds.map (fun bound => (bound, seen.countP (!isAbove bound ·)))
          ++ [(.infinite false, seen.length)], sum, seen.length⟩ := by
  unfold Snapshot.of
  rw [runningSums_tallied h, total_tallied, List.zip_append (List.length_map _).symm]
  simp only [Nat.zero_add]
  have hzip : bounds.zip (bounds.map fun bound => seen.countP (!isAbove bound ·))
      = bounds.map fun bound => (bound, seen.countP (!isAbove bound ·)) := by
    rw [← List.zip_map', List.map_id']
  rw [hzip]
  rfl

end QuicTelemetry
