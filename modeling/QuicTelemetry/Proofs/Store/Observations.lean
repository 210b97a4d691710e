import QuicTelemetry.Proofs.Store.Chronicle
import QuicTelemetry.Proofs.Store.Cumulative

/-!
# What a histogram shows of its observations

A histogram is registered over bounds, resolved, and observed in, in whatever
session and between whatever else. Its snapshot is then told by the amounts that
were brought to it: **each bound has the number of amounts that are at most that
bound** (`Amount.atMost`, which compares numbers of any size without rounding), and
infinity has all of them. So the counts do not decrease, and who observed first
makes no difference to them (`Session.histogram_distributes`).

The sum does depend on the order, as it is rounded at each step. It is the sum of
the values where nothing is rounded (`Exact`).
-/

namespace QuicTelemetry

/-! ## Amounts and bounds -/

/-- Whether an amount compares with numbers. -/
def Amount.compares : Amount → Bool
  | .whole _ => true
  | .real x => x.compares

/-- **Whether an amount is at most a bound**, by their exact values. -/
def Amount.atMost (bound : Binary64) : Amount → Bool
  | .real x => x.le bound
  | .whole i =>
    match bound with
    | .finite negative units _ =>
      decide (i * Binary64.unitsPerOne ≤ if negative then -(units : Int) else units)
    | .infinite negative => !negative
    | .nan => false

/-- Of two numbers that compare one is at most the other. -/
theorem Binary64.le_eq_not_lt {x y : Binary64} (hx : x.compares = true) (hy : y.compares = true) :
    x.le y = !y.lt x := by
  cases x with
  | finite s m hm =>
    cases y with
    | finite t n hn =>
      rw [le_eq_decide (x := finite s m hm) (y := finite t n hn) rfl rfl,
        lt_eq_decide (x := finite t n hn) (y := finite s m hm) rfl rfl, ← decide_not]
      exact decide_eq_decide.mpr Int.not_lt.symm
    | infinite t => cases t <;> rfl
    | nan => cases hy
  | infinite s =>
    cases y with
    | finite t n hn => cases s <;> rfl
    | infinite t => cases s <;> cases t <;> rfl
    | nan => cases hy
  | nan => cases hx

/-- What compares is at most a bound if it does not lie above it. -/
theorem atMost_eq_not_isAbove {bound : Binary64} (hbound : bound.compares = true) {a : Amount}
    (ha : a.compares = true) : a.atMost bound = !isAbove bound a := by
  cases a with
  | real x => exact Binary64.le_eq_not_lt ha hbound
  | whole i =>
    cases bound with
    | finite s m hm =>
      show decide _ = !decide _
      rw [← decide_not]
      exact decide_eq_decide.mpr Int.not_lt.symm
    | infinite s => cases s <;> rfl
    | nan => cases hbound

/-! ## Snapshots -/

/-- **A snapshot that shows how some amounts are distributed** over bounds. -/
structure Snapshot.Distributes (bounds : List Binary64) (seen : List Amount) (shot : Snapshot) :
    Prop where
  /-- Each bound has the number of amounts that are at most that, infinity the
  number of all. -/
  buckets : shot.buckets = bounds.map (fun bound => (bound, seen.countP (Amount.atMost bound)))
    ++ [(.infinite false, seen.length)]
  /-- The counts do not decrease. -/
  ascending : (shot.buckets.map Prod.snd).Pairwise (· ≤ ·)
  /-- The number of the amounts. -/
  count : shot.count = seen.length
  /-- The amounts were added up in order, each sum rounded. -/
  sum : shot.sum = Amount.summed seen
  /-- If nothing is rounded, that is their sum. -/
  exact : Exact (seen.map .observing) → shot.sum.units? = some (seen.map Amount.units).sum

/-- For bounds in order, what does not lie above a bound does not lie above a
later one. -/
theorem pairwise_countP_not_isAbove {bounds : List Binary64} (h : Ascending bounds)
    (seen : List Amount) :
    (bounds.map fun bound => seen.countP (!isAbove bound ·)).Pairwise (· ≤ ·) := by
  obtain ⟨hfinite, hordered⟩ := h
  rw [List.pairwise_map]
  refine hordered.imp_of_mem fun {before bound} hbefore hbound hlt => ?_
  refine List.countP_mono_left fun a _ hnot => ?_
  cases habove : isAbove bound a with
  | false => rfl
  | true => rwa [isAbove_of_lt (hfinite before hbefore) (hfinite bound hbound) hlt habove] at hnot

/-- **A histogram distributes what it has divided by its bounds.** -/
theorem Snapshot.distributes_tallied {bounds : List Binary64} (h : Ascending bounds)
    {seen : List Amount} (hcompares : ∀ a ∈ seen, a.compares = true) :
    (Snapshot.of bounds (tallied bounds seen) (Amount.summed seen)).Distributes bounds seen := by
  rw [snapshot_tallied h]
  have hbounds (bound : Binary64) (hbound : bound ∈ bounds) : bound.compares = true := by
    have hfinite := h.1 bound hbound
    cases bound with
    | finite s m hm => rfl
    | infinite s => rfl
    | nan => cases hfinite
  have hcounts : ∀ bound ∈ bounds,
      seen.countP (!isAbove bound ·) = seen.countP (Amount.atMost bound) := fun bound hbound =>
    List.countP_congr fun a ha => by
      rw [atMost_eq_not_isAbove (hbounds bound hbound) (hcompares a ha)]
  refine ⟨?_, ?_, rfl, rfl, Amount.units?_summed⟩
  · show _ ++ _ = _ ++ _
    rw [List.map_congr_left fun bound hbound => congrArg (Prod.mk bound) (hcounts bound hbound)]
  · rw [List.map_append, List.map_map]
    refine List.pairwise_append.mpr
      ⟨pairwise_countP_not_isAbove h seen, List.pairwise_singleton _ _, fun n hn k hk => ?_⟩
    obtain ⟨bound, -, rfl⟩ := List.mem_map.mp hn
    obtain rfl := List.mem_singleton.mp hk
    exact List.countP_le_length

/-- **The order of the amounts makes no difference** to buckets and count. -/
theorem Snapshot.Distributes.buckets_eq_of_perm {bounds : List Binary64} {seen seen' : List Amount}
    {shot shot' : Snapshot} (h : shot.Distributes bounds seen) (h' : shot'.Distributes bounds seen')
    (hperm : seen'.Perm seen) : shot'.buckets = shot.buckets ∧ shot'.count = shot.count := by
  refine ⟨?_, by rw [h.count, h'.count, hperm.length_eq]⟩
  rw [h.buckets, h'.buckets, hperm.length_eq]
  exact congrArg (· ++ _) (List.map_congr_left fun bound _ =>
    congrArg (Prod.mk bound) (hperm.countP_eq _))

namespace Session

/-- The snapshot of a histogram of a session, by what was brought to it. -/
theorem shown?_histogram {actions : List SessionAction} {id : SeriesId} {bounds : List Binary64}
    (hid : id ∈ (after ⟨.ofMemory, []⟩ actions).handles)
    (hshape : (after ⟨.ofMemory, []⟩ actions).store.shape? id.family = some (.histogram bounds)) :
    Bounds.refusal? bounds = none
      ∧ (after ⟨.ofMemory, []⟩ actions).store.shown? id
        = some (.histogram (some (.of bounds (tallied bounds (amounts actions .observe id))
            (Amount.summed (amounts actions .observe id))))) := by
  obtain ⟨m, h⟩ := told_after actions
  refine ⟨h.refusal?_bounds hshape, ?_⟩
  rw [h.shown?_eq hid hshape, Memory.changed_histogram (h.ascending hshape)]
  rfl

/-- **A histogram shows how many observations are at most each bound.** Whatever
a session over the memory store does, the bounds of each of its histograms were
accepted, and if all that was observed in it compares,

* its snapshot has the bounds in order and then infinity, and shows for each of
  them how many observations are at most that;
* these counts do not decrease, and the last is the number of observations;
* its sum is that of the observations, exactly so if nothing is rounded;
* a histogram with the same bounds in which the same was observed in another order,
  in this session or another, has the same buckets and the same count.

A whole number beyond the range of binary64 compares, and is counted although its
observation fails. -/
theorem histogram_distributes (actions : List SessionAction) {id : SeriesId}
    {bounds : List Binary64}
    (hid : id ∈ (after ⟨.ofMemory, []⟩ actions).handles)
    (hshape : (after ⟨.ofMemory, []⟩ actions).store.shape? id.family = some (.histogram bounds))
    (hcompares : ∀ a ∈ amounts actions .observe id, a.compares = true) :
    Bounds.refusal? bounds = none
      ∧ ∃ shot, (after ⟨.ofMemory, []⟩ actions).store.shown? id = some (.histogram (some shot))
        ∧ shot.Distributes bounds (amounts actions .observe id)
        ∧ ∀ actions' id', id' ∈ (after ⟨.ofMemory, []⟩ actions').handles →
          (after ⟨.ofMemory, []⟩ actions').store.shape? id'.family = some (.histogram bounds) →
          (amounts actions' .observe id').Perm (amounts actions .observe id) →
          ∃ shot', (after ⟨.ofMemory, []⟩ actions').store.shown? id'
            = some (.histogram (some shot'))
            ∧ shot'.buckets = shot.buckets ∧ shot'.count = shot.count := by
  obtain ⟨hrefusal, hshown⟩ := shown?_histogram hid hshape
  have hascending := Bounds.ascending_of_refusal? hrefusal
  have hshot := Snapshot.distributes_tallied hascending hcompares
  refine ⟨hrefusal, _, hshown, hshot, fun actions' id' hid' hshape' hperm => ?_⟩
  obtain ⟨-, hshown'⟩ := shown?_histogram hid' hshape'
  have hcompares' : ∀ a ∈ amounts actions' .observe id', a.compares = true := fun a ha =>
    hcompares a (hperm.subset ha)
  exact ⟨_, hshown', hshot.buckets_eq_of_perm
    (Snapshot.distributes_tallied hascending hcompares') hperm⟩

/-- Observations below all bounds, at bounds and above all bounds, one of them a
whole number. -/
theorem histogram_distributes_at_bounds :
    let actions := [SessionAction.register "latency" "Seconds." (.histogram [1, 2]) [],
      .resolve "latency" [],
      .operate 0 .observe (some (.real 2)), .operate 0 .observe (some (.int 1)),
      .operate 0 .observe (some (.real 0.5)), .operate 0 .observe (some (.real 8))]
    ∃ shot, (after ⟨.ofMemory, []⟩ actions).store.shown? ⟨"latency", []⟩
        = some (.histogram (some shot))
      ∧ shot.buckets = [(1, 2), (2, 3), (.infinite false, 4)] ∧ shot.count = 4 := by
  intro actions
  have hamounts : amounts actions .observe ⟨"latency", []⟩
      = [.real 2, .whole 1, .real 0.5, .real 8] := by
    decide +kernel
  have hid : (⟨"latency", []⟩ : SeriesId) ∈ (after ⟨.ofMemory, []⟩ actions).handles := by
    decide +kernel
  have hshape : (after ⟨.ofMemory, []⟩ actions).store.shape? "latency"
      = some (.histogram [1, 2]) := by
    decide +kernel
  have hcompares : ∀ a ∈ amounts actions .observe ⟨"latency", []⟩, a.compares = true := by
    rw [hamounts]
    decide +kernel
  obtain ⟨-, shot, hshown, hshot, -⟩ := histogram_distributes actions hid hshape hcompares
  refine ⟨shot, hshown, ?_, ?_⟩
  · rw [hshot.buckets, hamounts]
    decide +kernel
  · rw [hshot.count, hamounts]
    rfl

end Session

end QuicTelemetry
