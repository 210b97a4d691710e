import Mathlib.Algebra.BigOperators.Ring.List
import QuicTelemetry.Proofs.Facade.Switching

/-!
# What is read of a chronicle

Over the metrics of a facade a reading is one entry of the chronicle, replayed
(`Memory.Replays.histogram`, `Memory.Replays.value`). Where nothing is rounded, an
entry comes to the value it should: the sum of the numbers that were observed, or
of the whole numbers a counter was increased by.
-/

namespace QuicTelemetry

/-- The observation of a number. -/
def Mutation.observed (x : Binary64) : Mutation := ⟨.observe, .real x⟩

/-- Numbers are added up as amounts are. -/
theorem Amount.summed_real (xs : List Binary64) : summed (xs.map .real) = Binary64.sum xs := by
  unfold summed
  rw [List.foldl_map]
  rfl

/-- **Observed numbers** are divided by the bounds and added up, and none is
refused. -/
theorem Memory.changed_observed {bounds : List Binary64} (h : Ascending bounds)
    (xs : List Binary64) :
    changed (.histogram bounds) (xs.map .observed)
      = .histogram (tallied bounds (xs.map .real)) (Binary64.sum xs) := by
  have hseen : (xs.map Mutation.observed).filterMap (Mutation.amountOf? .observe)
      = xs.map Amount.real := by
    rw [List.filterMap_map, ← List.filterMap_eq_map]
    rfl
  rw [changed_histogram h, hseen, Amount.summed_real]

/-- The number of units of a finite number. -/
def Binary64.units (x : Binary64) : Int := x.units?.getD 0

/-- **The sum of numbers** of which nothing is rounded. -/
theorem Binary64.units?_sum {xs : List Binary64} (h : Exact (xs.map .observed)) :
    (sum xs).units? = some (xs.map units).sum := by
  have hobserved : xs.map Mutation.observed = (xs.map Amount.real).map Mutation.observing := by
    rw [List.map_map]
    rfl
  rw [hobserved] at h
  rw [← Amount.summed_real, Amount.units?_summed h, List.map_map]
  rfl

/-- The increase of a counter by a whole number. -/
def Mutation.increased (n : Int) : Mutation := ⟨.inc, .int n⟩

/-- **The value of a counter** that is increased by whole numbers from zero on, of
which nothing is rounded. -/
theorem Memory.units?_changed_increased {ns : List Int} (hnonneg : ∀ n ∈ ns, 0 ≤ n)
    (h : Exact (ns.map .increased)) :
    (valueOf (some (changed .counter (ns.map .increased)))).units?
      = some (ns.sum * Binary64.unitsPerOne) := by
  have htakes : ∀ u ∈ ns.map Mutation.increased, Shape.counter.Takes u := by
    intro u hu
    obtain ⟨n, hn, rfl⟩ := List.mem_map.mp hu
    exact ⟨List.mem_singleton.mpr rfl,
      fun _ => Int.mul_nonneg (hnonneg n hn) (Int.natCast_nonneg _)⟩
  have hascending : Shape.counter.IsAscending := trivial
  obtain ⟨x, hchanged, hx⟩ := Memory.shows_changed hascending htakes h
  rw [hchanged]
  show x.units? = _
  rw [hx, settled_eq_sum fun u hu => ?_, List.map_map]
  · have hsum := List.sum_map_mul_right ns id (Binary64.unitsPerOne : Int)
    rw [List.map_id] at hsum
    exact congrArg some hsum
  · obtain ⟨n, -, rfl⟩ := List.mem_map.mp hu
    exact .inl rfl

/-! ## Stores -/

/-- In the registered families nothing was asked for. -/
theorem Memory.replays_families (flags : Flags) (space : Option String) :
    (Memory.mk (Facade.families flags space)).Replays fun _ => none := by
  intro name f hf values
  have hseries : f.series = .empty := Facade.series_families hf
  unfold Family.cell?
  rw [hseries]
  rfl

namespace Memory.Replays

variable {us : Chronicle} {m : Memory}

/-! ## Readings -/

variable {flags : Flags} {space : Option String} {metric : Metric} {values : List String}

/-- **A histogram** shows what its series has seen. -/
theorem histogram (h : m.Replays us) (hserves : m.Serves flags space)
    (hmetric : metric ∈ Catalogue.permitted flags) (hkind : metric.kind.isHistogram = true)
    (hlength : values.length = metric.labels.length) :
    m.histogram (qualify space metric.name) (.of metric.labels values)
      = .ok ((us ⟨qualify space metric.name, values⟩).bind fun vs =>
          (changed (Facade.shapeOf metric) vs).snapshot? (metric.bounds.getD [])) := by
  obtain ⟨f, hf, hshape, hlabels⟩ := hserves.families metric hmetric
  have hmem := Catalogue.mem_all_of_mem_permitted hmetric
  have hbounds := Facade.shapeOf_of_isHistogram hkind
  rw [← hlabels] at hlength ⊢
  rw [histogram_of hf (hshape.trans hbounds) (hlabels ▸ Catalogue.nodup_labels metric hmem)
    (hlabels ▸ Catalogue.labels_free metric hmem) hlength, h _ f hf values, hshape]
  cases us ⟨qualify space metric.name, values⟩ <;> rfl

/-- **A histogram that has seen numbers** shows how many they are and their sum,
and is not there if there are none and it was not asked for. -/
theorem histogram_observed (h : m.Replays us) (hserves : m.Serves flags space)
    (hmetric : metric ∈ Catalogue.permitted flags) (hkind : metric.kind.isHistogram = true)
    (hlength : values.length = metric.labels.length) {xs : List Binary64}
    (hseen : us.seen ⟨qualify space metric.name, values⟩ = xs.map .observed) :
    ∃ shot?, m.histogram (qualify space metric.name) (.of metric.labels values) = .ok shot?
      ∧ shot?.elim 0 Snapshot.count = xs.length ∧ shot?.elim 0 Snapshot.sum = Binary64.sum xs := by
  refine ⟨_, h.histogram hserves hmetric hkind hlength, ?_⟩
  unfold Chronicle.seen at hseen
  cases hasked : us ⟨qualify space metric.name, values⟩ with
  | none =>
    rw [hasked] at hseen
    obtain rfl : xs = [] := List.map_eq_nil_iff.mp hseen.symm
    exact ⟨rfl, rfl⟩
  | some vs =>
    rw [hasked] at hseen
    obtain rfl : vs = xs.map .observed := hseen
    rw [Option.bind_some, Facade.shapeOf_of_isHistogram hkind,
      changed_observed (Catalogue.ascending_bounds (Catalogue.mem_all_of_mem_permitted hmetric) hkind)]
    refine ⟨?_, rfl⟩
    show total (tallied (metric.bounds.getD []) (xs.map .real)) = xs.length
    rw [total_tallied, List.length_map]

/-- **The value of a counter or a gauge** is what its series has seen. -/
theorem value (h : m.Replays us) (hserves : m.Serves flags space)
    (hmetric : metric ∈ Catalogue.permitted flags) (hkind : metric.kind.isHistogram = false)
    (hlength : values.length = metric.labels.length) :
    m.value (qualify space metric.name) (.of metric.labels values)
      = .ok (valueOf (some (changed (Facade.shapeOf metric)
          (us.seen ⟨qualify space metric.name, values⟩)))) := by
  obtain ⟨f, hf, hshape, hlabels⟩ := hserves.families metric hmetric
  have hmem := Catalogue.mem_all_of_mem_permitted hmetric
  have hscalar : f.shape.isHistogram = false := by
    rw [hshape, Facade.isHistogram_shapeOf, hkind]
  rw [← hlabels] at hlength ⊢
  rw [value_eq, Labelling.clashes_of hlength (hlabels ▸ Catalogue.labels_free metric hmem), hf]
  simp only [Bool.false_eq_true, if_false, hscalar, Except.map,
    seriesOf_of _ (hlabels ▸ Catalogue.nodup_labels metric hmem) hlength]
  rw [h _ f hf values]
  unfold Chronicle.seen
  cases us ⟨qualify space metric.name, values⟩ with
  | some vs => rw [Option.map_some, hshape]; rfl
  | none =>
    show Except.ok 0 = Except.ok (valueOf (some (.fresh (Facade.shapeOf metric))))
    rw [← hshape, MemoryCell.fresh_of_scalar hscalar]
    rfl

end Memory.Replays

end QuicTelemetry
