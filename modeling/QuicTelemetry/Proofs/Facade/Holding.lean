import QuicTelemetry.Proofs.Facade.History
import QuicTelemetry.Proofs.Store.Operation

/-!
# What the store of a facade holds

A facade over a memory store registers a family for each metric that is switched
on. From then on the store *holds* something: which series were asked for, and
for every series the mutations it has seen. `Memory.Holds` is that invariant,
with the two as parameters, so that resolving and operating each change one of
them:

* **to resolve a series adds it to those that were asked for**
  (`Memory.Holds.resolve`), and
* **to operate on one adds a mutation to it** (`Memory.Holds.call`).

Both are one cell written, and `Memory.Holds.write` is what that means. It is
where names have to differ: a family of another metric has another name, in
whichever namespace.

A store that holds what a ledger says also shows it (`Memory.Holds.reading_eq`).
-/

namespace QuicTelemetry

/-! ## The catalogue -/

/-- A namespace takes no difference away from names. -/
theorem qualify_inj {space : Option String} {name name' : String}
    (h : qualify space name = qualify space name') : name = name' := by
  cases space with
  | none => exact h
  | some space => exact (String.append_right_inj (space ++ "_")).mp h

namespace Catalogue

theorem mem_all_of_mem_permitted {flags : Flags} {metric : Metric} (h : metric ∈ permitted flags) :
    metric ∈ all := List.mem_of_mem_filter h

/-- Metrics of one name are one. -/
theorem eq_of_qualify_eq {space : Option String} {metric metric' : Metric} (h : metric ∈ all)
    (h' : metric' ∈ all) (hname : qualify space metric.name = qualify space metric'.name) :
    metric = metric' :=
  List.inj_on_of_nodup_map nodup_names h h' (qualify_inj hname)

theorem nodup_labels : ∀ metric ∈ all, metric.labels.Nodup := by decide

/-- No label has a name that reading takes for itself. -/
theorem labels_free : ∀ metric ∈ all, ∀ name ∈ ["self", "name"], name ∉ metric.labels := by
  decide

/-- The bounds of all histograms are in order. -/
theorem refusal?_bounds : ∀ metric ∈ all, metric.kind.isHistogram = true →
    Bounds.refusal? (metric.bounds.getD []) = none := by
  have h : ∀ metric ∈ all, metric.kind.isHistogram = true →
      (Bounds.refusal? (metric.bounds.getD [])).isNone = true := by
    decide +kernel
  exact fun metric hmetric hkind => Option.isNone_iff_eq_none.mp (h metric hmetric hkind)

theorem ascending_bounds {metric : Metric} (h : metric ∈ all)
    (hkind : metric.kind.isHistogram = true) : Ascending (metric.bounds.getD []) :=
  Bounds.ascending_of_refusal? (refusal?_bounds metric h hkind)

/-- The metrics without labels are those that are resolved once. -/
theorem mem_unlabelled_iff {metric : Metric} :
    metric ∈ Facade.unlabelled ↔ metric ∈ all ∧ metric.labels = [] := by
  have hnames : ∀ metric ∈ all,
      metric.name ∈ Facade.unlabelled.map Metric.name ↔ metric.labels = [] := by
    decide
  have hall : ∀ metric ∈ Facade.unlabelled, metric ∈ all := by
    simp [Facade.unlabelled, all, connection]
  constructor
  · intro hmem
    exact ⟨hall metric hmem, (hnames metric (hall metric hmem)).mp (List.mem_map_of_mem hmem)⟩
  · rintro ⟨hmem, hlabels⟩
    obtain ⟨found, hfound, hname⟩ := List.mem_map.mp ((hnames metric hmem).mpr hlabels)
    rwa [← List.inj_on_of_nodup_map nodup_names (hall found hfound) hmem hname]

end Catalogue

/-! ## Shapes of metrics -/

theorem Facade.isHistogram_shapeOf (metric : Metric) :
    (shapeOf metric).isHistogram = metric.kind.isHistogram := by
  unfold shapeOf
  cases metric.kind <;> rfl

theorem Facade.shapeOf_of_isHistogram {metric : Metric} (h : metric.kind.isHistogram = true) :
    shapeOf metric = .histogram (metric.bounds.getD []) := by
  unfold shapeOf
  cases hkind : metric.kind <;> rw [hkind] at h
  · exact absurd h Bool.false_ne_true
  · exact absurd h Bool.false_ne_true

theorem Facade.verbs_shapeOf (metric : Metric) : (shapeOf metric).verbs = metric.kind.verbs := by
  unfold shapeOf
  cases metric.kind <;> rfl

theorem Facade.kind_of_shapeOf {metric : Metric} (h : shapeOf metric = .counter) :
    metric.kind = .counter := by
  unfold shapeOf at h
  cases hkind : metric.kind <;> rw [hkind] at h <;> first | rfl | cases h

theorem Facade.isAscending_shapeOf {metric : Metric} (h : metric ∈ Catalogue.all) :
    (shapeOf metric).IsAscending := by
  cases hkind : metric.kind.isHistogram with
  | true =>
    rw [shapeOf_of_isHistogram hkind]
    exact Catalogue.ascending_bounds h hkind
  | false =>
    have hscalar := (isHistogram_shapeOf metric).trans hkind
    cases hshape : shapeOf metric with
    | counter => trivial
    | gauge => trivial
    | histogram bounds =>
      rw [hshape] at hscalar
      cases hscalar

/-! ## What a store holds -/

/-- **A family of a metric**, in which some series were asked for and every
series has seen some mutations. -/
structure Family.Holds (metric : Metric) (asked : List String → Prop)
    (us : List String → List Mutation) (f : Family MemoryCell) : Prop where
  shape : f.shape = Facade.shapeOf metric
  labels : f.labels = metric.labels
  resolved : ∀ values, values.length = metric.labels.length →
    ((f.cell? values).isSome = true ↔ asked values)
  cells : ∀ values, ((f.cell? values).getD (.fresh f.shape)).Shows f.shape (us values)
  taken : ∀ values, ∀ u ∈ us values, f.shape.Takes u

/-- **A memory store of the metrics that are switched on**, in which some series
were asked for and every series has seen some mutations. -/
structure Memory.Holds (flags : Flags) (space : Option String) (asked : SeriesId → Prop)
    (us : SeriesId → List Mutation) (m : Memory) : Prop where
  names : m.names = (Catalogue.permitted flags).map fun metric => qualify space metric.name
  families : ∀ metric ∈ Catalogue.permitted flags,
    ∃ f, m.families.get? (qualify space metric.name) = some f
      ∧ f.Holds metric (fun values => asked ⟨qualify space metric.name, values⟩)
        fun values => us ⟨qualify space metric.name, values⟩

namespace Memory.Holds

variable {flags : Flags} {space : Option String} {asked asked' : SeriesId → Prop}
  {us us' : SeriesId → List Mutation} {m m' : Memory} {metric : Metric} {values : List String}

/-- What a store holds is a matter of the series of its own metrics. No other can be asked
for, so nothing has to be known of them. -/
theorem congr (h : m.Holds flags space asked us)
    (hasked : ∀ metric ∈ Catalogue.permitted flags, ∀ values,
      values.length = metric.labels.length →
        (asked ⟨qualify space metric.name, values⟩ ↔ asked' ⟨qualify space metric.name, values⟩))
    (hus : ∀ id, us' id = us id) : m.Holds flags space asked' us' := by
  refine ⟨h.names, fun metric hmetric => ?_⟩
  obtain ⟨f, hf, hholds⟩ := h.families metric hmetric
  refine ⟨f, hf, hholds.shape, hholds.labels, fun values hlength => ?_, fun values => ?_,
    fun values => ?_⟩
  · exact (hholds.resolved values hlength).trans (hasked metric hmetric values hlength)
  · rw [hus]
    exact hholds.cells values
  · rw [hus]
    exact hholds.taken values

/-- **A cell that is written** is the cell of one series of one metric. -/
theorem write (h : m.Holds flags space asked us) (hmetric : metric ∈ Catalogue.permitted flags)
    {cell : MemoryCell} (hwrites : Writes m.families ⟨qualify space metric.name, values⟩ cell
      m'.families) {vs : List Mutation} (hcell : cell.Shows (Facade.shapeOf metric) vs)
    (htaken : ∀ u ∈ vs, (Facade.shapeOf metric).Takes u) :
    m'.Holds flags space (fun id => id = ⟨qualify space metric.name, values⟩ ∨ asked id)
      fun id => if id = ⟨qualify space metric.name, values⟩ then vs else us id := by
  refine ⟨hwrites.keys.trans h.names, fun metric' hmetric' => ?_⟩
  obtain ⟨f, hf, hholds⟩ := h.families metric' hmetric'
  by_cases hname : qualify space metric'.name = qualify space metric.name
  · -- the family of the series
    obtain rfl := Catalogue.eq_of_qualify_eq (Catalogue.mem_all_of_mem_permitted hmetric')
      (Catalogue.mem_all_of_mem_permitted hmetric) hname
    obtain ⟨f', hf', hchanged⟩ := hwrites.family f hf
    refine ⟨f', hf', hchanged.shape.trans hholds.shape, hchanged.labels.trans hholds.labels,
      fun values' hlength => ?_, fun values' => ?_, fun values' => ?_⟩
    · rw [hchanged.cells, SeriesId.mk.injEq]
      by_cases hvalues : values' = values
      · simp [hvalues]
      · simp [hvalues, hholds.resolved values' hlength]
    · rw [hchanged.cells, hchanged.shape]
      by_cases hvalues : values' = values
      · rw [if_pos hvalues, if_pos (by rw [hvalues]), hholds.shape]
        exact hcell
      · rw [if_neg hvalues, if_neg (by simp [hvalues])]
        exact hholds.cells values'
    · rw [hchanged.shape]
      by_cases hvalues : values' = values
      · rw [if_pos (by rw [hvalues]), hholds.shape]
        exact htaken
      · rw [if_neg (by simp [hvalues])]
        exact hholds.taken values'
  · -- another family
    have hne (values' : List String) : (⟨qualify space metric'.name, values'⟩ : SeriesId)
        ≠ ⟨qualify space metric.name, values⟩ := by
      rw [Ne, SeriesId.mk.injEq]
      exact fun heq => hname heq.1
    refine ⟨f, (hwrites.others _ hname).trans hf, hholds.shape, hholds.labels,
      fun values' hlength => ?_, fun values' => ?_, fun values' => ?_⟩
    · rw [hholds.resolved values' hlength, or_iff_right (hne values')]
    · rw [if_neg (hne values')]
      exact hholds.cells values'
    · rw [if_neg (hne values')]
      exact hholds.taken values'

/-- **Resolving a series** adds it to those that were asked for. A series that is new starts
with a fresh cell, which shows that it has seen no mutations, so nothing else changes. -/
theorem resolve (h : m.Holds flags space asked us) (hmetric : metric ∈ Catalogue.permitted flags)
    (hlength : values.length = metric.labels.length) :
    ∃ m', m.resolve (qualify space metric.name) (.of metric.labels values)
        = (.ok ⟨qualify space metric.name, values⟩, m')
      ∧ m'.Holds flags space (fun id => id = ⟨qualify space metric.name, values⟩ ∨ asked id) us := by
  obtain ⟨f, hf, hholds⟩ := h.families metric hmetric
  have hmem := Catalogue.mem_all_of_mem_permitted hmetric
  have hfree : ∀ name ∈ ["self"], name ∉ metric.labels := fun name hname =>
    Catalogue.labels_free metric hmem name (by simp [List.mem_singleton.mp hname])
  have hseries : seriesOf (qualify space metric.name) f (.of metric.labels values)
      = .ok ⟨qualify space metric.name, values⟩ := by
    rw [← hholds.labels] at hlength ⊢
    exact seriesOf_of _ (hholds.labels ▸ Catalogue.nodup_labels metric hmem) hlength
  have hwrites : Writes m.families ⟨qualify space metric.name, values⟩
      ((f.cell? values).getD (.fresh f.shape))
      (Memory.mk (m.families.adjust (qualify space metric.name) fun f =>
        f.ensure values (.fresh f.shape))).families := by
    let id : SeriesId := ⟨qualify space metric.name, values⟩
    let change (f : Family MemoryCell) := f.ensure values (.fresh f.shape)
    have hf' : m.families.get? id.family = some f := hf
    have hchanged : f.Changed id.values ((f.cell? values).getD (.fresh f.shape)) (change f) :=
      .ensure f values _
    exact .adjust hf' hchanged
  have hcell := hholds.cells values
  have htaken := hholds.taken values
  rw [hholds.shape] at hcell htaken
  rw [hholds.shape] at hwrites
  refine ⟨_, ?_, (h.write hmetric hwrites hcell htaken).congr (fun _ _ _ _ => Iff.rfl)
    fun id => ?_⟩
  · unfold Memory.resolve
    rw [hf, Labelling.clashes_of hlength hfree]
    dsimp only
    rw [hseries]
    rfl
  · split
    · next heq => rw [heq]
    · rfl

/-- **Operating on a series** that was asked for adds a mutation to it. There is a cell only
if the series was asked for. That the sum is exact is needed to say what the cell shows
then without the order in which the mutations came. -/
theorem call (h : m.Holds flags space asked us) (hmetric : metric ∈ Catalogue.permitted flags)
    (hlength : values.length = metric.labels.length)
    (hasked : asked ⟨qualify space metric.name, values⟩) {verb : Verb} {args : List Value}
    {argument : Value} (hargs : verb.argument args = .ok argument)
    (htakes : (Facade.shapeOf metric).Takes ⟨verb, argument⟩)
    (hexact : Exact (us ⟨qualify space metric.name, values⟩ ++ [⟨verb, argument⟩])) :
    ∃ m', m.call ⟨qualify space metric.name, values⟩ verb args = (.ok (), m')
      ∧ m'.Holds flags space asked fun id =>
        if id = ⟨qualify space metric.name, values⟩ then us id ++ [⟨verb, argument⟩] else us id := by
  obtain ⟨f, hf, hholds⟩ := h.families metric hmetric
  obtain ⟨cell, hcell⟩ := Option.isSome_iff_exists.mp ((hholds.resolved values hlength).mpr hasked)
  have hshows := hholds.cells values
  rw [hcell, hholds.shape, Option.getD_some] at hshows
  obtain ⟨cell', hchange, hshows'⟩ := change_of_shows
    (Facade.isAscending_shapeOf (Catalogue.mem_all_of_mem_permitted hmetric)) hshows htakes hexact
  have hread : m.cell? ⟨qualify space metric.name, values⟩ = some cell := by
    unfold cell?
    rw [hf]
    exact hcell
  refine ⟨_, ?_, (h.write hmetric (writes_setCell hf hcell cell') hshows' ?_).congr ?_
    fun id => ?_⟩
  · unfold Memory.call argumentOf
    rw [hf, hread]
    have hverb : f.shape.verbs.contains verb = true := by
      rw [hholds.shape, List.contains_iff_mem]
      exact htakes.1
    dsimp only
    rw [if_pos hverb, hargs, hholds.shape]
    dsimp only at hchange ⊢
    rw [hchange]
  · intro u hu
    rcases List.mem_append.mp hu with hu | hu
    · rw [← hholds.shape]
      exact hholds.taken values u hu
    · obtain rfl := List.mem_singleton.mp hu
      exact htakes
  · intro metric' _ values' _
    constructor
    · rintro (heq | hother)
      · rw [heq]
        exact hasked
      · exact hother
    · exact Or.inr
  · split
    · next heq => rw [heq]
    · rfl

end Memory.Holds

/-! ## Readings of what is held -/

/-- **Counts of exact observations** at or below a bound. The store compares numbers of
binary64 and the ledger compares units; for numbers that are finite it is the same. -/
theorem countBelow_eq {us : List Mutation} (h : Exact us) {bound : Binary64}
    (hbound : bound.isFinite = true) :
    (us.map Mutation.amount).countP (!isAbove bound ·) = countBelow us bound := by
  obtain ⟨k, hk⟩ := Binary64.isFinite_iff.mp hbound
  unfold countBelow
  rw [List.countP_map]
  refine List.countP_congr fun u hu => ?_
  obtain ⟨j, hj, -⟩ := h.amounts u hu
  have habove := isAbove_eq_decide hk (u.units?_amount hj).2.1
  simp only [Function.comp, habove, hk, Option.any_some, Bool.not_eq_true', decide_eq_false_iff_not,
    decide_eq_true_eq, Int.not_lt]

namespace Memory.Holds

variable {flags : Flags} {space : Option String} {ledger : Ledger} {m : Memory}
  {metric : Metric} {values : List String}

/-- The value of a counter or a gauge is what its mutations settle to. One that was never
asked for reads as zero, and so does a ledger without mutations. -/
theorem value_eq (h : m.Holds flags space (ledger.Asked flags space) (ledger.mutations flags space))
    (hmetric : metric ∈ Catalogue.permitted flags) (hkind : metric.kind.isHistogram = false)
    (hlength : values.length = metric.labels.length) :
    ∃ x, m.value (qualify space metric.name) (.of metric.labels values) = .ok x
      ∧ x.units? = some (settled (ledger.mutations flags space ⟨qualify space metric.name, values⟩))
      ∧ ∀ u ∈ ledger.mutations flags space ⟨qualify space metric.name, values⟩,
        (Facade.shapeOf metric).Takes u := by
  obtain ⟨f, hf, hholds⟩ := h.families metric hmetric
  have hmem := Catalogue.mem_all_of_mem_permitted hmetric
  have hshape : f.shape.isHistogram = false := by
    rw [hholds.shape, Facade.isHistogram_shapeOf, hkind]
  have hcell := hholds.cells values
  obtain ⟨x, hx, hunits⟩ := hcell.value hshape
  refine ⟨x, ?_, hunits, hholds.shape ▸ hholds.taken values⟩
  rw [MemoryCell.fresh_of_scalar hshape] at hx
  rw [← hholds.labels] at hlength ⊢
  exact value_of hf hshape (hholds.labels ▸ Catalogue.nodup_labels metric hmem)
    (hholds.labels ▸ Catalogue.labels_free metric hmem) hlength hx

/-- **The snapshot of a histogram** has the counts of what was observed. Here it does make a
difference whether the series was asked for: one that was not has no snapshot at all. -/
theorem histogram_eq
    (h : m.Holds flags space (ledger.Asked flags space) (ledger.mutations flags space))
    (hexact : Exact (ledger.mutations flags space ⟨qualify space metric.name, values⟩))
    (hmetric : metric ∈ Catalogue.permitted flags) (hkind : metric.kind.isHistogram = true)
    (hlength : values.length = metric.labels.length) :
    m.reading space metric values = .ok (ledger.reading flags space metric values) := by
  obtain ⟨f, hf, hholds⟩ := h.families metric hmetric
  have hmem := Catalogue.mem_all_of_mem_permitted hmetric
  have hshape : f.shape = .histogram (metric.bounds.getD []) :=
    hholds.shape.trans (Facade.shapeOf_of_isHistogram hkind)
  have hread : m.histogram (qualify space metric.name) (.of metric.labels values)
      = .ok ((f.cell? values).bind (MemoryCell.snapshot? (metric.bounds.getD []))) := by
    rw [← hholds.labels] at hlength ⊢
    exact histogram_of hf hshape (hholds.labels ▸ Catalogue.nodup_labels metric hmem)
      (hholds.labels ▸ Catalogue.labels_free metric hmem) hlength
  have hresolved := hholds.resolved values hlength
  have hcell := hholds.cells values
  have htaken := hholds.taken values
  rw [hshape] at hcell htaken
  unfold Memory.reading
  dsimp only
  rw [if_pos hkind, hread, Ledger.reading_of_isHistogram hkind]
  cases hfound : f.cell? values with
  | none =>
    have hnot : ¬ ledger.Asked flags space ⟨qualify space metric.name, values⟩ := fun hasked => by
      have hsome := hresolved.mpr hasked
      rw [hfound] at hsome
      exact absurd hsome Bool.false_ne_true
    rw [if_neg hnot]
    rfl
  | some cell =>
    have hasked : ledger.Asked flags space ⟨qualify space metric.name, values⟩ :=
      hresolved.mp (by rw [hfound]; rfl)
    rw [hfound] at hcell
    obtain ⟨sum, rfl, hsum⟩ : MemoryCell.Shows (.histogram (metric.bounds.getD [])) _ cell := hcell
    have hordered := Catalogue.ascending_bounds hmem hkind
    have hbuckets := List.map_congr_left fun bound hbound =>
      congrArg (Prod.mk bound) (countBelow_eq hexact (hordered.1 bound hbound))
    rw [if_pos hasked, Option.bind_some, MemoryCell.snapshot?]
    dsimp only
    rw [← settled_eq_sum fun u hu => .inr (List.mem_singleton.mp (htaken u hu).1), ← hsum,
      ← hbuckets, snapshot_tallied hordered, List.length_map]
    rfl

/-- **A store that holds what a ledger says shows it.** The ledger has a sum for a counter
and what its mutations settle to for a gauge. To a counter amounts are only added, so that
is one number. -/
theorem reading_eq
    (h : m.Holds flags space (ledger.Asked flags space) (ledger.mutations flags space))
    (hexact : ∀ id, Exact (ledger.mutations flags space id))
    (hmetric : metric ∈ Catalogue.permitted flags) (hlength : values.length = metric.labels.length) :
    m.reading space metric values = .ok (ledger.reading flags space metric values) := by
  cases hhistogram : metric.kind.isHistogram with
  | true => exact h.histogram_eq (hexact _) hmetric hhistogram hlength
  | false =>
    obtain ⟨x, hx, hunits, htaken⟩ := h.value_eq hmetric hhistogram hlength
    have hread : m.reading space metric values = .ok (.level x.units?) := by
      unfold Memory.reading
      dsimp only
      rw [hhistogram, hx]
      rfl
    rw [hread, hunits]
    unfold Ledger.reading
    cases hkind : metric.kind with
    | gauge => rfl
    | counter =>
      have hshape : Facade.shapeOf metric = .counter := by
        unfold Facade.shapeOf
        rw [hkind]
      rw [hshape] at htaken
      rw [settled_eq_sum fun u hu => .inl (List.mem_singleton.mp (htaken u hu).1)]
    | histogram =>
      rw [hkind] at hhistogram
      exact absurd hhistogram.symm Bool.false_ne_true
    | timeHistogram =>
      rw [hkind] at hhistogram
      exact absurd hhistogram.symm Bool.false_ne_true

end Memory.Holds

end QuicTelemetry
