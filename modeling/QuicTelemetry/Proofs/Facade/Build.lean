import QuicTelemetry.Proofs.Facade.Holding

/-!
# What a facade builds

Building a facade over a memory store cannot fail if the store is new: the names
of the catalogue differ in every namespace, its bounds are in order, and a
series without labels is there for the asking. What is built then holds nothing
yet, and **exactly the series without labels were asked for**
(`Facade.build_of`).
-/

namespace QuicTelemetry

/-! ## Building -/

namespace Facade

/-- The family of a metric, without series. -/
def familyOf (metric : Metric) : Family MemoryCell :=
  { help := metric.description, shape := shapeOf metric, labels := metric.labels }

/-- The bounds of a metric are in order, so any store enters it at once. -/
theorem register_eq_enter (store : Store) (space : Option String) {metric : Metric}
    (hmetric : metric ∈ Catalogue.all) :
    store.register (qualify space metric.name) metric.description (shapeOf metric) metric.labels
      = store.enter (qualify space metric.name) metric.description (shapeOf metric)
        metric.labels := by
  unfold Store.register
  cases hshape : shapeOf metric with
  | counter => rfl
  | gauge => rfl
  | histogram bounds =>
    have hkind : metric.kind.isHistogram = true := by
      rw [← isHistogram_shapeOf, hshape]
      rfl
    obtain rfl := Shape.histogram.inj ((shapeOf_of_isHistogram hkind).symm.trans hshape)
    dsimp only
    unfold Bounds.check
    rw [Catalogue.refusal?_bounds metric hmetric hkind]

/-- A metric whose name is not taken is registered. -/
theorem register_of {m : Memory} {space : Option String} {metric : Metric}
    (hmetric : metric ∈ Catalogue.all) (hnew : qualify space metric.name ∉ m.names) :
    Store.register (.memory m) (qualify space metric.name) metric.description (shapeOf metric)
        metric.labels
      = (.ok (), .memory ⟨m.families.push (qualify space metric.name) (familyOf metric)⟩) := by
  have hhas : m.families.has (qualify space metric.name) = false :=
    Bool.eq_false_iff.mpr fun hhas => hnew ((Table.has_iff_mem_keys _ _).mp hhas)
  rw [register_eq_enter _ _ hmetric]
  unfold Store.enter Memory.register
  dsimp only
  rw [if_neg (Bool.eq_false_iff.mp hhas)]
  rfl

/-- **Registering metrics** whose names are free adds a family for each, and goes on
with those behind them. -/
theorem registerAll_append {space : Option String} {front : List Metric}
    (hall : ∀ metric ∈ front, metric ∈ Catalogue.all)
    (hnodup : (front.map fun metric => qualify space metric.name).Nodup) {m : Memory}
    (hnew : ∀ metric ∈ front, qualify space metric.name ∉ m.names) (rest : List Metric) :
    registerAll space (.memory m) (front ++ rest)
      = registerAll space (.memory ⟨⟨m.families.entries
          ++ front.map fun metric => (qualify space metric.name, familyOf metric)⟩⟩) rest := by
  induction front generalizing m with
  | nil =>
    rw [List.map_nil, List.append_nil]
    rfl
  | cons metric front ih =>
    rw [List.map_cons, List.nodup_cons] at hnodup
    rw [List.cons_append, registerAll,
      register_of (hall metric List.mem_cons_self) (hnew metric List.mem_cons_self)]
    dsimp only
    rw [ih (fun other hother => hall other (List.mem_cons_of_mem _ hother)) hnodup.2]
    · simp [Table.push]
    · intro other hother hmem
      change _ ∈ (m.families.push _ _).keys at hmem
      rw [Table.keys_push] at hmem
      rcases List.mem_append.mp hmem with hmem | hmem
      · exact hnew other (List.mem_cons_of_mem _ hother) hmem
      · exact hnodup.1 (List.mem_map.mpr ⟨other, hother, List.mem_singleton.mp hmem⟩)

/-- **Registering metrics** adds a family for each. -/
theorem registerAll_of {space : Option String} {metrics : List Metric}
    (hall : ∀ metric ∈ metrics, metric ∈ Catalogue.all)
    (hnodup : (metrics.map fun metric => qualify space metric.name).Nodup) {m : Memory}
    (hnew : ∀ metric ∈ metrics, qualify space metric.name ∉ m.names) :
    registerAll space (.memory m) metrics
      = (.ok (), .memory ⟨⟨m.families.entries
          ++ metrics.map fun metric => (qualify space metric.name, familyOf metric)⟩⟩) := by
  have happend := registerAll_append hall hnodup hnew []
  rw [List.append_nil] at happend
  rw [happend]
  rfl

/-- The families of the metrics that are switched on, without series. -/
def families (flags : Flags) (space : Option String) : Table String (Family MemoryCell) :=
  ⟨(Catalogue.permitted flags).map fun metric => (qualify space metric.name, familyOf metric)⟩

theorem keys_families (flags : Flags) (space : Option String) :
    (families flags space).keys
      = (Catalogue.permitted flags).map fun metric => qualify space metric.name := by
  unfold families Table.keys
  rw [List.map_map]
  rfl

theorem nodup_permitted (flags : Flags) (space : Option String) :
    ((Catalogue.permitted flags).map fun metric => qualify space metric.name).Nodup := by
  have hnames : ((Catalogue.permitted flags).map Metric.name).Nodup :=
    Catalogue.nodup_names.sublist (List.filter_sublist.map _)
  have hqualified := hnames.map (f := qualify space) fun _ _ h => qualify_inj h
  rw [List.map_map] at hqualified
  exact hqualified

/-- In the registered families nothing was asked for. -/
theorem holds_families (flags : Flags) (space : Option String) :
    (Memory.mk (families flags space)).Holds flags space (fun _ => False) fun _ => [] := by
  refine ⟨keys_families flags space, fun metric hmetric => ⟨familyOf metric, ?_, rfl, rfl,
    fun values _ => ?_, fun values => ?_, fun values u hu => ?_⟩⟩
  · refine Table.get?_of_mem_entries ?_ (List.mem_map.mpr ⟨metric, hmetric, rfl⟩)
    rw [keys_families]
    exact nodup_permitted flags space
  · exact ⟨fun hsome => absurd hsome Bool.false_ne_true, False.elim⟩
  · exact MemoryCell.shows_fresh _
  · exact absurd hu List.not_mem_nil

/-- **Resolving the series without labels** adds them to those that were asked
for. -/
theorem resolveAll_of {flags : Flags} {space : Option String} {metrics : List Metric}
    (hmetrics : ∀ metric ∈ metrics, metric ∈ Catalogue.permitted flags ∧ metric.labels = [])
    {asked : SeriesId → Prop} {us : SeriesId → List Mutation} {m : Memory}
    (h : m.Holds flags space asked us) :
    ∃ m', resolveAll space (.memory m) metrics = (.ok (), .memory m')
      ∧ m'.Holds flags space
        (fun id => asked id ∨ ∃ metric ∈ metrics, id = ⟨qualify space metric.name, []⟩) us := by
  induction metrics generalizing asked m with
  | nil => exact ⟨m, rfl, h.congr (fun _ _ _ _ => by simp) fun _ => rfl⟩
  | cons metric rest ih =>
    obtain ⟨hmetric, hlabels⟩ := hmetrics metric List.mem_cons_self
    have hlength : ([] : List String).length = metric.labels.length := by rw [hlabels]
    obtain ⟨m', hresolve, h'⟩ := h.resolve hmetric hlength
    obtain ⟨m'', hrest, h''⟩ := ih (fun metric hmem => hmetrics metric (List.mem_cons_of_mem _ hmem)) h'
    rw [hlabels] at hresolve
    refine ⟨m'', ?_, h''.congr (fun metric' _ values _ => ?_) fun _ => rfl⟩
    · unfold resolveAll Store.resolve Store.put
      dsimp only
      rw [show ([] : Labelling) = Labelling.of [] [] from rfl, hresolve]
      exact hrest
    · rw [List.exists_mem_cons_iff, or_comm (b := asked _), or_assoc]

/-- The metrics without labels that are switched on. -/
theorem unlabelled_permitted (flags : Flags) :
    ∀ metric ∈ unlabelled.filter fun metric => flags.permits metric.flag,
      metric ∈ Catalogue.permitted flags ∧ metric.labels = [] := by
  intro metric hmem
  obtain ⟨hmem, hpermits⟩ := List.mem_filter.mp hmem
  obtain ⟨hall, hlabels⟩ := Catalogue.mem_unlabelled_iff.mp hmem
  exact ⟨List.mem_filter.mpr ⟨hall, hpermits⟩, hlabels⟩

/-- A facade is built over a new memory store if the series without labels are
resolved in it. -/
theorem build_of_resolveAll {flags : Flags} {space : Value} {m : Memory} (logging : Logging)
    (stamp : String) (logger : Logger)
    (hresolve : resolveAll space.space? (.memory ⟨families flags space.space?⟩)
      (unlabelled.filter fun metric => flags.permits metric.flag) = (.ok (), .memory m)) :
    build .ofMemory flags space logging stamp logger
      = (.ok (⟨flags, space.space?, Catalogue.permitted flags, logger, 0, 0⟩,
          logging.records stamp logger .debug "metrics.registered"
            (builtFields space flags (Catalogue.permitted flags).length)), .memory m) := by
  have hregister : registerAll space.space? (.memory .empty) (Catalogue.permitted flags)
      = (.ok (), .memory ⟨families flags space.space?⟩) :=
    registerAll_of (m := .empty) (fun _ => Catalogue.mem_all_of_mem_permitted)
      (nodup_permitted flags space.space?) fun _ _ => List.not_mem_nil
  unfold build Store.ofMemory
  dsimp only
  rw [hregister]
  dsimp only
  rw [hresolve]

/-- **A facade can be built over a memory store** in which there is nothing, and
then exactly the series without labels were asked for. -/
theorem build_of (flags : Flags) (space : Value) (logging : Logging) (stamp : String)
    (logger : Logger) :
    ∃ records m, build .ofMemory flags space logging stamp logger
        = (.ok (⟨flags, space.space?, Catalogue.permitted flags, logger, 0, 0⟩, records), .memory m)
      ∧ m.Holds flags space.space? (fun id => id.values = []) fun _ => [] := by
  obtain ⟨m, hresolve, h⟩ :=
    resolveAll_of (unlabelled_permitted flags) (holds_families flags space.space?)
  have hbuild := build_of_resolveAll logging stamp logger hresolve
  refine ⟨_, m, hbuild, h.congr (fun metric hmetric values hlength => ?_) fun _ => rfl⟩
  rw [false_or]
  constructor
  · rintro ⟨_, -, heq⟩
    exact (SeriesId.mk.inj heq).2
  · intro hvalues
    have hnil : values = [] := hvalues
    obtain ⟨hall, hpermits⟩ := List.mem_filter.mp hmetric
    have hlabels : metric.labels = [] := by
      rw [hnil] at hlength
      exact List.eq_nil_of_length_eq_zero hlength.symm
    refine ⟨metric, List.mem_filter.mpr ⟨?_, hpermits⟩, by rw [hnil]⟩
    exact Catalogue.mem_unlabelled_iff.mpr ⟨hall, hlabels⟩

end Facade

end QuicTelemetry
