import Mathlib.Data.List.Forall2
import QuicTelemetry.Proofs.Facade.Switching

/-!
# Building over a store that is in use

A facade may be built over a memory store that has families already, its own from an
earlier time or those of anyone else. What is there stays, whatever it is. The
families of the metrics come behind it, in the order of the catalogue, until one of
the names is taken.

If none is, the facade is built and each metric has a family, with its one series if
it has no labels (`Facade.build_of_free`). Otherwise **building stops at the first
name that is taken**, says so, and leaves the families of the metrics in front of it
behind (`Facade.build_of_taken`). There is no third case
(`Facade.build_over_families`).
-/

namespace QuicTelemetry

/-! ## More families -/

/-- **A store with more families**, behind those it has. -/
def Memory.extended (m : Memory) (entries : List (String × Family MemoryCell)) : Memory :=
  ⟨⟨m.families.entries ++ entries⟩⟩

theorem Memory.names_extended (m : Memory) (entries : List (String × Family MemoryCell)) :
    (m.extended entries).names = m.names ++ entries.map Prod.fst :=
  List.map_append

namespace Facade

/-- **The family of a metric of a facade that was built.** The one series of a metric
without labels is there. -/
def builtFamily (metric : Metric) : Family MemoryCell :=
  if metric.labels = [] then Memory.ensured [] (familyOf metric) else familyOf metric

/-- The family of a metric under its name, while the series without labels are
resolved: under the names that are given, they are there. -/
def entryOf (space : Option String) (asked : List String) (metric : Metric) :
    String × Family MemoryCell :=
  (qualify space metric.name,
    if qualify space metric.name ∈ asked then Memory.ensured [] (familyOf metric)
    else familyOf metric)

section Occupied

variable {space : Option String} {m : Memory} {metrics : List Metric} (asked : List String)

/-- The families of metrics whose names are free are found under their names. -/
theorem get?_extended (hnodup : (metrics.map fun metric => qualify space metric.name).Nodup)
    (hfree : ∀ metric ∈ metrics, qualify space metric.name ∉ m.names) {metric : Metric}
    (hmetric : metric ∈ metrics) :
    (m.extended (metrics.map (entryOf space asked))).families.get? (qualify space metric.name)
      = some (entryOf space asked metric).2 := by
  have hold : m.families.get? (qualify space metric.name) = none := by
    rw [Option.eq_none_iff_forall_ne_some]
    exact fun f hf => hfree metric hmetric (List.mem_map_of_mem (Table.mem_entries_of_get? hf))
  have hkeys : (Table.mk (metrics.map (entryOf space asked))).keys.Nodup := by
    unfold Table.keys
    rw [List.map_map]
    exact hnodup
  unfold Memory.extended
  rw [Table.get?_append, hold, Option.none_or]
  exact Table.get?_of_mem_entries hkeys (List.mem_map_of_mem hmetric)

/-- **Resolving a series without labels** asks for it under its name. -/
theorem resolve_extended (hnodup : (metrics.map fun metric => qualify space metric.name).Nodup)
    (hfree : ∀ metric ∈ metrics, qualify space metric.name ∉ m.names) {metric : Metric}
    (hmetric : metric ∈ metrics) (hlabels : metric.labels = []) :
    (Store.memory (m.extended (metrics.map (entryOf space asked)))).resolve
        (qualify space metric.name) []
      = (.ok ⟨qualify space metric.name, []⟩, .memory (m.extended
          (metrics.map (entryOf space (asked ++ [qualify space metric.name]))))) := by
  have hf := get?_extended asked hnodup hfree hmetric
  have hnone : (entryOf space asked metric).2.labels = [] := by
    unfold entryOf
    dsimp only
    split
    · exact (Family.labels_ensure _ _ _).trans hlabels
    · exact hlabels
  have hadjust : (m.extended (metrics.map (entryOf space asked))).families.adjust
        (qualify space metric.name) (Memory.ensured [])
      = (m.extended (metrics.map (entryOf space (asked ++ [qualify space metric.name])))).families := by
    have hold := congrArg Table.entries
      (Table.adjust_of_not_mem (hfree metric hmetric) (Memory.ensured []))
    unfold Memory.extended Table.adjust at *
    dsimp only at hold ⊢
    rw [List.map_append, hold, List.map_map]
    refine congrArg (fun entries => Table.mk (m.families.entries ++ entries))
      (List.map_congr_left fun other _ => ?_)
    show (if qualify space other.name = qualify space metric.name then _ else _) = _
    by_cases hname : qualify space other.name = qualify space metric.name
    · rw [if_pos hname]
      unfold entryOf
      rw [if_pos (List.mem_append.mpr (.inr (List.mem_singleton.mpr hname)))]
      -- it does not matter if the series is there already
      split
      · rfl
      · rfl
    · rw [if_neg hname]
      unfold entryOf
      simp only [List.mem_append, List.mem_singleton, hname, or_false]
  show Store.put .memory (Memory.resolve _ _ _) = _
  unfold Memory.resolve
  rw [hf]
  have hseries : Memory.seriesOf (qualify space metric.name) (entryOf space asked metric).2 []
      = .ok ⟨qualify space metric.name, []⟩ := by
    unfold Memory.seriesOf
    rw [hnone]
    rfl
  dsimp only
  rw [if_neg (by exact Bool.false_ne_true), hseries]
  exact congrArg (fun families => (_, Store.memory ⟨families⟩)) hadjust

/-- **Resolving series without labels** asks for each of them. -/
theorem resolveAll_extended (hnodup : (metrics.map fun metric => qualify space metric.name).Nodup)
    (hfree : ∀ metric ∈ metrics, qualify space metric.name ∉ m.names) {chosen : List Metric}
    (hchosen : ∀ metric ∈ chosen, metric ∈ metrics ∧ metric.labels = []) :
    resolveAll space (.memory (m.extended (metrics.map (entryOf space asked)))) chosen
      = (.ok (), .memory (m.extended (metrics.map
          (entryOf space (asked ++ chosen.map fun metric => qualify space metric.name))))) := by
  induction chosen generalizing asked with
  | nil =>
    rw [List.map_nil, List.append_nil]
    rfl
  | cons metric rest ih =>
    obtain ⟨hmetric, hlabels⟩ := hchosen metric List.mem_cons_self
    unfold resolveAll
    rw [resolve_extended asked hnodup hfree hmetric hlabels]
    dsimp only
    rw [ih _ fun other hother => hchosen other (List.mem_cons_of_mem _ hother), List.append_assoc]
    rfl

end Occupied

/-! ## Building -/

/-- **A facade is built** if all names are free. -/
theorem build_of_free {m : Memory} {flags : Flags} {space : Value}
    (hfree : ∀ metric ∈ Catalogue.permitted flags, qualify space.space? metric.name ∉ m.names)
    (logging : Logging) (stamp : String) (logger : Logger) :
    ∃ records, build (.memory m) flags space logging stamp logger
      = (.ok (⟨flags, space.space?, Catalogue.permitted flags, logger, 0, 0⟩, records),
        .memory (m.extended ((Catalogue.permitted flags).map fun metric =>
          (qualify space.space? metric.name, builtFamily metric)))) := by
  have hnodup := nodup_permitted flags space.space?
  have hregister : registerAll space.space? (.memory m) (Catalogue.permitted flags)
      = (.ok (), .memory (m.extended ((Catalogue.permitted flags).map (entryOf space.space? [])))) := by
    have hentry : entryOf space.space? [] = fun metric =>
        (qualify space.space? metric.name, familyOf metric) :=
      funext fun metric => congrArg (Prod.mk _) (if_neg List.not_mem_nil)
    rw [registerAll_of (fun _ => Catalogue.mem_all_of_mem_permitted) hnodup hfree, hentry]
    rfl
  have hresolve := resolveAll_extended [] hnodup hfree (unlabelled_permitted flags)
  have hentries : (Catalogue.permitted flags).map (entryOf space.space?
        ([] ++ (unlabelled.filter fun metric => flags.permits metric.flag).map
          fun metric => qualify space.space? metric.name))
      = (Catalogue.permitted flags).map fun metric =>
          (qualify space.space? metric.name, builtFamily metric) := by
    refine List.map_congr_left fun metric hmetric => congrArg (Prod.mk _) ?_
    obtain ⟨hall, hpermits⟩ := List.mem_filter.mp hmetric
    refine if_congr ?_ rfl rfl
    rw [List.nil_append, List.mem_map]
    constructor
    · rintro ⟨other, hother, hname⟩
      obtain ⟨hother, hlabels⟩ := unlabelled_permitted flags other hother
      rw [← Catalogue.eq_of_qualify_eq (Catalogue.mem_all_of_mem_permitted hother) hall hname]
      exact hlabels
    · intro hlabels
      exact ⟨metric, List.mem_filter.mpr
        ⟨Catalogue.mem_unlabelled_iff.mpr ⟨hall, hlabels⟩, hpermits⟩, rfl⟩
  rw [hentries] at hresolve
  unfold build
  dsimp only
  rw [hregister]
  dsimp only
  rw [hresolve]
  exact ⟨_, rfl⟩

/-- **Building stops at the first name that is taken.** -/
theorem build_of_taken {m : Memory} {flags : Flags} {space : Value} {front rest : List Metric}
    {metric : Metric} (hpermitted : Catalogue.permitted flags = front ++ metric :: rest)
    (hfree : ∀ other ∈ front, qualify space.space? other.name ∉ m.names)
    (htaken : qualify space.space? metric.name ∈ m.names) (logging : Logging) (stamp : String)
    (logger : Logger) :
    build (.memory m) flags space logging stamp logger
      = (.error (.schema (qualify space.space? metric.name) .taken),
        .memory (m.extended (front.map fun other =>
          (qualify space.space? other.name, familyOf other)))) := by
  have hall (other : Metric) (hother : other ∈ front ++ metric :: rest) : other ∈ Catalogue.all :=
    Catalogue.mem_all_of_mem_permitted (hpermitted ▸ hother)
  have hnodup := nodup_permitted flags space.space?
  rw [hpermitted, List.map_append] at hnodup
  let m' := m.extended (front.map fun other => (qualify space.space? other.name, familyOf other))
  have hhas : m'.families.has (qualify space.space? metric.name) = true := by
    refine (Table.has_iff_mem_keys _ _).mpr ?_
    change _ ∈ m'.names
    rw [Memory.names_extended]
    exact List.mem_append_left _ htaken
  have hregister : Store.register (.memory m') (qualify space.space? metric.name)
      metric.description (shapeOf metric) metric.labels
      = (.error (.schema (qualify space.space? metric.name) .taken), .memory m') := by
    rw [register_eq_enter _ _ (hall metric (List.mem_append_right _ List.mem_cons_self))]
    unfold Store.enter Memory.register
    dsimp only
    rw [if_pos hhas]
    rfl
  have hregisterAll : registerAll space.space? (.memory m) (Catalogue.permitted flags)
      = (.error (.schema (qualify space.space? metric.name) .taken), .memory m') := by
    rw [hpermitted, registerAll_append
      (fun other hother => hall other (List.mem_append_left _ hother)) hnodup.of_append_left hfree]
    unfold registerAll
    rw [show Store.register (.memory ⟨⟨_⟩⟩) _ _ _ _ = _ from hregister]
  unfold build
  dsimp only
  rw [hregisterAll]

end Facade

/-! ## What definitions say -/

/-- **A family that a metric describes**, with the name it is entered under: the name
of the metric in the namespace, with its help text and its labels, that accumulates
what the kind of the metric says. A histogram does so over the bounds of the metric. -/
structure Metric.Describes (space : Option String) (metric : Metric)
    (entry : String × Family MemoryCell) : Prop where
  name : entry.1 = qualify space metric.name
  help : entry.2.help = metric.description
  labels : entry.2.labels = metric.labels
  counter : metric.kind = .counter → entry.2.shape = .counter
  gauge : metric.kind = .gauge → entry.2.shape = .gauge
  histogram : metric.kind = .histogram ∨ metric.kind = .timeHistogram →
    ∃ bounds, metric.bounds = some bounds ∧ entry.2.shape = .histogram bounds

namespace Catalogue

theorem exists_bounds : ∀ metric ∈ all,
    metric.kind = .histogram ∨ metric.kind = .timeHistogram →
      ∃ bounds, metric.bounds = some bounds := by
  have hsome : ∀ metric ∈ all, metric.kind = .histogram ∨ metric.kind = .timeHistogram →
      metric.bounds.isSome = true := by
    decide
  exact fun metric hmetric hkind => Option.isSome_iff_exists.mp (hsome metric hmetric hkind)

/-- **The metrics that are switched on** are those without a flag and those whose flag
is on. -/
theorem permitted_eq (flags : Flags) :
    permitted flags = all.filter fun metric => metric.flag.all flags.isOn := by
  refine List.filter_congr fun metric _ => ?_
  cases metric.flag with
  | none => rfl
  | some flag => rfl

end Catalogue

namespace Facade

/-- A family with the shape of a metric is one that the metric describes. -/
theorem describes_of {space : Option String} {metric : Metric} (hmetric : metric ∈ Catalogue.all)
    {f : Family MemoryCell} (hhelp : f.help = metric.description)
    (hshape : f.shape = shapeOf metric) (hlabels : f.labels = metric.labels) :
    metric.Describes space (qualify space metric.name, f) := by
  refine ⟨rfl, hhelp, hlabels, fun hkind => ?_, fun hkind => ?_, fun hkind => ?_⟩
  · show f.shape = .counter
    rw [hshape, shapeOf, hkind]
  · show f.shape = .gauge
    rw [hshape, shapeOf, hkind]
  · obtain ⟨bounds, hbounds⟩ := Catalogue.exists_bounds metric hmetric hkind
    refine ⟨bounds, hbounds, ?_⟩
    show f.shape = .histogram bounds
    rw [hshape, shapeOf, hbounds]
    rcases hkind with hkind | hkind <;> rw [hkind] <;> rfl

/-- What is left behind of a metric is described by it, and has no series. -/
theorem describes_familyOf {space : Option String} {metric : Metric}
    (hmetric : metric ∈ Catalogue.all) :
    metric.Describes space (qualify space metric.name, familyOf metric)
      ∧ (familyOf metric).series.keys = [] :=
  ⟨describes_of hmetric rfl rfl rfl, rfl⟩

/-- What is built of a metric is described by it. Its one series is there if it has no
labels. -/
theorem describes_builtFamily {space : Option String} {metric : Metric}
    (hmetric : metric ∈ Catalogue.all) :
    metric.Describes space (qualify space metric.name, builtFamily metric)
      ∧ (builtFamily metric).series.keys = if metric.labels = [] then [[]] else [] := by
  unfold builtFamily
  split
  · exact ⟨describes_of hmetric rfl rfl rfl, rfl⟩
  · exact describes_familyOf hmetric

/-- **What is built over a memory store** that has any families. The metrics of a
facade are those of the catalogue without a flag or with a flag that is on, in that
order, and a facade is built if and only if none of their names is taken.

* If it is built, it has registered these metrics. The store has what it had, and
  behind that a family for each of them as its definition says: its labels, what its
  kind accumulates, and its bounds. Every name comes once.
* If it is not, it is refused for the first of these metrics whose name is taken. The
  store has what it had, and behind that the families of the metrics before. -/
theorem build_over_families (m : Memory) (flags : Flags) (space : Value) (logging : Logging)
    (stamp : String) (logger : Logger) :
    let name := fun metric : Metric => qualify space.space? metric.name
    let metrics := Catalogue.all.filter fun metric => metric.flag.all flags.isOn
    let result := build (.memory m) flags space logging stamp logger
    (result.1.isOk = true ↔ ∀ metric ∈ metrics, name metric ∉ m.names)
      ∧ ((∃ records entries, result
            = (.ok (⟨flags, space.space?, metrics, logger, 0, 0⟩, records),
              .memory (m.extended entries))
          ∧ List.Forall₂ (fun metric entry => metric.Describes space.space? entry
              ∧ entry.2.series.keys = if metric.labels = [] then [[]] else []) metrics entries
          ∧ (m.extended entries).names = m.names ++ metrics.map name
          ∧ ∀ metric ∈ metrics, (m.extended entries).names.count (name metric) = 1)
        ∨ ∃ front metric rest entries, metrics = front ++ metric :: rest
          ∧ (∀ other ∈ front, name other ∉ m.names) ∧ name metric ∈ m.names
          ∧ result = (.error (.schema (name metric) .taken), .memory (m.extended entries))
          ∧ List.Forall₂ (fun other entry => other.Describes space.space? entry
              ∧ entry.2.series.keys = []) front entries) := by
  intro name metrics result
  have hmetrics : Catalogue.permitted flags = metrics := Catalogue.permitted_eq flags
  have hall (metric : Metric) (hmetric : metric ∈ metrics) : metric ∈ Catalogue.all :=
    List.mem_of_mem_filter hmetric
  cases hfind : metrics.find? fun metric => m.families.has (name metric) with
  | none =>
    have hfree : ∀ metric ∈ metrics, name metric ∉ m.names := fun metric hmetric hmem =>
      List.find?_eq_none.mp hfind metric hmetric ((Table.has_iff_mem_keys _ _).mpr hmem)
    obtain ⟨records, hbuild⟩ := build_of_free (hmetrics ▸ hfree) logging stamp logger
    rw [hmetrics] at hbuild
    let entries := metrics.map fun metric => (name metric, builtFamily metric)
    have hnames : (m.extended entries).names = m.names ++ metrics.map name := by
      rw [Memory.names_extended, List.map_map]
      rfl
    have hnodup : (metrics.map name).Nodup := hmetrics ▸ nodup_permitted flags space.space?
    refine ⟨⟨fun _ => hfree, fun _ => ?_⟩, .inl ⟨records, entries, hbuild, ?_, hnames, ?_⟩⟩
    · rw [show result = _ from hbuild]
      rfl
    · exact List.forall₂_map_right_iff.mpr (List.forall₂_same.mpr fun metric hmetric =>
        describes_builtFamily (hall metric hmetric))
    · intro metric hmetric
      rw [hnames, List.count_append, List.count_eq_zero.mpr (hfree metric hmetric),
        List.count_eq_one_of_mem hnodup (List.mem_map_of_mem hmetric)]
  | some metric =>
    obtain ⟨htaken, front, rest, hsplit, hfront⟩ := List.find?_eq_some_iff_append.mp hfind
    have htaken : name metric ∈ m.names := (Table.has_iff_mem_keys _ _).mp htaken
    have hfree : ∀ other ∈ front, name other ∉ m.names := by
      intro other hother hmem
      have hhas := hfront other hother
      rw [(Table.has_iff_mem_keys _ _).mpr hmem] at hhas
      cases hhas
    have hbuild := build_of_taken (hmetrics.trans hsplit) hfree htaken logging stamp logger
    refine ⟨⟨fun hok => ?_, fun hnone => ?_⟩,
      .inr ⟨front, metric, rest, _, hsplit, hfree, htaken, hbuild, ?_⟩⟩
    · rw [show result = _ from hbuild] at hok
      cases hok
    · exact absurd htaken (hnone metric (hsplit ▸ List.mem_append_right _ List.mem_cons_self))
    · exact List.forall₂_map_right_iff.mpr (List.forall₂_same.mpr fun other hother =>
        describes_familyOf (hall other (hsplit ▸ List.mem_append_left _ hother)))

end Facade

end QuicTelemetry
