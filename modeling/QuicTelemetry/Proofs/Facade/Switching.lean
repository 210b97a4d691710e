import Mathlib.Data.List.Forall2
import QuicTelemetry.Proofs.Facade.Aggregation
import QuicTelemetry.Proofs.Lists
import QuicTelemetry.Proofs.Store.Chronicle

/-!
# Switching metrics off

Flags say which of the optional metrics a facade registers. Two facades with
different flags are used in the same way here, with any arguments and any
operations on the handles they give out, and go on after what fails.

Nothing that is done to a handle or by a call reaches further than the family of
its own metric (`Memory.Alters`), and what is done to the family of a metric that
both facades have is the same. So the stores stay alike (`Memory.Alike`), handle
by handle and step by step, and **switching a metric off changes no other metric
and no outcome of a call** (`FacadeSession.readings_of_switched`).
-/

namespace QuicTelemetry

/-! ## Stores alike -/

/-- **A memory store of the metrics that are switched on.** -/
structure Memory.Serves (flags : Flags) (space : Option String) (m : Memory) : Prop where
  names : m.names = (Catalogue.permitted flags).map fun metric => qualify space metric.name
  families : ∀ metric ∈ Catalogue.permitted flags,
    ∃ f, m.families.get? (qualify space metric.name) = some f
      ∧ f.shape = Facade.shapeOf metric ∧ f.labels = metric.labels

/-- A change of one family leaves a store of metrics. -/
theorem Memory.Serves.alter {flags : Flags} {space : Option String} {m m' : Memory}
    (h : m.Serves flags space) {name : String} {change : Family MemoryCell → Family MemoryCell}
    (halters : m.Alters name change m') : m'.Serves flags space := by
  refine ⟨halters.names.trans h.names, fun metric hmetric => ?_⟩
  obtain ⟨f, hf, hshape, hlabels⟩ := h.families metric hmetric
  rw [halters.get?, hf]
  obtain ⟨hshape', hlabels'⟩ := halters.keeps f
  split
  · exact ⟨change f, rfl, hshape'.trans hshape, hlabels'.trans hlabels⟩
  · exact ⟨f, rfl, hshape, hlabels⟩

/-- **Stores of two settings of the flags** in which the metrics of both are the
same. -/
structure Memory.Alike (f g : Flags) (space : Option String) (m n : Memory) : Prop where
  left : m.Serves f space
  right : n.Serves g space
  common : ∀ metric ∈ Catalogue.all, f.permits metric.flag = true → g.permits metric.flag = true →
    m.families.get? (qualify space metric.name) = n.families.get? (qualify space metric.name)

namespace Memory

variable {f g : Flags} {space : Option String} {m n m' n' : Memory} {metric : Metric}

/-- **Stores stay alike** if the family of one metric changes, and changes in the
same way where both have it. -/
theorem Alike.alter (h : m.Alike f g space n) (hmetric : metric ∈ Catalogue.all)
    {change change' : Family MemoryCell → Family MemoryCell}
    (hm : m.Alters (qualify space metric.name) change m')
    (hn : n.Alters (qualify space metric.name) change' n')
    (hsame : f.permits metric.flag = true → g.permits metric.flag = true → change = change') :
    m'.Alike f g space n' := by
  refine ⟨h.left.alter hm, h.right.alter hn, fun other hother hf hg => ?_⟩
  rw [hm.get?, hn.get?, h.common other hother hf hg]
  split
  · next heq =>
    obtain rfl := Catalogue.eq_of_qualify_eq hother hmetric heq
    rw [hsame hf hg]
  · rfl

/-- The series of a call that was asked for, if it has one. -/
def resolved? : Option SeriesId → Family MemoryCell → Family MemoryCell
  | some id => ensured id.values
  | none => fun f => f

/-- **Resolving a series** of a metric that is switched on succeeds, and reaches
no further than its family. -/
theorem Serves.resolve {flags : Flags} (h : m.Serves flags space)
    (hmetric : metric ∈ Catalogue.permitted flags) {values : List String}
    (hlength : values.length = metric.labels.length) :
    ∃ m', (Store.memory m).resolve (qualify space metric.name) (.of metric.labels values)
        = (.ok ⟨qualify space metric.name, values⟩, .memory m')
      ∧ m.Alters (qualify space metric.name) (ensured values) m' := by
  obtain ⟨f, hf, -, hlabels⟩ := h.families metric hmetric
  have hmem := Catalogue.mem_all_of_mem_permitted hmetric
  have hfree : ∀ name ∈ ["self"], name ∉ metric.labels := fun name hname =>
    Catalogue.labels_free metric hmem name (by simp [List.mem_singleton.mp hname])
  have hseries : seriesOf (qualify space metric.name) f (.of metric.labels values)
      = .ok ⟨qualify space metric.name, values⟩ := by
    rw [← hlabels] at hlength ⊢
    exact seriesOf_of _ (hlabels ▸ Catalogue.nodup_labels metric hmem) hlength
  refine ⟨⟨m.families.adjust (qualify space metric.name) (ensured values)⟩, ?_,
    .adjust (fun f => ⟨Family.shape_ensure _ _ _, Family.labels_ensure _ _ _⟩) fun _ _ => rfl⟩
  show Store.put .memory (m.resolve _ _) = _
  unfold Memory.resolve
  rw [hf, Labelling.clashes_of hlength hfree]
  simp only [Bool.false_eq_true, if_false, hseries]
  rfl

/-- **Stores alike are read alike**, where both have the metric. -/
theorem Alike.readings (h : m.Alike f g space n) (hmetric : metric ∈ Catalogue.all)
    (hf : f.permits metric.flag = true) (hg : g.permits metric.flag = true) :
    m.series (qualify space metric.name) = n.series (qualify space metric.name)
      ∧ ∀ given, m.value (qualify space metric.name) given = n.value (qualify space metric.name) given
        ∧ m.histogram (qualify space metric.name) given
          = n.histogram (qualify space metric.name) given := by
  have hfamily := h.common metric hmetric hf hg
  refine ⟨?_, fun given => ⟨?_, ?_⟩⟩
  · unfold series family
    rw [hfamily]
  · rw [value_eq, value_eq, hfamily]
  · rw [histogram_eq, histogram_eq, hfamily]

/-- **A metric that is off is not registered.** -/
theorem Serves.not_mem_names {flags : Flags} (h : m.Serves flags space)
    (hmetric : metric ∈ Catalogue.all) (hoff : flags.permits metric.flag = false) :
    qualify space metric.name ∉ m.names := by
  rw [h.names]
  intro hmem
  obtain ⟨other, hother, hname⟩ := List.mem_map.mp hmem
  obtain ⟨hother, hon⟩ := List.mem_filter.mp hother
  rw [Catalogue.eq_of_qualify_eq hother hmetric hname, hoff] at hon
  exact absurd hon Bool.false_ne_true

end Memory

/-! ## Two facades -/

namespace Facade

variable {f g : Flags} {space : Option String}

theorem get?_families {flags : Flags} {metric : Metric} (h : metric ∈ Catalogue.permitted flags) :
    (families flags space).get? (qualify space metric.name) = some (familyOf metric) := by
  refine Table.get?_of_mem_entries ?_ (List.mem_map.mpr ⟨metric, h, rfl⟩)
  rw [keys_families]
  exact nodup_permitted flags space

theorem serves_families (flags : Flags) (space : Option String) :
    (Memory.mk (families flags space)).Serves flags space :=
  ⟨keys_families flags space, fun metric hmetric =>
    ⟨familyOf metric, get?_families hmetric, rfl, rfl⟩⟩

/-- Registered families have no series yet. -/
theorem series_families {flags : Flags} {space : Option String} {name : String}
    {f : Family MemoryCell} (hf : (families flags space).get? name = some f) :
    f.series = .empty := by
  obtain ⟨metric, -, heq⟩ := List.mem_map.mp (Table.mem_entries_of_get? hf)
  obtain ⟨-, rfl⟩ := Prod.mk.inj heq
  rfl

/-- **Registered families are alike**: they have no series yet. -/
theorem alike_families (f g : Flags) (space : Option String) :
    (Memory.mk (families f space)).Alike f g space ⟨families g space⟩ := by
  refine ⟨serves_families f space, serves_families g space, fun metric hmetric hf hg => ?_⟩
  rw [get?_families (List.mem_filter.mpr ⟨hmetric, hf⟩),
    get?_families (List.mem_filter.mpr ⟨hmetric, hg⟩)]

/-- The change that what is switched off leaves out. -/
def switched (flags : Flags) (metric : Metric) (change : Family MemoryCell → Family MemoryCell) :
    Family MemoryCell → Family MemoryCell :=
  if flags.permits metric.flag then change else fun f => f

theorem switched_eq {metric : Metric} (hf : f.permits metric.flag = true)
    (hg : g.permits metric.flag = true) (change : Family MemoryCell → Family MemoryCell) :
    switched f metric change = switched g metric change := by
  unfold switched
  rw [hf, hg]

/-- The series of one metric without labels is resolved if it is switched on. -/
theorem resolveAll_cons {flags : Flags} {m : Memory} (h : m.Serves flags space) {metric : Metric}
    (hmetric : metric ∈ Catalogue.all) (hlabels : metric.labels = []) :
    ∃ m', (∀ rest, resolveAll space (.memory m)
          ((metric :: rest).filter fun metric => flags.permits metric.flag)
        = resolveAll space (.memory m') (rest.filter fun metric => flags.permits metric.flag))
      ∧ m.Alters (qualify space metric.name) (switched flags metric (Memory.ensured [])) m' := by
  unfold switched
  cases hon : flags.permits metric.flag with
  | false =>
    refine ⟨m, fun rest => ?_, .id m _⟩
    rw [List.filter_cons_of_neg (by simp [hon])]
  | true =>
    have hlength : ([] : List String).length = metric.labels.length := by rw [hlabels]
    obtain ⟨m', hresolve, halters⟩ := h.resolve (List.mem_filter.mpr ⟨hmetric, hon⟩) hlength
    refine ⟨m', fun rest => ?_, halters⟩
    rw [List.filter_cons_of_pos (by simp [hon])]
    have hnil : (Store.memory m).resolve (qualify space metric.name) []
        = (.ok ⟨qualify space metric.name, []⟩, .memory m') := by
      rw [hlabels] at hresolve
      exact hresolve
    rw [resolveAll, hnil]

/-- **Resolving the series without labels** keeps stores alike. -/
theorem alike_resolveAll {metrics : List Metric}
    (hmetrics : ∀ metric ∈ metrics, metric ∈ Catalogue.all ∧ metric.labels = []) {m n : Memory}
    (h : m.Alike f g space n) :
    ∃ m' n', resolveAll space (.memory m) (metrics.filter fun metric => f.permits metric.flag)
        = (.ok (), .memory m')
      ∧ resolveAll space (.memory n) (metrics.filter fun metric => g.permits metric.flag)
        = (.ok (), .memory n')
      ∧ m'.Alike f g space n' := by
  induction metrics generalizing m n with
  | nil => exact ⟨m, n, rfl, rfl, h⟩
  | cons metric rest ih =>
    obtain ⟨hmetric, hlabels⟩ := hmetrics metric List.mem_cons_self
    obtain ⟨m', hm, hm'⟩ := resolveAll_cons h.left hmetric hlabels
    obtain ⟨n', hn, hn'⟩ := resolveAll_cons h.right hmetric hlabels
    rw [hm, hn]
    exact ih (fun metric hmem => hmetrics metric (List.mem_cons_of_mem _ hmem))
      (h.alter hmetric hm' hn' fun hf hg => switched_eq hf hg _)

/-- **A facade is built** over a store of which anything holds that holds of the
registered families and stays so where a series without labels is asked for. -/
theorem build_keeps (flags : Flags) (space : Value) (logging : Logging) (stamp : String)
    (logger : Logger) {P : Memory → Prop} (hfamilies : P ⟨families flags space.space?⟩)
    (hensured : ∀ metric ∈ Catalogue.permitted flags, metric.labels = [] → ∀ m m',
      m.Alters (qualify space.space? metric.name) (Memory.ensured []) m' → P m → P m') :
    ∃ records m, build .ofMemory flags space logging stamp logger
        = (.ok (⟨flags, space.space?, Catalogue.permitted flags, logger, 0, 0⟩, records), .memory m)
      ∧ m.Serves flags space.space? ∧ P m := by
  have hresolved : ∀ metrics : List Metric,
      (∀ metric ∈ metrics, metric ∈ Catalogue.permitted flags ∧ metric.labels = []) →
      ∀ m, m.Serves flags space.space? → P m →
        ∃ m', resolveAll space.space? (.memory m) metrics = (.ok (), .memory m')
          ∧ m'.Serves flags space.space? ∧ P m' := by
    intro metrics hmetrics
    induction metrics with
    | nil => exact fun m hserves hm => ⟨m, rfl, hserves, hm⟩
    | cons metric rest ih =>
      intro m hserves hm
      obtain ⟨hmetric, hlabels⟩ := hmetrics metric List.mem_cons_self
      have hlength : ([] : List String).length = metric.labels.length := by rw [hlabels]
      obtain ⟨m', hresolve, halters⟩ := hserves.resolve hmetric hlength
      rw [hlabels] at hresolve
      unfold resolveAll
      rw [show ([] : Labelling) = Labelling.of [] [] from rfl, hresolve]
      exact ih (fun metric hmem => hmetrics metric (List.mem_cons_of_mem _ hmem)) m'
        (hserves.alter halters) (hensured metric hmetric hlabels m m' halters hm)
  obtain ⟨m, hresolve, hserves, hm⟩ := hresolved _ (unlabelled_permitted flags) _
    (serves_families flags space.space?) hfamilies
  exact ⟨_, m, build_of_resolveAll logging stamp logger hresolve, hserves, hm⟩

/-- **Facades of two settings are built over stores that are alike.** -/
theorem alike_build (f g : Flags) (space : Value) (logging : Logging) (stamp : String)
    (logger : Logger) :
    ∃ records records' m n,
      build .ofMemory f space logging stamp logger
          = (.ok (⟨f, space.space?, Catalogue.permitted f, logger, 0, 0⟩, records), .memory m)
        ∧ build .ofMemory g space logging stamp logger
          = (.ok (⟨g, space.space?, Catalogue.permitted g, logger, 0, 0⟩, records'), .memory n)
        ∧ m.Alike f g space.space? n := by
  have hunlabelled : ∀ metric ∈ unlabelled, metric ∈ Catalogue.all ∧ metric.labels = [] :=
    fun _ hmem => Catalogue.mem_unlabelled_iff.mp hmem
  obtain ⟨m, n, hm, hn, halike⟩ :=
    alike_resolveAll hunlabelled (alike_families f g space.space?)
  exact ⟨_, _, m, n, build_of_resolveAll logging stamp logger hm,
    build_of_resolveAll logging stamp logger hn, halike⟩

/-- **A call that is answered** reaches no further than the family of its metric,
and not that far if it belongs to no series. -/
theorem report_alters {facade : Facade} {m : Memory} (h : m.Serves facade.flags facade.space)
    (logging : Logging) (stamp : String) {call : Call} {event : Event}
    (hevent : Event.ofCall call.method call.args = .ok event)
    (hmisfit : misfit? event.sources = none) :
    ∃ records facade' m',
      facade.report (.memory m) logging stamp event
          = (.ok ⟨call.handle facade.flags facade.space, records⟩, facade', .memory m')
        ∧ facade'.flags = facade.flags ∧ facade'.space = facade.space
        ∧ m.Alters (qualify facade.space event.metric.name)
          (Memory.resolved? (call.series? facade.flags facade.space)) m' := by
  obtain ⟨records, facade', store', hreport, hflags, hspace, m', rfl, halters⟩ :=
    report_answers logging stamp (.memory m) hevent hmisfit
      (P := fun store' => ∃ m', store' = .memory m'
        ∧ m.Alters (qualify facade.space event.metric.name)
          (Memory.resolved? (call.series? facade.flags facade.space)) m')
      (fun hnone => ⟨m, rfl, by rw [hnone]; exact .id m _⟩)
      fun values hmetric hlength hseries => by
        obtain ⟨m', hresolve, halters⟩ := h.resolve hmetric hlength
        exact ⟨.memory m', hresolve, m', rfl, by rw [hseries]; exact halters⟩
  exact ⟨records, facade', m', hreport, hflags, hspace, halters⟩

end Facade

/-! ## Handles of two facades -/

/-- A handle of a metric: one that does nothing, or that of a series. -/
def Handle.Belongs (flags : Flags) (space : Option String) (metric : Metric) : Handle → Prop
  | .idle _ => True
  | .live id => flags.permits metric.flag = true ∧ id.family = qualify space metric.name

/-- **Handles that two facades gave out for one call.** They are of one metric,
and the same if both have the metric. -/
def Handle.Alike (f g : Flags) (space : Option String) (a b : Handle) : Prop :=
  ∃ metric ∈ Catalogue.all, a.Belongs f space metric ∧ b.Belongs g space metric
    ∧ (f.permits metric.flag = true → g.permits metric.flag = true → a = b)

/-- What an operation on a handle does to the family of its metric. -/
def Handle.change (verb : Verb) (args : List Value) : Handle → Family MemoryCell → Family MemoryCell
  | .idle _ => fun f => f
  | .live id => Family.operated id.values verb args

/-- **An operation on a handle** reaches no further than the family of its
metric. -/
theorem Handle.alters_call {flags : Flags} {space : Option String} {metric : Metric}
    {handle : Handle} (h : handle.Belongs flags space metric) (m : Memory) (verb : Verb)
    (args : List Value) :
    ∃ m', (handle.call (.memory m) verb args).2 = .memory m'
      ∧ m.Alters (qualify space metric.name) (handle.change verb args) m' := by
  cases handle with
  | idle kind =>
    refine ⟨m, ?_, .id m _⟩
    unfold call
    dsimp only
    split <;> rfl
  | live id =>
    obtain ⟨-, hname⟩ := h
    refine ⟨(m.call id verb args).2, rfl, ?_⟩
    rw [← hname]
    exact m.alters_call id verb args

/-- **A call has one series** with all settings that switch its metric on. -/
theorem Call.series?_eq_of_permits {call : Call} {event : Event}
    (hevent : Event.ofCall call.method call.args = .ok event) {f g : Flags}
    {space : Option String} (hf : f.permits event.metric.flag = true)
    (hg : g.permits event.metric.flag = true) : call.series? f space = call.series? g space := by
  have hseries (flags : Flags) : call.series? flags space = _ := series?_of_event hevent flags space
  rw [hseries f, hseries g, hf, hg]

/-- **The handles of a call** are alike. -/
theorem Call.alike_handle {call : Call} {event : Event}
    (hevent : Event.ofCall call.method call.args = .ok event) (f g : Flags)
    (space : Option String) : (call.handle f space).Alike f g space (call.handle g space) := by
  have hbelongs (flags : Flags) : (call.handle flags space).Belongs flags space event.metric := by
    have hseries : call.series? flags space = _ := series?_of_event hevent flags space
    unfold Call.handle
    rw [hseries]
    cases hon : flags.permits event.metric.flag with
    | false => exact trivial
    | true =>
      cases LabelSource.texts? event.sources with
      | none => exact trivial
      | some values => exact ⟨hon, rfl⟩
  refine ⟨event.metric, event.metric_mem_all, hbelongs f, hbelongs g, fun hf hg => ?_⟩
  unfold Call.handle
  rw [series?_eq_of_permits hevent hf hg]

/-! ## Sessions alike -/

/-- What a caller sees of a call: that there is a handle, or the kind of the
fault. -/
def FacadeAction.answer? : FacadeAction × Except Fault (Option Handle) → Option
    (Except FaultKind Unit)
  | (.call .., outcome) => some ((outcome.map fun _ => ()).mapError Fault.kind)
  | (.operate .., _) => none

/-- **Sessions of two settings of the flags** that were used in the same way. -/
structure FacadeSession.Alike (f g : Flags) (space : Option String)
    (d e : FacadeSession) : Prop where
  left : d.facade.flags = f ∧ d.facade.space = space
  right : e.facade.flags = g ∧ e.facade.space = space
  stores : ∃ m n, d.store = .memory m ∧ e.store = .memory n ∧ m.Alike f g space n
  handles : List.Forall₂ (fun a b => a.1 = b.1 ∧ a.2.Alike f g space b.2) d.handles e.handles

/-- What belongs to a caller is paired as everything is. -/
theorem forall₂_own {α β : Type} {R : α → β → Prop} {l : List (Nat × α)} {l' : List (Nat × β)}
    (h : List.Forall₂ (fun a b => a.1 = b.1 ∧ R a.2 b.2) l l') (caller : Nat) :
    List.Forall₂ R (own caller l) (own caller l') := by
  induction h with
  | nil => exact .nil
  | cons hab _ ih =>
    rw [own_cons, own_cons, hab.1]
    split
    · exact .cons hab.2 ih
    · exact ih

namespace FacadeSession.Alike

variable {f g : Flags} {space : Option String} {d e : FacadeSession}

/-- **A call has one outcome** at sessions that are alike, and they stay alike. -/
theorem call (h : d.Alike f g space e) (logging : Logging) (caller : Nat) (made : Call)
    (stamp : String) :
    FacadeAction.answer? (.call made stamp, (e.attempt logging caller (.call made stamp)).1)
        = FacadeAction.answer? (.call made stamp, (d.attempt logging caller (.call made stamp)).1)
      ∧ (d.attempt logging caller (.call made stamp)).2.Alike f g space
          (e.attempt logging caller (.call made stamp)).2 := by
  have hsame := h
  obtain ⟨⟨rfl, rfl⟩, ⟨rfl, hspace⟩, ⟨m, n, hm, hn, halike⟩, hhandles⟩ := h
  unfold attempt
  dsimp only
  cases hevent : Event.ofCall made.method made.args with
  | error fault => exact ⟨rfl, hsame⟩
  | ok event =>
    dsimp only
    cases hmisfit : Facade.misfit? event.sources with
    | some fault =>
      rw [Facade.report_of_misfit _ logging stamp hmisfit,
        Facade.report_of_misfit _ logging stamp hmisfit]
      exact ⟨rfl, hsame⟩
    | none =>
      have hright := halike.right
      rw [← hspace] at hright
      obtain ⟨_, facade, m', hd, hflags, hspace', hm'⟩ :=
        Facade.report_alters halike.left logging stamp hevent hmisfit
      obtain ⟨_, facade', n', he, hflags', hspace'', hn'⟩ :=
        Facade.report_alters hright logging stamp hevent hmisfit
      rw [hspace] at hspace'' hn'
      rw [hm, hn, hd, he]
      refine ⟨rfl, ⟨hflags, hspace'⟩, ⟨hflags', hspace''⟩, ⟨m', n', rfl, rfl, ?_⟩, ?_⟩
      · exact halike.alter event.metric_mem_all hm' hn' fun hf hg => by
          rw [made.series?_eq_of_permits hevent hf hg]
      · rw [hspace]
        exact List.rel_append hhandles (.cons ⟨rfl, made.alike_handle hevent _ _ _⟩ .nil)

/-- **An operation on a handle** keeps sessions alike, even if it succeeds at one of
them only. -/
theorem operate (h : d.Alike f g space e) (logging : Logging) (caller : Nat) (handle : Nat)
    (verb : Verb) (args : List Value) :
    (d.attempt logging caller (.operate handle verb args)).2.Alike f g space
      (e.attempt logging caller (.operate handle verb args)).2 := by
  have hsame := h
  obtain ⟨hleft, hright, ⟨m, n, hm, hn, halike⟩, hhandles⟩ := h
  unfold attempt
  dsimp only
  rcases forall₂_getElem? (forall₂_own hhandles caller) handle with
    ⟨hd, he⟩ | ⟨a, b, hd, he, metric, hmetric, ha, hb, hab⟩
  · rw [hd, he]
    exact hsame
  · rw [hd, he]
    obtain ⟨m', hm', halters⟩ := Handle.alters_call ha m verb args
    obtain ⟨n', hn', halters'⟩ := Handle.alters_call hb n verb args
    refine ⟨hleft, hright, ⟨m', n', ?_, ?_, ?_⟩, hhandles⟩
    · rw [← hm', hm]
    · rw [← hn', hn]
    · exact halike.alter hmetric halters halters' fun hf hg => by rw [hab hf hg]

/-- **Sessions stay alike** whatever is done, and calls have the same outcomes. -/
theorem attemptAll (h : d.Alike f g space e) (logging : Logging) (history : History) :
    (e.attemptAll logging history).1.filterMap FacadeAction.answer?
        = (d.attemptAll logging history).1.filterMap FacadeAction.answer?
      ∧ (d.attemptAll logging history).2.Alike f g space (e.attemptAll logging history).2 := by
  induction history generalizing d e with
  | nil => exact ⟨rfl, h⟩
  | cons entry history ih =>
    obtain ⟨caller, action⟩ := entry
    obtain ⟨hanswer, hnext⟩ :
        FacadeAction.answer? (action, (e.attempt logging caller action).1)
            = FacadeAction.answer? (action, (d.attempt logging caller action).1)
          ∧ (d.attempt logging caller action).2.Alike f g space
              (e.attempt logging caller action).2 := by
      cases action with
      | call made stamp => exact h.call logging caller made stamp
      | operate handle verb args => exact ⟨rfl, h.operate logging caller handle verb args⟩
    obtain ⟨hrest, hend⟩ := ih hnext
    refine ⟨?_, hend⟩
    simp only [FacadeSession.attemptAll, List.filterMap_cons, hanswer, hrest]

end FacadeSession.Alike

/-- **Switching a metric off changes no other metric and no outcome of a call.**
A facade is built over a new memory store with each of two settings of the flags,
and callers do the same with both, which may fail. Then the calls have the same
outcomes: a handle, or a fault of the same kind. A metric that both settings
switch on has the same series, values and snapshots, and one that a setting
switches off is not registered with it. -/
theorem FacadeSession.readings_of_switched (f g : Flags) (space : Value) (logging : Logging)
    (stamp : String) (logger : Logger) (history : History) :
    ∃ d e m n, start f space logging stamp logger = .ok d
      ∧ start g space logging stamp logger = .ok e
      ∧ (e.attemptAll logging history).1.filterMap FacadeAction.answer?
        = (d.attemptAll logging history).1.filterMap FacadeAction.answer?
      ∧ (d.attemptAll logging history).2.store = .memory m
      ∧ (e.attemptAll logging history).2.store = .memory n
      ∧ ∀ metric ∈ Catalogue.all,
        let name := qualify space.space? metric.name
        (f.permits metric.flag = true → g.permits metric.flag = true →
          m.series name = n.series name
            ∧ ∀ given, m.value name given = n.value name given
              ∧ m.histogram name given = n.histogram name given)
        ∧ (f.permits metric.flag = false → name ∉ m.names)
        ∧ (g.permits metric.flag = false → name ∉ n.names) := by
  obtain ⟨records, records', m₀, n₀, hf, hg, halike⟩ :=
    Facade.alike_build f g space logging stamp logger
  let d : FacadeSession := ⟨⟨f, space.space?, Catalogue.permitted f, logger, 0, 0⟩, .memory m₀, []⟩
  let e : FacadeSession := ⟨⟨g, space.space?, Catalogue.permitted g, logger, 0, 0⟩, .memory n₀, []⟩
  have hd : start f space logging stamp logger = .ok d := by
    unfold start
    rw [hf]
  have he : start g space logging stamp logger = .ok e := by
    unfold start
    rw [hg]
  have hstart : d.Alike f g space.space? e :=
    ⟨⟨rfl, rfl⟩, ⟨rfl, rfl⟩, ⟨m₀, n₀, rfl, rfl, halike⟩, .nil⟩
  obtain ⟨hanswers, -, -, ⟨m, n, hm, hn, hend⟩, -⟩ := hstart.attemptAll logging history
  exact ⟨d, e, m, n, hd, he, hanswers, hm, hn, fun metric hmetric =>
    ⟨hend.readings hmetric, hend.left.not_mem_names hmetric, hend.right.not_mem_names hmetric⟩⟩

end QuicTelemetry
