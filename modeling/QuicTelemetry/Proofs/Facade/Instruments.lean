import QuicTelemetry.Proofs.Facade.Build
import QuicTelemetry.Proofs.Store.Distribution
import QuicTelemetry.Proofs.Store.Views

/-!
# The instruments of a facade

A facade over a pipeline asks it for an instrument for each of its metrics.
**It can be built exactly if the pipeline takes the names**, and what it is built
over then is known in full (`Metered.registered`).

`Metered.Carries` says of a store over a pipeline that it has the instruments of
some metrics, at their places and with their own bounds, and that the histograms
have divided what was observed of every series. Resolving keeps it
so, **an operation on a handle is one observation more if it succeeds**
(`Metered.Carries.call`), and **a collection shows the observations**
(`Metered.Carries.collect`).
-/

namespace QuicTelemetry

/-! ## Instruments of metrics -/

/-- **The instrument of a metric** in a namespace. If it is a histogram, it has
divided the observations by its own bounds. -/
structure PipelineInstrument.Serves (space : Option String) (metric : Metric)
    (seen : List String → List Amount) (i : PipelineInstrument) : Prop where
  accepted : Pipeline.isName (qualify space metric.name) = true
  name : i.name = Text.lower (qualify space metric.name)
  divides : metric.kind.isHistogram = true → i.Divides metric (metric.bounds.getD []) seen

/-- **A store over a pipeline that has the instruments of metrics**, in order, and
has seen some observations of every series. -/
structure Metered.Carries (metrics : List Metric) (space : Option String)
    (seen : SeriesId → List Amount) (s : Metered Pipeline) : Prop where
  known : ∀ metric ∈ metrics, metric ∈ Catalogue.all
  distinct : metrics.Nodup
  length : s.meter.instruments.length = metrics.length
  families : ∀ (k : Nat) (metric : Metric), metrics[k]? = some metric →
    ∃ f, s.families.get? (qualify space metric.name) = some f ∧ f.instrument.place = k
      ∧ f.family.shape = Facade.shapeOf metric ∧ f.family.labels = metric.labels
  instruments : ∀ (k : Nat) (metric : Metric), metrics[k]? = some metric →
    ∃ i, s.meter.instruments[k]? = some i
      ∧ i.Serves space metric fun values => seen ⟨qualify space metric.name, values⟩

namespace Metered.Carries

variable {metrics : List Metric} {space : Option String} {seen seen' : SeriesId → List Amount}
  {s : Metered Pipeline} {metric : Metric} {values : List String}

/-- Only the observations of histograms matter: a counter and a gauge divide nothing. -/
theorem congr (h : s.Carries metrics space seen)
    (hseen : ∀ metric ∈ metrics, metric.kind.isHistogram = true → ∀ values,
      seen' ⟨qualify space metric.name, values⟩ = seen ⟨qualify space metric.name, values⟩) :
    s.Carries metrics space seen' := by
  refine ⟨h.known, h.distinct, h.length, h.families, fun k metric hk => ?_⟩
  obtain ⟨i, hi, hserves⟩ := h.instruments k metric hk
  exact ⟨i, hi, hserves.accepted, hserves.name, fun hkind =>
    (hserves.divides hkind).congr (hseen metric (List.mem_of_getElem? hk) hkind)⟩

/-- A change of families that leaves instruments, shapes and labels. -/
theorem adjust (h : s.Carries metrics space seen) (name : String)
    (change : MeteredFamily → MeteredFamily)
    (hkeeps : ∀ f, (change f).instrument = f.instrument ∧ (change f).family.shape = f.family.shape
      ∧ (change f).family.labels = f.family.labels) :
    Metered.Carries metrics space seen { s with families := s.families.adjust name change } := by
  refine ⟨h.known, h.distinct, h.length, fun k metric hk => ?_, h.instruments⟩
  obtain ⟨f, hf, hplace, hshape, hlabels⟩ := h.families k metric hk
  obtain ⟨hinstrument, hshape', hlabels'⟩ := hkeeps f
  dsimp only
  rw [Table.get?_adjust, hf]
  split
  · exact ⟨change f, rfl, by rw [hinstrument, hplace], hshape'.trans hshape, hlabels'.trans hlabels⟩
  · exact ⟨f, rfl, hplace, hshape, hlabels⟩

/-- **Resolving a series** of a metric succeeds and measures nothing. -/
theorem resolve (h : s.Carries metrics space seen) (hmetric : metric ∈ metrics)
    (hlength : values.length = metric.labels.length) :
    ∃ s', (Store.pipeline s).resolve (qualify space metric.name) (.of metric.labels values)
        = (.ok ⟨qualify space metric.name, values⟩, .pipeline s')
      ∧ s'.Carries metrics space seen := by
  obtain ⟨k, hk⟩ := List.mem_iff_getElem?.mp hmetric
  obtain ⟨f, hf, -, -, hlabels⟩ := h.families k metric hk
  have hmem := h.known metric hmetric
  have hfree : ∀ name ∈ ["self"], name ∉ metric.labels := fun name hname =>
    Catalogue.labels_free metric hmem name (by simp [List.mem_singleton.mp hname])
  have hsame : sameNames metric.labels metric.labels = true := (sameNames_iff _ _).mpr fun _ => .rfl
  refine ⟨_, ?_, h.adjust (qualify space metric.name)
    (fun f => { f with family := f.family.ensure values 0 })
    fun f => ⟨rfl, Family.shape_ensure _ _ _, Family.labels_ensure _ _ _⟩⟩
  show Store.put .pipeline (s.resolve _ _) = _
  unfold Metered.resolve checkLabels
  rw [hf, Labelling.clashes_of hlength hfree]
  dsimp only
  rw [if_neg Bool.false_ne_true, hlabels, Labelling.names_of hlength, if_pos hsame,
    Labelling.values_of (Catalogue.nodup_labels metric hmem) hlength]
  rfl

/-- Metrics with one name are at one place. Families are found by name and instruments by
place, and this is where the two meet. -/
theorem eq_of_name_eq (h : s.Carries metrics space seen) {j k : Nat} {metric' : Metric}
    (hj : metrics[j]? = some metric') (hk : metrics[k]? = some metric)
    (hname : qualify space metric'.name = qualify space metric.name) : j = k := by
  obtain rfl := Catalogue.eq_of_qualify_eq (h.known _ (List.mem_of_getElem? hj))
    (h.known _ (List.mem_of_getElem? hk)) hname
  have hlt : j < metrics.length := (List.getElem?_eq_some_iff.mp hj).1
  exact (List.getElem?_inj hlt h.distinct).mp (hj.trans hk.symm)

/-- **One instrument is replaced** by another of its metric, which has seen
something else of one series. -/
theorem replace (h : s.Carries metrics space seen) {k : Nat} (hk : metrics[k]? = some metric)
    {i : PipelineInstrument} {now : List Amount}
    (hi : i.Serves space metric fun values' =>
      if values' = values then now else seen ⟨qualify space metric.name, values'⟩) :
    Metered.Carries metrics space
      (fun id => if id = ⟨qualify space metric.name, values⟩ then now else seen id)
      { s with meter := { s.meter with instruments := s.meter.instruments.set k i } } := by
  refine ⟨h.known, h.distinct, (List.length_set ..).trans h.length, h.families,
    fun j metric' hj => ?_⟩
  by_cases hjk : k = j
  · subst hjk
    obtain rfl := Option.some.inj (hk.symm.trans hj)
    have hlt : k < s.meter.instruments.length := by
      rw [h.length]
      exact (List.getElem?_eq_some_iff.mp hk).1
    refine ⟨i, List.getElem?_set_self hlt, hi.accepted, hi.name, fun hkind =>
      (hi.divides hkind).congr fun values' => ?_⟩
    simp
  · obtain ⟨i', hi', hserves⟩ := h.instruments j metric' hj
    refine ⟨i', by rw [List.getElem?_set_ne hjk, hi'], hserves.accepted, hserves.name,
      fun hkind => (hserves.divides hkind).congr fun values' => if_neg ?_⟩
    rw [SeriesId.mk.injEq]
    exact fun heq => hjk (h.eq_of_name_eq hj hk heq.1).symm

/-- **A measurement with the instrument of a metric** is one of a series. If it
fails, nothing is divided. -/
theorem forward (h : s.Carries metrics space seen) {k : Nat} (hk : metrics[k]? = some metric)
    (hlength : values.length = metric.labels.length) {instrument : Instrument}
    (hplace : instrument.place = k) (v : Value) :
    ((s.forward instrument v (metric.labels.zip values)).1 = .ok () →
        (s.forward instrument v (metric.labels.zip values)).2.Carries metrics space fun id =>
          if id = ⟨qualify space metric.name, values⟩ then
            seen ⟨qualify space metric.name, values⟩
              ++ ((Amount.ofValue? v).getD (.whole 0)).observations
          else seen id)
      ∧ ∀ fault, (s.forward instrument v (metric.labels.zip values)).1 = .error fault →
        (s.forward instrument v (metric.labels.zip values)).2.Carries metrics space seen := by
  obtain ⟨i, hi, hserves⟩ := h.instruments k metric hk
  have hlabels := Catalogue.nodup_labels metric (h.known metric (List.mem_of_getElem? hk))
  subst hplace
  have hforward : s.forward instrument v (metric.labels.zip values)
      = ((i.measured v (metric.labels.zip values)).1,
        { s with meter := { s.meter with
          instruments := s.meter.instruments.set instrument.place
            (i.measured v (metric.labels.zip values)).2 } }) := by
    show ((s.meter.measure instrument v (metric.labels.zip values)).1,
      { s with meter := (s.meter.measure instrument v (metric.labels.zip values)).2 }) = _
    rw [Pipeline.measure_eq hi]
  have hserves' {now : List Amount} (hdivides : metric.kind.isHistogram = true →
      (i.measured v (metric.labels.zip values)).2.Divides metric (metric.bounds.getD [])
        fun values' => if values' = values then now else seen ⟨qualify space metric.name, values'⟩) :
      (i.measured v (metric.labels.zip values)).2.Serves space metric fun values' =>
        if values' = values then now else seen ⟨qualify space metric.name, values'⟩ :=
    ⟨hserves.accepted, (i.measured_keeps v _).2.trans hserves.name, hdivides⟩
  rw [hforward]
  constructor
  · intro hok
    refine h.replace hk (hserves' fun hkind => ?_)
    rcases (hserves.divides hkind).measured hlabels hlength v with
      ⟨a, ha, -, hdivides⟩ | ⟨fault, hfault, -⟩
    · rw [ha]
      exact hdivides
    · rw [hfault] at hok
      cases hok
  · intro fault hfault
    have hdivides : metric.kind.isHistogram = true →
        (i.measured v (metric.labels.zip values)).2.Divides metric (metric.bounds.getD [])
          fun values' => if values' = values then seen ⟨qualify space metric.name, values⟩
            else seen ⟨qualify space metric.name, values'⟩ := by
      intro hkind
      rcases (hserves.divides hkind).measured hlabels hlength v with
        ⟨a, -, hok, -⟩ | ⟨_, -, hdivides⟩
      · rw [hok] at hfault
        cases hfault
      · refine hdivides.congr fun values' => ?_
        by_cases hvalues : values' = values <;> simp [hvalues]
    refine (h.replace hk (hserves' hdivides)).congr fun metric' _ _ values' => ?_
    split
    · next heq => rw [heq]
    · rfl

end Metered.Carries

/-- **What an operation on the handle of a series does**: it is refused, or it is
forwarded, for a gauge with the value it then has. -/
theorem Metered.call_cases {s : Metered Pipeline} {id : SeriesId} {f : MeteredFamily}
    (hf : s.families.get? id.family = some f) (verb : Verb) (args : List Value) :
    (∃ fault, s.call id verb args = (.error fault, s))
      ∨ ∃ argument amount s', verb.argument args = .ok argument
        ∧ s.call id verb args = s'.forward f.instrument amount (f.family.labelling id.values)
        ∧ ((s' = s ∧ amount = argument)
          ∨ (f.family.shape = .gauge ∧ ∃ x, s' = s.setValue id x)) := by
  obtain ⟨instrument, family⟩ := f
  unfold call
  rw [hf]
  dsimp only
  split
  · exact .inl ⟨_, rfl⟩
  · cases hargument : verb.argument args with
    | error fault => exact .inl ⟨fault, rfl⟩
    | ok argument =>
      have hvalue (value : Except Fault Binary64) (hshape : family.shape = .gauge) :
          (∃ fault, s.forwardValue id instrument (family.labelling id.values) value
              = (.error fault, s))
            ∨ ∃ argument' amount s', Except.ok argument = Except.ok (ε := Fault) argument'
              ∧ s.forwardValue id instrument (family.labelling id.values) value
                = s'.forward instrument amount (family.labelling id.values)
              ∧ ((s' = s ∧ amount = argument')
                ∨ (family.shape = .gauge ∧ ∃ x, s' = s.setValue id x)) := by
        cases value with
        | error fault => exact .inl ⟨fault, rfl⟩
        | ok x => exact .inr ⟨argument, _, s.setValue id x, rfl, rfl, .inr ⟨hshape, x, rfl⟩⟩
      dsimp only
      split
      · split
        · exact .inl ⟨_, rfl⟩
        · split
          · exact .inl ⟨_, rfl⟩
          · exact .inr ⟨argument, argument, s, rfl, rfl, .inl ⟨rfl, rfl⟩⟩
      · exact .inr ⟨argument, argument, s, rfl, rfl, .inl ⟨rfl, rfl⟩⟩
      all_goals exact hvalue _ ‹family.shape = .gauge›

namespace Metered.Carries

variable {metrics : List Metric} {space : Option String} {seen seen' : SeriesId → List Amount}
  {s : Metered Pipeline} {metric : Metric} {values : List String}

/-- **An operation on the handle of a series** that succeeds is one observation
more, if the series is of a histogram. One that fails is none. -/
theorem call (h : s.Carries metrics space seen) (hmetric : metric ∈ metrics)
    (hlength : values.length = metric.labels.length) (verb : Verb) (args : List Value) :
    ((s.call ⟨qualify space metric.name, values⟩ verb args).1 = .ok () →
        ∃ argument, verb.argument args = .ok argument
          ∧ (s.call ⟨qualify space metric.name, values⟩ verb args).2.Carries metrics space fun id =>
            if id = ⟨qualify space metric.name, values⟩ then
              seen ⟨qualify space metric.name, values⟩
                ++ ((Amount.ofValue? argument).getD (.whole 0)).observations
            else seen id)
      ∧ ∀ fault, (s.call ⟨qualify space metric.name, values⟩ verb args).1 = .error fault →
        (s.call ⟨qualify space metric.name, values⟩ verb args).2.Carries metrics space seen := by
  obtain ⟨k, hk⟩ := List.mem_iff_getElem?.mp hmetric
  obtain ⟨f, hf, hplace, hshape, hlabels⟩ := h.families k metric hk
  have hfamily : s.families.get? (SeriesId.mk (qualify space metric.name) values).family = some f := hf
  rcases Metered.call_cases hfamily verb args with
    ⟨fault, hcall⟩ | ⟨argument, amount, s', hargument, hcall, hcases⟩
  · rw [hcall]
    exact ⟨fun hok => (by cases hok), fun _ _ => h⟩
  · have hattributes : f.family.labelling values = metric.labels.zip values := by
      unfold Family.labelling
      rw [hlabels]
    rw [hcall, hattributes]
    rcases hcases with ⟨rfl, rfl⟩ | ⟨hgauge, x, rfl⟩
    · obtain ⟨hok, herror⟩ := h.forward hk hlength hplace amount
      exact ⟨fun hdone => ⟨amount, hargument, hok hdone⟩, herror⟩
    · -- what is measured is not what was given, but it is no observation
      have hset : (s.setValue ⟨qualify space metric.name, values⟩ x).Carries metrics space seen :=
        h.adjust _ _ fun _ => ⟨rfl, rfl, rfl⟩
      obtain ⟨hok, herror⟩ := hset.forward hk hlength hplace amount
      refine ⟨fun hdone => ⟨argument, hargument, (hok hdone).congr ?_⟩, herror⟩
      intro metric' hmetric' hkind values'
      have hne : (⟨qualify space metric'.name, values'⟩ : SeriesId)
          ≠ ⟨qualify space metric.name, values⟩ := by
        rw [ne_eq, SeriesId.mk.injEq]
        rintro ⟨hname, -⟩
        obtain rfl := Catalogue.eq_of_qualify_eq (h.known _ hmetric') (h.known _ hmetric) hname
        rw [hshape, Facade.shapeOf_of_isHistogram hkind] at hgauge
        cases hgauge
      rw [if_neg hne, if_neg hne]

/-- The metric that a point is of, by its name. -/
theorem exists_of_collected (h : s.Carries metrics space seen)
    {collected : List (List Point × PipelineInstrument)}
    (hcollected : s.meter.instruments.map Pipeline.collectInstrument = collected.map .ok)
    {part : List Point × PipelineInstrument} (hpart : part ∈ collected) :
    ∃ metric ∈ metrics, ∃ i : PipelineInstrument, Pipeline.collectInstrument i = .ok part
      ∧ i.Serves space metric fun values => seen ⟨qualify space metric.name, values⟩ := by
  obtain ⟨i, hi, hpart⟩ := exists_mem_of_map_eq hcollected hpart
  obtain ⟨k, hk⟩ := List.mem_iff_getElem?.mp hi
  have hlt : k < metrics.length := by
    rw [← h.length]
    exact (List.getElem?_eq_some_iff.mp hk).1
  obtain ⟨i', hi', hserves⟩ := h.instruments k metrics[k] (List.getElem?_eq_getElem hlt)
  obtain rfl := Option.some.inj (hk.symm.trans hi')
  exact ⟨metrics[k], List.getElem_mem hlt, i, hpart, hserves⟩

/-- **A collection shows what the histograms have seen**, unless a sum is beyond
the range. Afterwards they have seen the same. -/
theorem collect (h : s.Carries metrics space seen) :
    Metered.Carries metrics space seen { s with meter := s.meter.collect.2 }
      ∧ (s.meter.collect.1 = .error .overflow
        ∨ ∃ points, s.meter.collect.1 = .ok points
          ∧ ∀ metric ∈ metrics, metric.kind.isHistogram = true →
            metric.ShownBy (metric.bounds.getD [])
              (fun values => seen ⟨qualify space metric.name, values⟩)
              (points.filter fun point => point.name == Text.lower (qualify space metric.name))) := by
  rcases s.meter.collect_cases with ⟨collected, hcollected, hcollect⟩ | hoverflow
  · rw [hcollect]
    have hlength : collected.length = s.meter.instruments.length := by
      have hlengths := congrArg List.length hcollected
      rw [List.length_map, List.length_map] at hlengths
      exact hlengths.symm
    have hpart {k : Nat} {metric : Metric} (hk : metrics[k]? = some metric) :
        ∃ i points i', collected[k]? = some (points, i')
          ∧ Pipeline.collectInstrument i = .ok (points, i')
          ∧ i.Serves space metric fun values => seen ⟨qualify space metric.name, values⟩ := by
      obtain ⟨i, hi, hserves⟩ := h.instruments k metric hk
      obtain ⟨⟨points, i'⟩, hmade, hone⟩ := getElem?_of_map_eq hcollected hi
      exact ⟨i, points, i', hmade, hone, hserves⟩
    refine ⟨⟨h.known, h.distinct, ?_, h.families, fun k metric hk => ?_⟩,
      .inr ⟨_, rfl, fun metric hmetric hkind => ⟨fun point hpoint => ?_, fun values hsome => ?_⟩⟩⟩
    · exact (List.length_map _).trans (hlength.trans h.length)
    · obtain ⟨i, points, i', hmade, hone, hserves⟩ := hpart hk
      refine ⟨i', by simp [hmade], hserves.accepted,
        (Pipeline.collectInstrument_keeps hone).2.1.trans hserves.name, fun hkind => ?_⟩
      exact ((hserves.divides hkind).collect hone).1
    · obtain ⟨hmem, hname⟩ := List.mem_filter.mp hpoint
      obtain ⟨⟨points, i'⟩, hpart, hmem⟩ := List.mem_flatMap.mp (List.mem_mergeSort.mp hmem)
      obtain ⟨metric', hmetric', i, hone, hserves⟩ := h.exists_of_collected hcollected hpart
      have hsame : Text.lower (qualify space metric'.name)
          = Text.lower (qualify space metric.name) := by
        rw [← hserves.name, ← (Pipeline.collectInstrument_keeps hone).2.2 point hmem]
        exact beq_iff_eq.mp hname
      obtain rfl := Catalogue.eq_of_lower_eq (h.known _ hmetric') (h.known _ hmetric)
        (Pipeline.isSimple_of_isName hserves.accepted) hsame
      exact ((hserves.divides hkind).collect hone).2.counts point hmem
    · obtain ⟨k, hk⟩ := List.mem_iff_getElem?.mp hmetric
      obtain ⟨i, points, i', hmade, hone, hserves⟩ := hpart hk
      obtain ⟨point, hmem, hattributes⟩ :=
        ((hserves.divides hkind).collect hone).2.complete values hsome
      refine ⟨point, List.mem_filter.mpr ⟨List.mem_mergeSort.mpr (List.mem_flatMap.mpr
        ⟨_, List.mem_of_getElem? hmade, hmem⟩), ?_⟩, hattributes⟩
      rw [beq_iff_eq, (Pipeline.collectInstrument_keeps hone).2.2 point hmem, hserves.name]
  · rw [hoverflow]
    exact ⟨h, .inl rfl⟩

end Metered.Carries

/-! ## Building over a pipeline -/

/-- The identity that the instrument of a metric is asked for under. -/
def Metric.instrumentId (space : Option String) (metric : Metric) : InstrumentId :=
  ⟨Pipeline.identifyingName (qualify space metric.name), (Facade.shapeOf metric).instrument,
    metric.description⟩

/-- **The instrument that is made for a metric**, with the bounds that its name
gets. -/
def Metric.instrument (space : Option String) (metric : Metric) : PipelineInstrument :=
  { id := metric.instrumentId space
    name := Text.lower (qualify space metric.name)
    bounds := View.boundsFor (View.catalogue space) (Text.lower (qualify space metric.name)) }

/-- The family of a metric, whose instrument is at a place. -/
def Metric.meteredFamily (space : Option String) (metric : Metric) (place : Nat) : MeteredFamily :=
  ⟨⟨(Facade.shapeOf metric).instrument, qualify space metric.name, place⟩,
    { help := metric.description, shape := Facade.shapeOf metric, labels := metric.labels }⟩

/-- **The store over a pipeline in which metrics are registered**, and nothing
else was done. -/
def Metered.registered (space : Option String) (service : Value) (metrics : List Metric) :
    Metered Pipeline :=
  { meter :=
      { service := Pipeline.serviceName service
        views := View.catalogue space
        asked := metrics.map (Metric.instrumentId space)
        instruments := metrics.map (Metric.instrument space) }
    claimed := metrics.map fun metric => qualify space metric.name
    families := ⟨metrics.zipIdx.map fun entry =>
      (qualify space entry.1.name, entry.1.meteredFamily space entry.2)⟩ }

/-- **An instrument is made** for an identity that was not asked for, if the
pipeline takes its name. -/
theorem Pipeline.create_eq_of_new {p : Pipeline} {kind : InstrumentKind} {name help : String}
    (h : p.asked.contains ⟨identifyingName name, kind, help⟩ = false) :
    p.create kind name help
      = if isName name then
          (.ok ⟨kind, name, p.instruments.length⟩,
            { p with
              asked := p.asked ++ [⟨identifyingName name, kind, help⟩]
              instruments := p.instruments ++ [{
                id := ⟨identifyingName name, kind, help⟩, name := Text.lower name
                bounds := View.boundsFor p.views (Text.lower name) }] })
        else
          (.error .badInstrument,
            { p with asked := p.asked ++ [⟨identifyingName name, kind, help⟩] }) := by
  unfold create
  dsimp only
  rw [if_neg (Bool.eq_false_iff.mp h)]

/-- No two metrics have one help text. -/
theorem Catalogue.nodup_descriptions : (all.map Metric.description).Nodup := by decide

namespace Facade

variable (space : Option String) (service : Value) {metrics rest : List Metric} {metric : Metric}

/-- **Registering one metric more** succeeds exactly if the pipeline takes its
name. Nothing else can be wrong with it: its name is not claimed, and its instrument was
not asked for, since no two metrics have one name or one help text. -/
theorem register_registered (hmetrics : ∀ metric ∈ metrics, metric ∈ Catalogue.all)
    (hmetric : metric ∈ Catalogue.all) (hnew : metric ∉ metrics) :
    (Pipeline.isName (qualify space metric.name) = true →
        (Store.pipeline (.registered space service metrics)).register (qualify space metric.name)
            metric.description (shapeOf metric) metric.labels
          = (.ok (), .pipeline (.registered space service (metrics ++ [metric]))))
      ∧ (Pipeline.isName (qualify space metric.name) = false →
        ((Store.pipeline (.registered space service metrics)).register (qualify space metric.name)
            metric.description (shapeOf metric) metric.labels).1
          = .error .badInstrument) := by
  have hclaimed : ¬ (Metered.registered space service metrics).claimed.contains
      (qualify space metric.name) = true := by
    rw [List.contains_iff_mem]
    intro hmem
    obtain ⟨other, hother, hname⟩ := List.mem_map.mp hmem
    exact hnew (Catalogue.eq_of_qualify_eq (hmetrics other hother) hmetric hname ▸ hother)
  have hasked : (metrics.map (Metric.instrumentId space)).contains (metric.instrumentId space)
      = false := by
    rw [Bool.eq_false_iff, ne_eq, List.contains_iff_mem]
    intro hmem
    obtain ⟨other, hother, hid⟩ := List.mem_map.mp hmem
    have hhelp : other.description = metric.description := congrArg InstrumentId.help hid
    exact hnew (List.inj_on_of_nodup_map Catalogue.nodup_descriptions (hmetrics other hother)
      hmetric hhelp ▸ hother)
  have hcreate := Pipeline.create_eq_of_new
    (p := (Metered.registered space service metrics).meter) hasked
  have hmeter : Meter.create (Metered.registered space service metrics).meter
      (shapeOf metric).instrument (qualify space metric.name) metric.description = _ := hcreate
  rw [register_eq_enter _ _ hmetric]
  unfold Store.enter Metered.register
  dsimp only
  rw [if_neg hclaimed, hmeter]
  constructor
  · intro hname
    rw [if_pos hname]
    simp only [Metered.registered, Metric.instrument, Metric.instrumentId, Metric.meteredFamily,
      Store.put, Table.push, List.map_append, List.map_singleton, List.length_map,
      List.zipIdx_append, List.zipIdx_singleton, Nat.zero_add]
  · intro hname
    rw [if_neg (Bool.eq_false_iff.mp hname)]
    rfl

/-- **Registering metrics** succeeds exactly if the pipeline takes all their
names. The induction is on those that are left; a metric that is registered goes over to
those that were registered before. -/
theorem registerAll_registered (hall : ∀ metric ∈ metrics ++ rest, metric ∈ Catalogue.all)
    (hdistinct : (metrics ++ rest).Nodup) :
    ((∀ metric ∈ rest, Pipeline.isName (qualify space metric.name) = true) →
        registerAll space (.pipeline (.registered space service metrics)) rest
          = (.ok (), .pipeline (.registered space service (metrics ++ rest))))
      ∧ ((∃ metric ∈ rest, Pipeline.isName (qualify space metric.name) = false) →
        (registerAll space (.pipeline (.registered space service metrics)) rest).1
          = .error .badInstrument) := by
  induction rest generalizing metrics with
  | nil =>
    refine ⟨fun _ => by rw [List.append_nil]; rfl, fun hsome => ?_⟩
    obtain ⟨_, hmem, -⟩ := hsome
    exact absurd hmem List.not_mem_nil
  | cons metric rest ih =>
    have hnew : metric ∉ metrics := fun hmem =>
      List.disjoint_of_nodup_append hdistinct hmem List.mem_cons_self
    obtain ⟨hyes, hno⟩ := register_registered space service
      (fun metric hmem => hall metric (List.mem_append_left _ hmem))
      (hall metric (List.mem_append_right _ List.mem_cons_self)) hnew
    rw [List.append_cons] at hall hdistinct ⊢
    obtain ⟨ihyes, ihno⟩ := ih hall hdistinct
    unfold registerAll
    cases hname : Pipeline.isName (qualify space metric.name) with
    | true =>
      rw [hyes hname]
      refine ⟨fun hnames => ihyes fun metric hmem => hnames metric (List.mem_cons_of_mem _ hmem),
        fun hsome => ihno ?_⟩
      obtain ⟨other, hother, hbad⟩ := hsome
      rcases List.mem_cons.mp hother with rfl | hother
      · exact absurd (hname.symm.trans hbad) Bool.noConfusion
      · exact ⟨other, hother, hbad⟩
    | false =>
      have hfault := hno hname
      revert hfault
      rcases (Store.pipeline (.registered space service metrics)).register
        (qualify space metric.name) metric.description (shapeOf metric) metric.labels with
        ⟨outcome, store⟩
      rintro rfl
      refine ⟨fun hnames => ?_, fun _ => rfl⟩
      rw [hnames metric List.mem_cons_self] at hname
      cases hname

/-- **What was registered** has seen nothing. That its histograms divide by their own bounds
is what the views are for (`View.boundsFor_catalogue`). -/
theorem carries_registered (hall : ∀ metric ∈ metrics, metric ∈ Catalogue.all)
    (hdistinct : metrics.Nodup)
    (hnames : ∀ metric ∈ metrics, Pipeline.isName (qualify space metric.name) = true) :
    (Metered.registered space service metrics).Carries metrics space fun _ => [] := by
  have hkeys : (Metered.registered space service metrics).families.keys
      = metrics.map fun metric => qualify space metric.name := by
    unfold Metered.registered Table.keys
    dsimp only
    rw [List.map_map]
    conv_rhs => rw [← List.zipIdx_map_fst 0 metrics, List.map_map]
    rfl
  have hnodup : (Metered.registered space service metrics).families.keys.Nodup := by
    rw [hkeys]
    exact hdistinct.map_on fun metric hmetric other hother hname =>
      Catalogue.eq_of_qualify_eq (hall metric hmetric) (hall other hother) hname
  refine ⟨hall, hdistinct, List.length_map _, fun k metric hk => ?_, fun k metric hk => ?_⟩
  · exact ⟨metric.meteredFamily space k, Table.get?_of_mem_entries hnodup
      (List.mem_map.mpr ⟨(metric, k), List.mk_mem_zipIdx_iff_getElem?.mpr hk, rfl⟩), rfl, rfl, rfl⟩
  · have hmetric := List.mem_of_getElem? hk
    have hname := hnames metric hmetric
    refine ⟨metric.instrument space, ?_, hname, rfl, fun hkind => ⟨?_, ?_,
      fun _ _ hmem => absurd hmem List.not_mem_nil, fun _ hsome => absurd rfl hsome⟩⟩
    · show (metrics.map (Metric.instrument space))[k]? = _
      rw [List.getElem?_map, hk, Option.map_some]
    · show (shapeOf metric).instrument = _
      rw [shapeOf_of_isHistogram hkind]
      rfl
    · exact View.boundsFor_catalogue (hall metric hmetric) hkind hname

variable {space} in
/-- Resolving series without labels measures nothing. -/
theorem carries_of_resolveAll {s : Metered Pipeline} {seen : SeriesId → List Amount}
    {unlabelled : List Metric}
    (hunlabelled : ∀ metric ∈ unlabelled, metric ∈ metrics ∧ metric.labels = [])
    (h : s.Carries metrics space seen) :
    ∃ s', resolveAll space (.pipeline s) unlabelled = (.ok (), .pipeline s')
      ∧ s'.Carries metrics space seen := by
  induction unlabelled generalizing s with
  | nil => exact ⟨s, rfl, h⟩
  | cons metric rest ih =>
    obtain ⟨hmetric, hlabels⟩ := hunlabelled metric List.mem_cons_self
    have hlength : ([] : List String).length = metric.labels.length := by rw [hlabels]
    obtain ⟨s', hresolve, h'⟩ := h.resolve hmetric hlength
    rw [hlabels, show Labelling.of [] [] = [] from rfl] at hresolve
    unfold resolveAll
    rw [hresolve]
    exact ih (fun metric hmem => hunlabelled metric (List.mem_cons_of_mem _ hmem)) h'

/-- The store that a facade over its pipeline is built over. -/
def exported (flags : Flags) : Store :=
  (resolveAll space (.pipeline (.registered space service (Catalogue.permitted flags)))
    (unlabelled.filter fun metric => flags.permits metric.flag)).2

/-- **A facade can be built over its pipeline exactly if the pipeline takes the
names** of the metrics that are switched on. -/
theorem build_pipeline (flags : Flags) (space service : Value) (logging : Logging) (stamp : String)
    (logger : Logger) :
    ((∀ metric ∈ Catalogue.permitted flags,
          Pipeline.isName (qualify space.space? metric.name) = true) →
        ∃ records s, build (.ofPipeline space.space? service) flags space logging stamp logger
            = (.ok (⟨flags, space.space?, Catalogue.permitted flags, logger, 0, 0⟩, records),
              exported space.space? service flags)
          ∧ exported space.space? service flags = .pipeline s
          ∧ s.Carries (Catalogue.permitted flags) space.space? fun _ => [])
      ∧ ((∃ metric ∈ Catalogue.permitted flags,
          Pipeline.isName (qualify space.space? metric.name) = false) →
        (build (.ofPipeline space.space? service) flags space logging stamp logger).1
          = .error .badInstrument) := by
  have hdistinct : ([] ++ Catalogue.permitted flags).Nodup := (nodup_permitted flags none).of_map _
  obtain ⟨hyes, hno⟩ := registerAll_registered space.space? service
    (fun _ => Catalogue.mem_all_of_mem_permitted) hdistinct
  have hnew : Store.ofPipeline space.space? service
      = .pipeline (.registered space.space? service []) := rfl
  unfold build
  rw [hnew]
  constructor
  · intro hnames
    obtain ⟨s, hresolve, hcarries⟩ := carries_of_resolveAll (unlabelled_permitted flags)
      (carries_registered space.space? service (fun _ => Catalogue.mem_all_of_mem_permitted)
        hdistinct hnames)
    have hexported : exported space.space? service flags = .pipeline s := by
      unfold exported
      rw [hresolve]
    dsimp only
    rw [hyes hnames, List.nil_append]
    dsimp only
    rw [hresolve, hexported]
    exact ⟨_, s, rfl, rfl, hcarries⟩
  · intro hsome
    have hfault := hno hsome
    revert hfault
    dsimp only
    rcases registerAll space.space? (.pipeline (.registered space.space? service []))
      (Catalogue.permitted flags) with ⟨outcome, store⟩
    rintro rfl
    rfl

end Facade

end QuicTelemetry
