import QuicTelemetry.Proofs.Facade.Assembling
import QuicTelemetry.Proofs.Lists
import QuicTelemetry.Proofs.Store.Sharing

/-!
# Facades that share a pipeline

The metrics of the facades over a pipeline have their families for good
(`SharedStore.IsStocked.takeAll`), so where they are among the instruments is a matter of
their identities. Two facades **merge in a metric** if their names for it have one
identifying name (`Facade.MergesIn`), although the names differ and both were
registered: the names are claimed as they are written, and instruments are told
apart in lower case. They then feed one instrument (`SharedStore.IsStocked.place_eq`).

Otherwise an operation of the one facade measures with instruments of other names
only (`Metered.named_call`), and what is collected under a name comes from the
instruments with that name (`Pipeline.filter_collected`); so nothing that is
exported for the other facade changes (`SharedStore.exports_apart`).
-/

namespace QuicTelemetry

/-! ## What nobody changes -/

namespace Store

/-- **A property of stores that nobody changes**, whatever is done with them. -/
def IsKept (P : Store → Prop) : Prop := ∀ s e, P s → P (s.perform e).2

end Store

namespace Facade

variable {P : Store → Prop} {flags : Flags} {s : Store}

/-- A facade keeps what nobody changes. -/
theorem keeps_of_isKept (h : Store.IsKept P) (flags : Flags) (space : Option String) :
    Keeps flags space P :=
  ⟨fun _ _ s given hs => h s (.resolve _ given) hs,
    fun _ _ s id verb args _ hs => h s (.operate id verb args) hs⟩

/-- Registering metrics keeps what nobody changes. -/
theorem registerAll_of_isKept (h : Store.IsKept P) (space : Option String) {metrics : List Metric}
    (hall : ∀ metric ∈ metrics, metric ∈ Catalogue.all) (hs : P s) :
    P (registerAll space s metrics).2 := by
  induction metrics generalizing s with
  | nil => exact hs
  | cons metric rest ih =>
    have hstep := h s (.register (metric.registration space)) hs
    rw [Metric.perform_registration space (hall metric List.mem_cons_self)] at hstep
    unfold registerAll
    split
    · next heq =>
      rw [heq] at hstep
      exact hstep
    · next heq =>
      rw [heq] at hstep
      exact ih (fun other hother => hall other (List.mem_cons_of_mem _ hother)) hstep

/-- **Building a facade** keeps what nobody changes, whether it succeeds or not. -/
theorem build_of_isKept (h : Store.IsKept P) (flags : Flags) (space : Value) (hs : P s)
    (logging : Logging) (stamp : String) (logger : Logger) :
    P (build s flags space logging stamp logger).2 := by
  have hmetrics : ∀ metric ∈ Catalogue.permitted flags, metric ∈ Catalogue.all :=
    fun _ => Catalogue.mem_all_of_mem_permitted
  have hregistered := registerAll_of_isKept h space.space? hmetrics hs
  unfold build
  dsimp only
  split
  · next heq =>
    rw [heq] at hregistered
    exact hregistered
  · next middle heq =>
    rw [heq] at hregistered
    have hresolved := (keeps_of_isKept h flags space.space?).resolveAll
      (fun metric hmetric => (unlabelled_permitted flags metric hmetric).1) hregistered
    split
    all_goals
      next heq =>
      rw [heq] at hresolved
      exact hresolved

end Facade

/-! ## Metrics over a pipeline -/

/-- **A store over a pipeline that has families of metrics**, each at its
instrument. -/
def Store.Stocks (listings : List Store.Listing) (s : Store) : Prop :=
  ∃ m, s = .pipeline m ∧ m.IsFiled ∧ ∀ l ∈ listings,
    ∃ f, m.families.get? (qualify l.1 l.2.name) = some f
      ∧ f.identity (qualify l.1 l.2.name) = l.2.instrumentId l.1

namespace Store

variable {listings : List Listing}

/-- Nobody takes metrics away. -/
theorem isKept_stocks (listings : List Listing) : IsKept (Stocks listings) := by
  rintro s e ⟨m, rfl, hfiled, hlistings⟩
  obtain ⟨m', hstore, hserves⟩ := m.serves_perform e
  refine ⟨m', hstore, hfiled.serves hserves, fun l hl => ?_⟩
  obtain ⟨f, hf, hidentity⟩ := hlistings l hl
  obtain ⟨f', hf', hbinding⟩ := hserves.keeps hf
  exact ⟨f', hf', (MeteredFamily.identity_eq hbinding _).trans hidentity⟩

/-- **A metric that was registered** has its family. -/
theorem Stocks.register {s s' : Store} (h : s.Stocks listings) {space : Option String}
    {metric : Metric} (hmetric : metric ∈ Catalogue.all)
    (hregister : s.perform (.register (metric.registration space)) = (.ok (), s')) :
    s'.Stocks (listings ++ [(space, metric)]) := by
  obtain ⟨m', rfl, hfiled', hlistings'⟩ : s'.Stocks listings := by
    have hkept := isKept_stocks listings s (.register (metric.registration space)) h
    rwa [hregister] at hkept
  obtain ⟨m, rfl, hfiled, -⟩ := h
  refine ⟨m', rfl, hfiled', List.forall_mem_append.mpr ⟨hlistings', List.forall_mem_singleton.mpr ?_⟩⟩
  rcases Metered.perform_register (m := m) (Metric.shape_registration space hmetric) with
    ⟨-, hperform⟩ | ⟨hfree, result, hcreates, hperform⟩
  · rw [hperform] at hregister
    cases hregister
  · have hnone : m.families.get? (qualify space metric.name) = none :=
      Option.eq_none_iff_forall_ne_some.mpr fun f hf => hfree (hfiled.claimed _ f hf)
    rw [hperform] at hregister
    obtain ⟨hok, hstore⟩ := Prod.mk.inj hregister
    obtain rfl := Store.pipeline.inj hstore
    obtain ⟨fault | instrument, p⟩ := result
    · cases hok
    · let family : Family Binary64 :=
        { help := metric.description, shape := Facade.shapeOf metric, labels := metric.labels }
      refine ⟨⟨instrument, family⟩, ?_, rfl⟩
      show (m.families.push (qualify space metric.name) _).get? (qualify space metric.name) = _
      rw [Table.get?_push, hnone, Option.none_or, if_pos rfl]
      rfl

/-- **Metrics that were all registered** have their families. -/
theorem Stocks.registerAll {s s' : Store} (h : s.Stocks listings) {space : Option String}
    {metrics : List Metric} (hall : ∀ metric ∈ metrics, metric ∈ Catalogue.all)
    (hregister : Facade.registerAll space s metrics = (.ok (), s')) :
    s'.Stocks (listings ++ metrics.map fun metric => (space, metric)) := by
  induction metrics generalizing s listings with
  | nil =>
    cases hregister
    simpa using h
  | cons metric rest ih =>
    have hmetric := hall metric List.mem_cons_self
    unfold Facade.registerAll at hregister
    split at hregister
    · cases hregister
    · next middle heq =>
      rw [← Metric.perform_registration space hmetric] at heq
      have hrest := ih (h.register hmetric heq)
        (fun other hother => hall other (List.mem_cons_of_mem _ hother)) hregister
      simpa using hrest

end Store

/-! ## Shared stores over a pipeline -/

namespace SharedStore

/-- **A shared store over a pipeline**: the metrics of its facades have their families,
and the handles are of the facades. -/
structure IsStocked (shared : SharedStore) : Prop where
  /-- The families of the metrics. -/
  stocks : shared.store.Stocks (listings shared.branches)
  /-- The handles of the facades. -/
  handles : shared.HasOwnHandles

variable {shared : SharedStore}

/-- **Any step** of a shared store over a pipeline leaves it one. -/
theorem IsStocked.take (h : shared.IsStocked) (logging : Logging) (stamp : String)
    (logger : Logger) (step : Step) : (shared.take logging stamp logger step).IsStocked := by
  have hkept := Store.isKept_stocks (listings shared.branches)
  cases step with
  | collect => exact ⟨hkept _ .collect h.stocks, h.handles⟩
  | action i caller action =>
    obtain ⟨hstaffed, hbranches, hstocks⟩ := h.handles.attempt
      (fun branch _ => Facade.keeps_of_isKept hkept branch.1 branch.2) h.stocks logging i caller
      action
    exact ⟨hbranches ▸ hstocks, hstaffed⟩
  | build flags space =>
    have hbuilt := Facade.build_of_isKept hkept flags (.text space) h.stocks logging stamp logger
    unfold SharedStore.take
    dsimp only
    split
    · next facade records store heq =>
      obtain ⟨rfl, hspace, middle, hregister, rfl⟩ := Facade.registerAll_of_build heq
      have hstocks := h.stocks.registerAll (fun _ => Catalogue.mem_all_of_mem_permitted) hregister
      have hresolved := (Facade.keeps_of_isKept (Store.isKept_stocks _) facade.flags
        (Value.text space).space?).resolveAll
          (fun metric hmetric => (Facade.unlabelled_permitted _ metric hmetric).1) hstocks
      refine ⟨?_, h.handles.built _ _⟩
      unfold branches listings at hresolved ⊢
      rw [List.map_append, List.flatMap_append, List.map_singleton, List.flatMap_singleton, hspace]
      exact hresolved
    · next heq =>
      rw [heq] at hbuilt
      exact ⟨hbuilt, h.handles⟩

theorem IsStocked.takeAll (h : shared.IsStocked) (logging : Logging) (stamp : String)
    (logger : Logger) (steps : List Step) :
    (shared.takeAll logging stamp logger steps).IsStocked := by
  induction steps generalizing shared with
  | nil => exact h
  | cons step steps ih => exact ih (h.take logging stamp logger step)

end SharedStore

/-! ## What is collected under a name -/

namespace Pipeline

/-- The instruments with a name. -/
def named (p : Pipeline) (name : String) : List PipelineInstrument :=
  p.instruments.filter fun i => i.name == name

/-- **What is collected under a name** is collected from the instruments with that
name. -/
theorem filter_collected (name : String) {l : List PipelineInstrument}
    {collected : List (List Point × PipelineInstrument)}
    (h : l.map collectInstrument = collected.map .ok) :
    ∃ part : List (List Point × PipelineInstrument),
      (l.filter fun i => i.name == name).map collectInstrument = part.map .ok
        ∧ (collected.flatMap Prod.fst).filter (fun point => point.name == name)
          = part.flatMap Prod.fst := by
  induction l generalizing collected with
  | nil =>
    cases collected with
    | nil => exact ⟨[], rfl, rfl⟩
    | cons made collected => cases h
  | cons i l ih =>
    cases collected with
    | nil => cases h
    | cons made collected =>
      obtain ⟨hfirst, hrest⟩ := List.cons.inj h
      obtain ⟨part, hpart, hpoints⟩ := ih hrest
      have hnames := (collectInstrument_keeps hfirst).2.2
      rw [List.flatMap_cons, List.filter_append, hpoints, List.filter_cons]
      by_cases hname : i.name = name
      · refine ⟨made :: part, ?_, ?_⟩
        · rw [if_pos (beq_iff_eq.mpr hname), List.map_cons, List.map_cons, hfirst, hpart]
        · rw [List.flatMap_cons, List.filter_eq_self.mpr fun point hpoint =>
            beq_iff_eq.mpr ((hnames point hpoint).trans hname)]
      · refine ⟨part, ?_, ?_⟩
        · rw [if_neg fun heq => hname (beq_iff_eq.mp heq), hpart]
        · rw [List.filter_eq_nil_iff.mpr fun point hpoint heq =>
            hname ((hnames point hpoint).symm.trans (beq_iff_eq.mp heq)), List.nil_append]

/-- **Pipelines with the same instruments of a name** show the same points under it,
if both can be collected. -/
theorem perm_points {p p' : Pipeline} {name : String} (h : p'.named name = p.named name)
    {points points' : List Point} (hpoints : p.collect.1 = .ok points)
    (hpoints' : p'.collect.1 = .ok points') :
    (points'.filter fun point => point.name == name).Perm
      (points.filter fun point => point.name == name) := by
  have hone {p : Pipeline} {points : List Point} (hpoints : p.collect.1 = .ok points) :
      ∃ part : List (List Point × PipelineInstrument),
        (p.named name).map collectInstrument = part.map .ok
          ∧ (points.filter fun point => point.name == name).Perm (part.flatMap Prod.fst) := by
    rcases p.collect_cases with ⟨collected, hcollected, hcollect⟩ | hoverflow
    · rw [hcollect] at hpoints
      cases hpoints
      obtain ⟨part, hpart, heq⟩ := filter_collected name hcollected
      exact ⟨part, hpart, heq ▸ (List.mergeSort_perm _ _).filter _⟩
    · rw [hoverflow] at hpoints
      cases hpoints
  obtain ⟨part, hpart, hperm⟩ := hone hpoints
  obtain ⟨part', hpart', hperm'⟩ := hone hpoints'
  obtain rfl : part' = part := by
    rw [h, hpart] at hpart'
    exact List.map_injective_iff.mpr (fun _ _ => Except.ok.inj) hpart'.symm
  exact hperm'.trans hperm.symm

end Pipeline

namespace Store

/-- The place of the instrument that a family feeds. -/
def place? (name : String) : Store → Option Nat
  | .pipeline m => (m.families.get? name).map fun f => f.instrument.place
  | _ => none

/-- **What is exported under a name is the same** in two stores: the instruments
with that name, and therefore the points that are collected of them, if the stores
can be collected. -/
def SameExports (name : String) : Store → Store → Prop
  | .pipeline m, .pipeline m' => m'.meter.named name = m.meter.named name
    ∧ ∀ points points', m.meter.collect.1 = .ok points → m'.meter.collect.1 = .ok points' →
      (points'.filter fun point => point.name == name).Perm
        (points.filter fun point => point.name == name)
  | _, _ => False

end Store

namespace Metered

variable {m : Metered Pipeline}

/-- To resolve a series measures nothing. -/
theorem meter_resolve (m : Metered Pipeline) (name : String) (given : Labelling) :
    (m.resolve name given).2.meter = m.meter := by
  unfold resolve
  split
  · rfl
  · split
    · rfl
    · split <;> rfl

/-- **An operation** measures with the instrument of its family, and with no other. -/
theorem named_call (h : m.IsFiled) {id : SeriesId} {name : String}
    (hname : Pipeline.identifyingName id.family ≠ name) (verb : Verb) (args : List Value) :
    (m.call id verb args).2.meter.named name = m.meter.named name := by
  cases hf : m.families.get? id.family with
  | none =>
    unfold call
    rw [hf]
  | some f =>
    rcases call_cases hf verb args with
      ⟨fault, hcall⟩ | ⟨argument, amount, m', -, hcall, hcases⟩
    · rw [hcall]
    · have hmeter : m'.meter = m.meter := by
        rcases hcases with ⟨rfl, -⟩ | ⟨-, x, rfl⟩ <;> rfl
      have hplaced := h.placed id.family f hf
      unfold Pipeline.ids at hplaced
      rw [List.getElem?_map] at hplaced
      obtain ⟨i, hi, hid⟩ := Option.map_eq_some_iff.mp hplaced
      have hother : (i.name == name) = false := by
        rw [h.orderly.named i (List.mem_of_getElem? hi), hid]
        exact beq_eq_false_iff_ne.mpr hname
      rw [hcall]
      show ((m'.meter.measure f.instrument amount _).2).named name = _
      rw [hmeter, Pipeline.measure_eq hi]
      refine filter_set_of_not hi hother ?_
      rw [(i.measured_keeps amount _).2]
      exact hother

end Metered

/-! ## Facades that merge -/

/-- **Two facades merge in a metric** if the first one has it switched on and its
name for it is, without blanks around it and in lower case, that of the other. -/
def Facade.MergesIn (facade other : Facade) (metric : Metric) : Prop :=
  facade.flags.permits metric.flag = true
    ∧ Pipeline.identifyingName (qualify facade.space metric.name)
      = Pipeline.identifyingName (qualify other.space metric.name)

/-- **What is exported of a metric** stays as it is, where a facade does not merge
with it. -/
theorem Facade.keeps_sameExports {facade other : Facade} {metric : Metric}
    (hmetric : metric ∈ Catalogue.all) (hapart : ¬ facade.MergesIn other metric)
    (instruments : List PipelineInstrument) :
    Keeps facade.flags facade.space fun s =>
      ∃ m, s = .pipeline m ∧ m.IsFiled
        ∧ m.meter.named (Pipeline.identifyingName (qualify other.space metric.name))
          = instruments := by
  constructor
  · rintro metric' _ s given ⟨m, rfl, hfiled, hnamed⟩
    obtain ⟨m', hstore, hfiled'⟩ :=
      hfiled.perform (.resolve (qualify facade.space metric'.name) given)
    obtain rfl := Store.pipeline.inj hstore
    refine ⟨_, hstore, hfiled', ?_⟩
    rw [Metered.meter_resolve]
    exact hnamed
  · rintro metric' hmetric' s id verb args hfamily ⟨m, rfl, hfiled, hnamed⟩
    have hname : Pipeline.identifyingName id.family
        ≠ Pipeline.identifyingName (qualify other.space metric.name) := by
      rw [hfamily]
      intro heq
      obtain ⟨hall, hpermits⟩ := List.mem_filter.mp hmetric'
      obtain rfl := Pipeline.eq_of_identifyingName_eq hall hmetric heq
      exact hapart ⟨hpermits, heq⟩
    obtain ⟨m', hstore, hfiled'⟩ := hfiled.perform (.operate id verb args)
    obtain rfl := Store.pipeline.inj hstore
    exact ⟨_, hstore, hfiled', (Metered.named_call hfiled hname verb args).trans hnamed⟩

namespace SharedStore

variable {shared : SharedStore} {i j : Nat} {session other : FacadeSession} {metric : Metric}

/-- The facade in a session has its metrics among those of the store. -/
theorem mem_listings_branches (hsession : shared.session? i = some session)
    (hpermits : session.facade.flags.permits metric.flag = true)
    (hmetric : metric ∈ Catalogue.all) :
    (session.facade.space, metric) ∈ listings shared.branches :=
  List.mem_flatMap.mpr ⟨(session.facade.flags, session.facade.space),
    List.mem_map.mpr ⟨_, List.mem_of_getElem? (session?_eq_some_iff.mp hsession).1, rfl⟩,
    List.mem_map.mpr ⟨metric, List.mem_filter.mpr ⟨hmetric, hpermits⟩, rfl⟩⟩

/-- **Facades that merge in a metric** feed one instrument. -/
theorem IsStocked.place_eq (h : shared.IsStocked) (hsession : shared.session? i = some session)
    (hother : shared.session? j = some other)
    (hmetric : metric ∈ Catalogue.permitted other.facade.flags)
    (hmerges : session.facade.MergesIn other.facade metric) :
    ∃ place, shared.store.place? (qualify session.facade.space metric.name) = some place
      ∧ shared.store.place? (qualify other.facade.space metric.name) = some place := by
  obtain ⟨hall, hpermits⟩ := List.mem_filter.mp hmetric
  obtain ⟨m, hstore, hfiled, hlistings⟩ := h.stocks
  obtain ⟨f, hf, hidentity⟩ := hlistings _ (mem_listings_branches hsession hmerges.1 hall)
  obtain ⟨f', hf', hidentity'⟩ := hlistings _ (mem_listings_branches hother hpermits hall)
  dsimp only at hf hf' hidentity hidentity'
  have hsame : f.instrument.place = f'.instrument.place := by
    refine (hfiled.place_eq_iff hf hf').mpr ?_
    rw [hidentity, hidentity']
    unfold Metric.instrumentId
    rw [hmerges.2]
  rw [hstore]
  unfold Store.place?
  dsimp only
  rw [hf, hf']
  exact ⟨f'.instrument.place, congrArg some hsame, rfl⟩

/-- **Facades that do not merge in a metric**: whatever is done with one, the same
is exported for the other. -/
theorem IsStocked.sameExports (h : shared.IsStocked) (hsession : shared.session? i = some session)
    (hmetric : metric ∈ Catalogue.all) (hapart : ¬ session.facade.MergesIn other.facade metric)
    (logging : Logging) (history : History) :
    shared.store.SameExports
      (Pipeline.identifyingName (qualify other.facade.space metric.name))
      (shared.work logging i history).store := by
  obtain ⟨m, hstore, hfiled, -⟩ := h.stocks
  obtain ⟨m', hstore', -, hnamed⟩ := work_keeps hsession (h.handles.works hsession)
    (Facade.keeps_sameExports hmetric hapart _) ⟨m, hstore, hfiled, rfl⟩ logging history
  rw [hstore, hstore']
  exact ⟨hnamed, fun _ _ => Pipeline.perm_points hnamed⟩

/-- **Families are told apart as far as their identities are**, and facades with
them. Of a store over a pipeline in order, whatever was done with it,

* two families feed one instrument exactly if they are of one kind, have one help
  text, and their names are the same without blanks around them and in lower case.

So, whatever happens in a shared store over the pipeline,

* two facades feed one instrument for a metric that both have switched on if their
  names for it are the same in this sense;
* if they are not, or the metric is switched off in one session, whatever is done in
  that session leaves what is exported of the metric for the other facade as it is;
* for namespaces that settings accept this is a matter of their lower case alone. -/
theorem exports_apart {meter : Pipeline} (hmeter : meter.IsOrderly) :
    (∀ es : List StoreAction, ∃ m, ((Store.pipeline { meter }).performAll es).2 = .pipeline m
      ∧ ∀ name name' f f', m.families.get? name = some f → m.families.get? name' = some f' →
        (f.instrument.place = f'.instrument.place ↔ f.identity name = f'.identity name'))
      ∧ (∀ logging stamp logger steps,
        let shared := takeAll logging stamp logger { store := .pipeline { meter } } steps
        ∀ i j session other, shared.session? i = some session → shared.session? j = some other →
          ∀ metric ∈ Catalogue.permitted other.facade.flags,
            (session.facade.MergesIn other.facade metric →
              ∃ place, shared.store.place? (qualify session.facade.space metric.name) = some place
                ∧ shared.store.place? (qualify other.facade.space metric.name) = some place)
            ∧ (¬ session.facade.MergesIn other.facade metric → ∀ history,
              shared.store.SameExports
                (Pipeline.identifyingName (qualify other.facade.space metric.name))
                (shared.work logging i history).store))
      ∧ ∀ space space', Settings.spaceFault? (.text space) = none →
        Settings.spaceFault? (.text space') = none → ∀ metric ∈ Catalogue.all,
          (Pipeline.identifyingName (qualify (Value.text space).space? metric.name)
              = Pipeline.identifyingName (qualify (Value.text space').space? metric.name)
            ↔ Text.lower space = Text.lower space') := by
  refine ⟨fun es => ?_, fun logging stamp logger steps => ?_,
    fun _ _ hspace hspace' metric hmetric =>
    Pipeline.identifyingName_eq_iff hspace hspace' hmetric⟩
  · obtain ⟨m, hstore, hfiled⟩ := (Metered.isFiled_of_new hmeter).performAll es
    exact ⟨m, hstore, fun _ _ _ _ hf hf' => hfiled.place_eq_iff hf hf'⟩
  · intro shared i j session other hsession hother metric hmetric
    have hstocked : shared.IsStocked :=
      IsStocked.takeAll ⟨⟨_, rfl, Metered.isFiled_of_new hmeter, fun _ hl => absurd hl List.not_mem_nil⟩,
        fun _ hsession => absurd hsession List.not_mem_nil⟩ logging stamp logger steps
    exact ⟨hstocked.place_eq hsession hother hmetric, fun hapart =>
      hstocked.sameExports hsession (Catalogue.mem_all_of_mem_permitted hmetric) hapart logging⟩

/-- A new pipeline: two families of it with two instruments, a facade over it with
its own instrument, and two namespaces that are told apart. -/
theorem exports_apart_edge :
    let logger : Logger := ⟨Facade.loggerName, true, .empty⟩
    let meter : Pipeline := .ofCatalogue (some "edge") (.text "quicmetrics")
    let es : List StoreAction :=
      [.register { name := "drops", kind := .counter }, .register { name := "Depth", kind := .gauge }]
    let shared := takeAll {} "" logger { store := .pipeline { meter } } [.build .on "edge"]
    (∃ m f f', ((Store.pipeline { meter }).performAll es).2 = .pipeline m
        ∧ m.families.get? "drops" = some f ∧ m.families.get? "Depth" = some f'
        ∧ f.instrument.place ≠ f'.instrument.place)
      ∧ (∃ place, shared.store.place? "edge_quic_udp_drop_count" = some place)
      ∧ Pipeline.identifyingName "edge_quic_udp_drop_count"
        ≠ Pipeline.identifyingName "Core_quic_udp_drop_count" := by
  intro logger meter es
  obtain ⟨shared, hshared⟩ : ∃ shared, shared
    = takeAll {} "" logger { store := .pipeline { meter } } [.build .on "edge"] := ⟨_, rfl⟩
  have horderly : meter.IsOrderly := Pipeline.isOrderly_of_new rfl
  obtain ⟨hfamilies, hshareds, hspaces⟩ := exports_apart horderly
  have hplaces := hshareds {} "" logger [.build .on "edge"]
  rw [← hshared] at hplaces ⊢
  refine ⟨?_, ?_, ?_⟩
  · obtain ⟨m, hstore, hplaces⟩ := hfamilies es
    have hfamily (name : String)
        (hsome : (((Store.pipeline { meter }).performAll es).2.place? name).isSome = true) :
        ∃ f, m.families.get? name = some f := by
      rw [hstore] at hsome
      exact Option.isSome_iff_exists.mp ((Option.isSome_map ..).symm.trans hsome)
    obtain ⟨f, hf⟩ := hfamily "drops" (by decide +kernel)
    obtain ⟨f', hf'⟩ := hfamily "Depth" (by decide +kernel)
    refine ⟨m, f, f', hstore, hf, hf', fun heq => ?_⟩
    have hidentity := (hplaces _ _ f f' hf hf').mp heq
    have hnames : Pipeline.identifyingName "drops" ≠ Pipeline.identifyingName "Depth" := by
      decide +kernel
    exact hnames (congrArg InstrumentId.name hidentity)
  · have hnames : ∀ metric ∈ Catalogue.permitted .on,
        Pipeline.isName (qualify (Value.text "edge").space? metric.name) = true := fun metric hmetric =>
      Pipeline.isName_qualify (by decide) (by decide) (Catalogue.mem_all_of_mem_permitted hmetric)
    obtain ⟨records, s, hbuild, -⟩ :=
      (Facade.build_pipeline .on (.text "edge") (.text "quicmetrics") {} "" logger).1 hnames
    have hmeter : Store.ofPipeline (Value.text "edge").space? (.text "quicmetrics")
      = .pipeline { meter } := rfl
    rw [hmeter] at hbuild
    unfold takeAll at hshared
    rw [List.foldl_cons, List.foldl_nil,
      take_build_of_eq { store := .pipeline { meter } } hbuild] at hshared
    have hsession := session?_of_sessions_eq (congrArg sessions hshared) (i := 0) rfl
    obtain ⟨place, hplace, -⟩ := (hplaces 0 0 _ _ hsession hsession Catalogue.udpDropCount
      (List.mem_filter.mpr ⟨Event.datagramDrop.metric_mem_all, rfl⟩)).1 ⟨rfl, rfl⟩
    exact ⟨place, hplace⟩
  · intro heq
    have hlower := (hspaces "edge" "Core" rfl rfl Catalogue.udpDropCount
      Event.datagramDrop.metric_mem_all).mp heq
    exact absurd hlower (by decide +kernel)

end SharedStore

/-- The whole numbers that are exported under a name. -/
def Store.numbers (name : String) : Store → List Int
  | .pipeline m =>
    match m.meter.collect.1 with
    | .ok points => (points.filter fun point => point.name == name).filterMap fun point =>
      match point.value with
      | .number (.int n) => some n
      | _ => none
    | .error _ => []
  | _ => []

namespace SharedStore

/-- Two namespaces that settings accept, and a metric that is registered in both of
them. The names differ, but there is one instrument: datagrams that are counted under
the one name are exported for the other. -/
theorem exports_merge_edge :
    let meter : Pipeline := .ofCatalogue none (.text "quicmetrics")
    let name (space : String) : String := qualify (some space) Catalogue.udpDropCount.name
    let register (space : String) : List StoreAction :=
      [.register (Catalogue.udpDropCount.registration (some space)), .resolve (name space) []]
    let count (space : String) (n : Int) : StoreAction := .operate ⟨name space, []⟩ .inc [.int n]
    let s := ((Store.pipeline { meter }).performAll (register "Edge" ++ register "edge")).2
    (Settings.spaceFault? (.text "Edge")).isNone ∧ (Settings.spaceFault? (.text "edge")).isNone
      ∧ s.names = ["Edge_quic_udp_drop_count", "edge_quic_udp_drop_count"]
      ∧ s.place? (name "Edge") = some 0 ∧ s.place? (name "edge") = some 0
      ∧ (s.performAll [count "edge" 1]).2.numbers (name "edge") = [1]
      ∧ (s.performAll [count "edge" 1, count "Edge" 5]).2.numbers (name "edge") = [6] := by
  intro meter name register count s
  refine ⟨rfl, rfl, ?_, ?_, ?_, ?_, ?_⟩
  all_goals decide +kernel

end SharedStore

end QuicTelemetry
