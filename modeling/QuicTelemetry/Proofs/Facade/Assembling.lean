import QuicTelemetry.Assembly
import QuicTelemetry.Proofs.Facade.Neighbours
import QuicTelemetry.Proofs.Store.Requests

/-!
# Assembling the telemetry

Registering is the one place where the telemetry of a process may fail, and a
failure there says which name cannot be registered and why
(`Store.answers_perform`). A meter does not keep to that. Where the name of an
instrument is one that it does not take, it refuses it without saying of which
metric, and so does everyone who registers: `NewStore.answered` says which
registrations and which assemblies fail in this way, and that there is no other.
-/

namespace QuicTelemetry

/-! ## Metrics as registrations -/

/-- The registration of a metric in a namespace. -/
def Metric.registration (space : Option String) (metric : Metric) : Registration :=
  { name := qualify space metric.name
    help := metric.description
    kind := match metric.kind with
      | .counter => .counter
      | .gauge => .gauge
      | .histogram | .timeHistogram => .histogram (.list ((metric.bounds.getD []).map .real))
    labels := metric.labels }

namespace Metric

variable {metric : Metric} (space : Option String)

theorem hasBounds_registration : (metric.registration space).HasBounds := by
  intro buckets hkind
  unfold registration at hkind
  dsimp only at hkind
  split at hkind
  · cases hkind
  · cases hkind
  all_goals
    cases hkind
    exact ⟨_, rfl⟩

theorem instrumentId_registration :
    (metric.registration space).instrumentId = metric.instrumentId space := by
  unfold Registration.instrumentId instrumentId registration Facade.shapeOf
  cases metric.kind <;> rfl

/-- The bounds of a metric are in order. -/
theorem shape_registration (h : metric ∈ Catalogue.all) :
    (metric.registration space).shape = .ok (Facade.shapeOf metric) := by
  have hbounds (hkind : metric.kind.isHistogram = true) :
      Bounds.ofValue (qualify space metric.name) (.list ((metric.bounds.getD []).map .real))
        = .ok (metric.bounds.getD []) := by
    rw [Bounds.ofValue_reals]
    unfold Bounds.check
    rw [Catalogue.refusal?_bounds metric h hkind]
  unfold Registration.shape registration Facade.shapeOf
  cases hkind : metric.kind with
  | counter => rfl
  | gauge => rfl
  | histogram => exact congrArg (Except.map Shape.histogram) (hbounds (hkind ▸ rfl))
  | timeHistogram => exact congrArg (Except.map Shape.histogram) (hbounds (hkind ▸ rfl))

theorem perform_registration (h : metric ∈ Catalogue.all) (s : Store) :
    s.perform (.register (metric.registration space))
      = s.register (qualify space metric.name) metric.description (Facade.shapeOf metric)
        metric.labels := by
  unfold Store.perform
  dsimp only
  rw [shape_registration space h]
  rfl

end Metric

/-! ## Facades over any store -/

namespace Store

/-- **A store gives metrics** in a namespace: a meter below it grants the
instruments of those whose names are free. A name that is not free is refused by the store
itself, in its own words, and the meter is not asked. -/
def Gives (space : Option String) (metrics : List Metric) (s : Store) : Prop :=
  ∀ m, s = .pipeline m → m.meter.IsConsistent
    ∧ ∀ metric ∈ metrics, qualify space metric.name ∉ m.claimed →
      m.meter.Grants (metric.instrumentId space) (qualify space metric.name)

variable {s : Store} {space : Option String} {metric : Metric} {rest : List Metric}

/-- **Registering a metric** takes no instrument away from the others. A meter that was asked
for an instrument has another answer for that instrument alone, and the help text tells
the instruments of metrics apart. -/
theorem Gives.register (h : s.Gives space (metric :: rest))
    (hall : ∀ other ∈ metric :: rest, other ∈ Catalogue.all) (hnew : metric ∉ rest) :
    (s.perform (.register (metric.registration space))).2.Gives space rest := by
  intro m' hm'
  have hkind := (s.takes_perform (.register (metric.registration space))).kind
  rw [hm'] at hkind
  cases s with
  | memory m => cases hkind
  | exposition e => cases hkind
  | recorder m => cases hkind
  | pipeline m =>
    obtain ⟨hconsistent, hgrants⟩ := h m rfl
    obtain ⟨m'', hstore, hserves⟩ := m.serves_perform (.register (metric.registration space))
    obtain rfl := Store.pipeline.inj (hm'.symm.trans hstore)
    generalize ((Store.pipeline m).perform (.register (metric.registration space))).1 = reply
      at hserves
    cases hserves with
    | idle _ hsame =>
      refine ⟨hsame.instruments.isConsistent hconsistent, fun other hother hfree => ?_⟩
      exact (hsame.instruments.grants _ _).mpr
        (hgrants other (List.mem_cons_of_mem _ hother) (hsame.claimed ▸ hfree))
    | asked _ _ hcreates =>
      obtain ⟨hconsistent', hkeeps⟩ := hcreates.keeps hconsistent
      refine ⟨hconsistent', fun other hother hfree => (hkeeps _ _).mpr ?_⟩
      have hne : other.instrumentId space ≠ (metric.registration space).instrumentId := by
        rw [Metric.instrumentId_registration]
        intro heq
        obtain rfl := List.inj_on_of_nodup_map Catalogue.nodup_descriptions
          (hall other (List.mem_cons_of_mem _ hother)) (hall metric List.mem_cons_self)
          (congrArg InstrumentId.help heq)
        exact hnew hother
      rw [if_neg hne]
      exact hgrants other (List.mem_cons_of_mem _ hother)
        fun hmem => hfree (List.mem_append_left _ hmem)

end Store

namespace Facade

/-- **Registering metrics** is answered, if the store gives them. The metric that is named is
the first that is refused. -/
theorem registerAll_answers {space : Option String} {metrics : List Metric} {s : Store}
    (h : s.Gives space metrics) (hall : ∀ metric ∈ metrics, metric ∈ Catalogue.all)
    (hnodup : metrics.Nodup) :
    (∃ s', registerAll space s metrics = (.ok (), s'))
      ∨ ∃ metric ∈ metrics, ∃ refusal,
        (registerAll space s metrics).1 = .error (.schema (qualify space metric.name) refusal) := by
  induction metrics generalizing s with
  | nil => exact .inl ⟨s, rfl⟩
  | cons metric rest ih =>
    obtain ⟨hnew, hnodup⟩ := List.nodup_cons.mp hnodup
    have hmetric := hall metric List.mem_cons_self
    have hanswers := Store.answers_perform (s := s) (Metric.hasBounds_registration space)
      (r := metric.registration space) fun m hm hfree => by
        rw [Metric.instrumentId_registration]
        exact (h m hm).2 metric List.mem_cons_self hfree
    have hrest := h.register hall hnew
    rw [Metric.perform_registration space hmetric] at hanswers hrest
    unfold registerAll
    split
    · next fault s' hregister =>
      rw [hregister] at hanswers
      rcases hanswers with hok | ⟨refusal, herror⟩
      · cases hok
      · exact .inr ⟨metric, List.mem_cons_self, refusal, herror⟩
    · next s' hregister =>
      rw [hregister] at hrest
      refine (ih hrest (fun other hother => hall other (List.mem_cons_of_mem _ hother)) hnodup).imp_right
        fun herror => ?_
      obtain ⟨other, hother, herror⟩ := herror
      exact ⟨other, List.mem_cons_of_mem _ hother, herror⟩

/-- **Building a facade** is answered, if the store gives its metrics. -/
theorem build_answers {s : Store} (htidy : s.Tidy) (flags : Flags) {space : Value}
    (h : s.Gives space.space? (Catalogue.permitted flags)) (logging : Logging) (stamp : String)
    (logger : Logger) :
    (build s flags space logging stamp logger).1.isOk = true
      ∨ ∃ metric ∈ Catalogue.permitted flags, ∃ refusal,
        (build s flags space logging stamp logger).1
          = .error (.schema (qualify space.space? metric.name) refusal) := by
  rcases registerAll_answers h (fun _ => Catalogue.mem_all_of_mem_permitted)
    ((nodup_permitted flags none).of_map _) with ⟨s', hregister⟩ | ⟨metric, hmetric, refusal, herror⟩
  · obtain ⟨records, hbuild⟩ := build_of_registerAll htidy hregister logging stamp logger
    rw [hbuild]
    exact .inl rfl
  · refine .inr ⟨metric, hmetric, refusal, ?_⟩
    unfold build
    dsimp only
    revert herror
    rcases registerAll space.space? s (Catalogue.permitted flags) with ⟨outcome, s'⟩
    rintro rfl
    rfl

end Facade

/-! ## Assemblies -/

namespace Assembly

/-- **What is built over a store** is the facade. -/
theorem facade_buildOver (store : Store) (settings : Settings) (flags : Flags) (logging : Logging)
    (stamp : String) : ∃ logger, (buildOver store settings flags logging stamp).facade
      = (Facade.build store flags settings.space logging stamp logger).1.map fun built =>
        some built.1 := by
  obtain ⟨logger, hlogger⟩ : ∃ logger, logging.logger Facade.loggerName [] = .ok logger := by
    unfold Logging.logger
    simp only [List.any_nil, Bool.false_eq_true, if_false]
    split
    · exact ⟨_, rfl⟩
    · split <;> exact ⟨_, rfl⟩
  refine ⟨logger, ?_⟩
  unfold buildOver
  rw [hlogger]
  dsimp only
  rcases Facade.build store flags settings.space logging stamp logger with
    ⟨fault | ⟨facade, records⟩, store'⟩ <;> rfl

/-- **Settings that were accepted** name one of the stores. -/
theorem backend_of_ofArgs {env : Environment} {args : List (String × Value)} {settings : Settings}
    (h : Settings.ofArgs env args = .ok settings) :
    ∃ name ∈ backendNames, settings.backend = .text name := by
  have hbackend : Settings.isBackend settings.backend = true := by
    unfold Settings.ofArgs at h
    split at h
    · unfold Settings.check at h
      simp only [bind, Except.bind, pure, Except.pure, throw, throwThe, MonadExceptOf.throw] at h
      split at h
      · cases h
      · split at h
        · cases h
        · next hbackend =>
          split at h
          · cases h
          · cases h
            simpa using hbackend
    · cases h
  unfold Settings.isBackend at hbackend
  split at hbackend
  · next name hname => exact ⟨name, List.contains_iff_mem.mp hbackend, hname⟩
  · cases hbackend

/-- **Settings whose names a store takes**: a meter that aggregates takes no name
that an instrument may not have. -/
def Suits (settings : Settings) (flags : Flags) : Prop :=
  settings.backend = .text "otel" → ∀ metric ∈ Catalogue.permitted flags,
    Pipeline.isName (qualify settings.space.space? metric.name) = true

/-- **Assembling over a new store** fails for one reason only. Every other backend takes each
metric in each namespace that settings accept. A meter that aggregates has a rule of its
own for names, and settings know nothing of it. -/
theorem assemble_new {env : Environment} {args : List (String × Value)} {settings : Settings}
    (h : Settings.ofArgs env args = .ok settings) (flags : Flags) (logging : Logging)
    (stamp : String) :
    (Suits settings flags → (assemble settings flags none logging stamp).facade.isOk = true)
      ∧ (¬ Suits settings flags →
        (assemble settings flags none logging stamp).facade = .error .badInstrument) := by
  have hlisted {store : Store} (hlists : store.Lists []) :
      (buildOver store settings flags logging stamp).facade.isOk = true := by
    obtain ⟨s', hregister, -⟩ := hlists.registerAll settings.space.space?
      (Catalogue.permitted flags) (fun _ hmem => absurd hmem List.not_mem_nil)
      (fun _ => Catalogue.mem_all_of_mem_permitted) (fun _ _ => List.not_mem_nil)
      ((Facade.nodup_permitted flags none).of_map _)
    obtain ⟨logger, hfacade⟩ := facade_buildOver store settings flags logging stamp
    obtain ⟨records, hbuild⟩ := Facade.build_of_registerAll hlists.isReadable.tidy hregister logging
      stamp logger
    rw [hfacade, hbuild]
    rfl
  have hsuited {outcome : Outcome} (hne : settings.backend ≠ .text "otel")
      (hok : outcome.facade.isOk = true) :
      (Suits settings flags → outcome.facade.isOk = true)
        ∧ (¬ Suits settings flags → outcome.facade = .error .badInstrument) :=
    ⟨fun _ => hok, fun hnot => absurd (fun heq => absurd heq hne) hnot⟩
  obtain ⟨name, hname, hbackend⟩ := backend_of_ofArgs h
  simp only [backendNames, List.mem_cons, List.not_mem_nil, or_false] at hname
  have hne (hname : name ≠ "otel") : settings.backend ≠ .text "otel" := fun heq =>
    hname (Value.text.inj (hbackend.symm.trans heq))
  rcases hname with rfl | rfl | rfl | rfl
  · refine hsuited (hne (by decide)) ?_
    unfold assemble store?
    rw [hbackend]
    exact hlisted ⟨rfl, rfl⟩
  · refine hsuited (hne (by decide)) ?_
    unfold assemble store?
    rw [hbackend]
    exact hlisted rfl
  · have hassemble : (assemble settings flags none logging stamp).facade
        = (buildOver (.ofPipeline settings.space.space? settings.serviceName) settings flags logging
          stamp).facade := by
      unfold assemble store?
      rw [hbackend]
      rfl
    obtain ⟨logger, hfacade⟩ := facade_buildOver
      (.ofPipeline settings.space.space? settings.serviceName) settings flags logging stamp
    obtain ⟨hyes, hno⟩ := Facade.build_pipeline flags settings.space settings.serviceName logging
      stamp logger
    rw [hassemble, hfacade]
    constructor
    · intro hsuits
      obtain ⟨records, s, hbuild, -⟩ := hyes (hsuits hbackend)
      rw [hbuild]
      rfl
    · intro hnot
      have hsome : ∃ metric ∈ Catalogue.permitted flags,
          Pipeline.isName (qualify settings.space.space? metric.name) = false := by
        by_contra hnone
        refine hnot fun _ metric hmetric => ?_
        by_contra hname
        exact hnone ⟨metric, hmetric, Bool.eq_false_iff.mpr hname⟩
      rw [hno hsome]
      rfl
  · refine hsuited (hne (by decide)) ?_
    unfold assemble store?
    rw [hbackend]
    rfl

end Assembly

namespace NewStore

/-- **A store gives metrics** of which it spurns none. -/
theorem gives_after (f : NewStore) (hf : f.IsConsistent) (es : List StoreAction)
    {space : Option String} {metrics : List Metric}
    (hspared : ∀ metric ∈ metrics, ¬ f.Spurns (f.store.performAll es).1 (qualify space metric.name)
      (metric.instrumentId space)) : (f.store.performAll es).2.Gives space metrics := by
  intro m hm
  have hkind := (f.store.names_performAll es).2.2.1
  rw [hm] at hkind
  cases f with
  | memory => cases hkind
  | exposition registry => cases hkind
  | recorder meter => cases hkind
  | pipeline meter =>
    obtain ⟨m', hstore, hconsistent, hspurns⟩ := grants_after hf es
    obtain rfl := Store.pipeline.inj (hm.symm.trans hstore)
    refine ⟨hconsistent, fun metric hmetric hfree => ?_⟩
    exact Decidable.not_not.mp fun hnot =>
      hspared metric hmetric ((hspurns _ _).mpr ⟨hfree, hnot⟩)

theorem tidy_store (f : NewStore) : f.store.Tidy := by
  cases f with
  | exposition registry => exact .inl rfl
  | _ => exact .inr fun _ _ => rfl

/-- **What is answered, and what is not.** A store of any kind was used for
anything. Then

* a registration is answered, with the family or with what is wrong with its name,
  unless the name is spurned: the meter refuses the name in which this instrument
  was asked for first. That fault says nothing of the name;
* so is assembling over this store, with any settings that are accepted, unless
  the name of a metric is spurned;
* an assembly that makes its own store succeeds, unless the store is a meter and
  the namespace gives a name that no instrument may have; it then fails, and the
  fault says nothing of a name. -/
theorem answered (f : NewStore) (hf : f.IsConsistent) (before : List StoreAction) :
    let log := (f.store.performAll before).1
    let s := (f.store.performAll before).2
    (∀ r : Registration, r.HasBounds →
        (¬ f.Spurns log r.name r.instrumentId → Answers r.name (s.perform (.register r)).1)
          ∧ (r.shape.isOk = true → f.Spurns log r.name r.instrumentId →
            (s.perform (.register r)).1 = .error .badInstrument
              ∨ (s.perform (.register r)).1 = .error .missingKey))
      ∧ ∀ env args settings, Settings.ofArgs env args = .ok settings → ∀ flags logging stamp,
        ((∀ metric ∈ Catalogue.permitted flags,
            ¬ f.Spurns log (qualify settings.space.space? metric.name)
              (metric.instrumentId settings.space.space?)) →
          (Assembly.assemble settings flags (some s) logging stamp).facade.isOk = true
            ∨ ∃ metric ∈ Catalogue.permitted flags, ∃ refusal,
              (Assembly.assemble settings flags (some s) logging stamp).facade
                = .error (.schema (qualify settings.space.space? metric.name) refusal))
        ∧ (Assembly.Suits settings flags →
          (Assembly.assemble settings flags none logging stamp).facade.isOk = true)
        ∧ (¬ Assembly.Suits settings flags →
          (Assembly.assemble settings flags none logging stamp).facade = .error .badInstrument) := by
  intro log s
  refine ⟨fun r hbounds => f.answers_register hf before hbounds,
    fun env args settings haccepted flags logging stamp =>
      ⟨fun hspared => ?_, Assembly.assemble_new haccepted flags logging stamp⟩⟩
  have hgives : s.Gives settings.space.space? (Catalogue.permitted flags) :=
    f.gives_after hf before hspared
  have htidy : s.Tidy := Store.tidy_performAll f.tidy_store before
  obtain ⟨logger, hfacade⟩ := Assembly.facade_buildOver s settings flags logging stamp
  have hassemble : (Assembly.assemble settings flags (some s) logging stamp).facade
      = (Assembly.buildOver s settings flags logging stamp).facade := rfl
  rw [hassemble, hfacade]
  rcases Facade.build_answers htidy flags hgives logging stamp logger with
    hok | ⟨metric, hmetric, refusal, herror⟩
  · left
    revert hok
    rcases (Facade.build s flags settings.space logging stamp logger).1 with fault | built
    · exact id
    · exact fun _ => rfl
  · rw [herror]
    exact .inr ⟨metric, hmetric, refusal, rfl⟩

/-- The settings of a process that exports to a meter, in a namespace. -/
def exporting (space : String) : Settings :=
  { backend := .text "otel", space := .text space, flagsPath := .null
    serviceName := .text "quicmetrics", logFormatter := .text "structlog"
    logFormat := .text "json", logLevel := .text "INFO" }

/-- A store over a meter on which someone registered a gauge: a histogram is
registered there, and a facade is built. -/
theorem answered_besideGauge :
    let f : NewStore := .pipeline (.ofCatalogue none (.text "quicmetrics"))
    let before : List StoreAction := [.register ⟨"depth", "Depth.", .gauge, ["path"]⟩]
    let s := (f.store.performAll before).2
    let r : Registration := { name := "latency", kind := .histogram (.list ([1, 2].map .real)) }
    Answers "latency" (s.perform (.register r)).1
      ∧ Settings.ofArgs [("QUICMETRICS_BACKEND", "otel")] [("namespace", .text "edge")]
        = .ok (exporting "edge")
      ∧ ((Assembly.assemble (exporting "edge") .on (some s) {} "").facade.isOk = true
        ∨ ∃ metric ∈ Catalogue.permitted .on, ∃ refusal,
          (Assembly.assemble (exporting "edge") .on (some s) {} "").facade
            = .error (.schema (qualify (some "edge") metric.name) refusal))
      ∧ (Assembly.assemble (exporting "edge") .on none {} "").facade.isOk = true := by
  intro f before s r
  have haccepted : Settings.ofArgs [("QUICMETRICS_BACKEND", "otel")] [("namespace", .text "edge")]
      = .ok (exporting "edge") := rfl
  have hnames (metric : Metric) (hmetric : metric ∈ Catalogue.permitted .on) :
      Pipeline.isName (qualify (some "edge") metric.name) = true :=
    Pipeline.isName_qualify (by decide) (by decide) (Catalogue.mem_all_of_mem_permitted hmetric)
  -- the gauge was asked for under another help text
  have hspared (name : String) (id : InstrumentId) (hhelp : id.help ≠ "Depth.")
      (hname : Pipeline.isName name = true) : ¬ f.Spurns (f.store.performAll before).1 name id := by
    rintro ⟨-, hnot⟩
    have hfirst : firstName (f.store.performAll before).1 id name = name := by
      refine (firstName_of_some (r := ⟨"depth", "Depth.", .gauge, ["path"]⟩) rfl [] id name).trans
        (if_neg ?_)
      rintro rfl
      exact hhelp rfl
    rw [hfirst] at hnot
    exact hnot hname
  have hhelps : ∀ metric ∈ Catalogue.all, metric.description ≠ "Depth." := by decide +kernel
  obtain ⟨hregister, hassemble⟩ := answered f (fun _ hmem => absurd hmem List.not_mem_nil) before
  obtain ⟨hgiven, hnew, -⟩ := hassemble _ _ _ haccepted .on {} ""
  refine ⟨(hregister r ?_).1 (hspared _ _ (by decide) (by decide)), haccepted,
    hgiven fun metric hmetric => hspared _ _
      (hhelps metric (Catalogue.mem_all_of_mem_permitted hmetric)) (hnames metric hmetric),
    hnew fun _ => hnames⟩
  intro buckets hkind
  cases hkind
  exact ⟨_, rfl⟩

/-- A name that starts with an underscore, on a new meter. It is taken from then on,
although the fault says nothing of it; and a namespace may start with one. -/
theorem unanswered_underscore :
    let f : NewStore := .pipeline (.ofCatalogue none (.text "quicmetrics"))
    let r : Registration := { name := "_latency", kind := .counter }
    (f.store.perform (.register r)).1 = .error .badInstrument
      ∧ ¬ Answers r.name (f.store.perform (.register r)).1
      ∧ Settings.ofArgs [] [("backend", .text "otel"), ("namespace", .text "_edge")]
        = .ok (exporting "_edge")
      ∧ (Assembly.assemble (exporting "_edge") .on none {} "").facade = .error .badInstrument := by
  intro f r
  have hregister : (f.store.perform (.register r)).1 = .error .badInstrument := by
    rcases Metered.perform_register (m := { meter := .ofCatalogue none (.text "quicmetrics") })
      (r := r) rfl with ⟨hmem, -⟩ | ⟨-, result, hcreates, hperform⟩
    · cases hmem
    · refine (congrArg Prod.fst hperform).trans ?_
      cases hcreates with
      | found hasked => cases hasked
      | lost hasked => cases hasked
      | made _ hname => exact absurd hname (by decide)
      | refused => rfl
  have haccepted : Settings.ofArgs [] [("backend", .text "otel"), ("namespace", .text "_edge")]
      = .ok (exporting "_edge") := rfl
  refine ⟨hregister, ?_, haccepted,
    (Assembly.assemble_new haccepted .on {} "").2 fun hsuits => ?_⟩
  · rw [hregister]
    rintro (hok | ⟨refusal, herror⟩)
    · cases hok
    · cases herror
  · have hname := hsuits rfl Catalogue.udpDropCount
      (List.mem_filter.mpr ⟨Event.datagramDrop.metric_mem_all, rfl⟩)
    have hunfit : Pipeline.isName (qualify (Value.space? (.text "_edge")) Catalogue.udpDropCount.name)
        = false := by decide +kernel
    exact absurd (hname.symm.trans hunfit) Bool.noConfusion

end NewStore

end QuicTelemetry
