import QuicTelemetry.Proofs.Facade.Aggregation
import QuicTelemetry.Proofs.Facade.Instruments
import QuicTelemetry.Settings

/-!
# What a facade over a pipeline collects

Callers do something with a facade over a pipeline, which may fail, and whenever
it is wanted the pipeline is collected. The actions that succeeded are written down
in a ledger, and the store carries what the ledger says they observed
(`FacadeSession.Carries`). An action keeps it so and a collection does, and therefore
any steps do (`FacadeSession.Carries.takeAll`).

The pipeline has the views of the catalogue in the namespace of the facade. So
**what is collected of a histogram is what was observed, divided by its own
bounds**, in every namespace in which the facade can be built
(`FacadeSession.collected_after`).
-/

namespace QuicTelemetry

/-! ## Actions and collections -/

/-- **What happens in a session**: a caller does something, or the pipeline is
collected. -/
inductive FacadeSession.Step where
  /-- An action of a caller. -/
  | action (caller : Nat) (action : FacadeAction)
  /-- A collection. -/
  | collect

namespace FacadeSession

/-- **Builds a facade over a new pipeline**, both in one namespace. -/
def startPipeline (flags : Flags) (space service : Value) (logging : Logging) (stamp : String)
    (logger : Logger) : Except Fault FacadeSession :=
  match Facade.build (.ofPipeline space.space? service) flags space logging stamp logger with
  | (.ok (facade, _), store) => .ok { facade, store }
  | (.error fault, _) => .error fault

/-- The session over a pipeline in which nothing was done. -/
def newPipeline (flags : Flags) (space : Option String) (service : Value)
    (logger : Logger) : FacadeSession :=
  { facade := ⟨flags, space, Catalogue.permitted flags, logger, 0, 0⟩
    store := Facade.exported space service flags }

/-- Collects what the pipeline has aggregated. -/
def collect (session : FacadeSession) : Except Fault (List Point) × FacadeSession :=
  match session.store with
  | .pipeline s =>
    (s.meter.collect.1,
      { session with store := .pipeline { s with meter := s.meter.collect.2 } })
  | _ => (.error .absent, session)

/-- **Takes steps**, going on after what fails. The actions that succeeded are
told. -/
def takeAll (logging : Logging) (session : FacadeSession) : List Step → History × FacadeSession
  | [] => ([], session)
  | .action caller action :: steps =>
    let (outcome, session) := session.attempt logging caller action
    let (done, session) := takeAll logging session steps
    match outcome with
    | .ok _ => ((caller, action) :: done, session)
    | .error _ => (done, session)
  | .collect :: steps => takeAll logging session.collect.2 steps

end FacadeSession

/-- **The observations of a series**, by what was done. -/
def Ledger.observed (flags : Flags) (space : Option String) (ledger : Ledger) (id : SeriesId) :
    List Amount :=
  (ledger.mutations flags space id).flatMap fun u => u.amount.observations

/-- A mutation that is written down is observed by the series of its call. -/
theorem Ledger.observed_append (flags : Flags) (space : Option String) (ledger : Ledger)
    (caller : Nat) (call : Call) (u : Mutation) (id : SeriesId) :
    observed flags space { ledger with entries := ledger.entries ++ [(caller, call, u)] } id
      = if call.series? flags space = some id then
          ledger.observed flags space id ++ u.amount.observations
        else ledger.observed flags space id := by
  unfold observed
  rw [mutations_append]
  split
  · rw [List.flatMap_append, List.flatMap_singleton]
  · rfl

/-- Writes down an action if it succeeded. -/
def Ledger.noteDone (ledger : Ledger) (caller : Nat) (action : FacadeAction) :
    Except Fault (Option Handle) → Ledger
  | .ok _ => ledger.note caller action
  | .error _ => ledger

/-- **The handle of a call** measures for the series of the call, if it has one.
What fails is not measured. -/
theorem Call.measure_handle {flags : Flags} {space : Option String} {seen : SeriesId → List Amount}
    {s : Metered Pipeline} (h : s.Carries (Catalogue.permitted flags) space seen) {call : Call}
    (hcall : call.isAccepted = true) (verb : Verb) (args : List Value) :
    ∃ s', ((call.handle flags space).call (.pipeline s) verb args).2 = .pipeline s'
      ∧ (((call.handle flags space).call (.pipeline s) verb args).1 = .ok () →
        ∃ argument, verb.argument args = .ok argument
          ∧ s'.Carries (Catalogue.permitted flags) space fun id =>
            if call.series? flags space = some id then
              seen id ++ ((Amount.ofValue? argument).getD (.whole 0)).observations
            else seen id)
      ∧ ∀ fault, ((call.handle flags space).call (.pipeline s) verb args).1 = .error fault →
        s'.Carries (Catalogue.permitted flags) space seen := by
  unfold Call.handle
  cases hseries : call.series? flags space with
  | none =>
    -- a handle that does nothing
    unfold Handle.call
    dsimp only
    split
    · refine ⟨s, rfl, fun hok => ?_, fun _ _ => h⟩
      cases hargument : verb.argument args with
      | error fault =>
        rw [hargument] at hok
        cases hok
      | ok argument => exact ⟨argument, rfl, h.congr fun _ _ _ _ => if_neg (by simp)⟩
    · exact ⟨s, rfl, fun hok => (by cases hok), fun _ _ => h⟩
  | some id =>
    obtain ⟨metric, hmetric, -, values, hlength, rfl⟩ := exists_of_series? hcall hseries
    obtain ⟨hok, herror⟩ := h.call hmetric hlength verb args
    refine ⟨_, rfl, fun hdone => ?_, herror⟩
    obtain ⟨argument, hargument, hcarries⟩ := hok hdone
    refine ⟨argument, hargument, hcarries.congr fun metric' _ _ values' => ?_⟩
    by_cases heq : (⟨qualify space metric'.name, values'⟩ : SeriesId)
        = ⟨qualify space metric.name, values⟩
    · rw [heq, if_pos rfl, if_pos rfl]
    · rw [if_neg heq, if_neg fun hsome => heq (Option.some.inj hsome).symm]

/-- **A session over a pipeline that carries what a ledger says.** -/
structure FacadeSession.Carries (flags : Flags) (space : Option String) (ledger : Ledger)
    (session : FacadeSession) :
    Prop where
  flags_eq : session.facade.flags = flags
  space_eq : session.facade.space = space
  accepted : ∀ entry ∈ ledger.calls, entry.2.isAccepted = true
  handles : session.handles = ledger.calls.map fun entry => (entry.1, entry.2.handle flags space)
  store : ∃ s, session.store = .pipeline s
    ∧ s.Carries (Catalogue.permitted flags) space (ledger.observed flags space)

namespace FacadeSession.Carries

variable {flags : Flags} {space : Option String} {ledger : Ledger} {session : FacadeSession}

/-- **A call** measures nothing. If it is answered, it is written down. -/
theorem call (h : session.Carries flags space ledger) (logging : Logging) (caller : Nat)
    (made : Call)
    (stamp : String) :
    (session.attempt logging caller (.call made stamp)).2.Carries flags space
      (ledger.noteDone caller (.call made stamp)
        (session.attempt logging caller (.call made stamp)).1) := by
  have hsame := h
  obtain ⟨rfl, rfl, haccepted, hhandles, s, hstore, hcarries⟩ := h
  unfold attempt
  dsimp only
  cases hevent : Event.ofCall made.method made.args with
  | error fault => exact hsame
  | ok event =>
    dsimp only
    cases hmisfit : Facade.misfit? event.sources with
    | some fault =>
      rw [Facade.report_of_misfit _ logging stamp hmisfit]
      exact hsame
    | none =>
      obtain ⟨records, facade, store, hreport, hflags, hspace, s', rfl, hcarries'⟩ :=
        Facade.report_answers logging stamp session.store hevent hmisfit
          (P := fun store => ∃ s', store = .pipeline s'
            ∧ s'.Carries (Catalogue.permitted session.facade.flags) session.facade.space
              (ledger.observed session.facade.flags session.facade.space))
          (fun _ => ⟨s, hstore, hcarries⟩)
          fun values hmetric hlength _ => by
            obtain ⟨s', hresolve, hcarries'⟩ := hcarries.resolve hmetric hlength
            rw [hstore]
            exact ⟨.pipeline s', hresolve, s', rfl, hcarries'⟩
      have hmade : made.isAccepted = true := by
        unfold Call.isAccepted
        rw [hevent]
        exact Option.isNone_iff_eq_none.mpr hmisfit
      rw [hreport]
      refine ⟨hflags, hspace, fun entry hentry => ?_, ?_, s', rfl, hcarries'⟩
      · rcases List.mem_append.mp hentry with hentry | hentry
        · exact haccepted entry hentry
        · rw [List.mem_singleton.mp hentry]
          exact hmade
      · show session.handles ++ _ = (ledger.calls ++ _).map _
        rw [hhandles, List.map_append]
        rfl

/-- **An operation that succeeds** is written down, and is observed by the series
of its handle. -/
theorem operate (h : session.Carries flags space ledger) (logging : Logging) (caller : Nat)
    (handle : Nat) (verb : Verb) (args : List Value) :
    (session.attempt logging caller (.operate handle verb args)).2.Carries flags space
      (ledger.noteDone caller (.operate handle verb args)
        (session.attempt logging caller (.operate handle verb args)).1) := by
  have hsame := h
  obtain ⟨rfl, rfl, haccepted, hhandles, s, hstore, hcarries⟩ := h
  have hfound : (own caller session.handles)[handle]?
      = (own caller ledger.calls)[handle]?.map
        fun made => made.handle session.facade.flags session.facade.space := by
    rw [hhandles, own_map, List.getElem?_map]
  unfold attempt
  dsimp only
  rw [hfound]
  cases hmade : (own caller ledger.calls)[handle]? with
  | none => exact hsame
  | some made =>
    have hmem : (caller, made) ∈ ledger.calls := mem_of_mem_own (List.mem_of_getElem? hmade)
    obtain ⟨s', hs', hok, herror⟩ := Call.measure_handle hcarries (haccepted _ hmem) verb args
    rw [← hstore] at hs' hok herror
    dsimp only [Option.map_some]
    cases houtcome : ((made.handle session.facade.flags session.facade.space).call session.store verb
        args).1 with
    | error fault => exact ⟨rfl, rfl, haccepted, hhandles, s', hs', herror fault houtcome⟩
    | ok done =>
      obtain ⟨argument, hargument, hcarries'⟩ := hok houtcome
      have hu : Mutation.of? verb args = some ⟨verb, argument⟩ := by
        unfold Mutation.of?
        rw [hargument]
        rfl
      show FacadeSession.Carries _ _ (ledger.note caller (.operate handle verb args)) _
      rw [ledger.note_operate caller hmade hu]
      exact ⟨rfl, rfl, haccepted, hhandles, s', hs',
        hcarries'.congr fun _ _ _ _ => Ledger.observed_append ..⟩

/-- **An action** leaves a session that carries what succeeded. -/
theorem attempt (h : session.Carries flags space ledger) (logging : Logging) (caller : Nat)
    (action : FacadeAction) :
    (session.attempt logging caller action).2.Carries flags space
      (ledger.noteDone caller action (session.attempt logging caller action).1) := by
  cases action with
  | call made stamp => exact h.call logging caller made stamp
  | operate handle verb args => exact h.operate logging caller handle verb args

/-- **A collection** leaves a session that carries the same. -/
theorem collect (h : session.Carries flags space ledger) :
    session.collect.2.Carries flags space ledger := by
  obtain ⟨hflags, hspace, haccepted, hhandles, s, hstore, hcarries⟩ := h
  unfold FacadeSession.collect
  rw [hstore]
  exact ⟨hflags, hspace, haccepted, hhandles, _, rfl, hcarries.collect.1⟩

/-- **What is collected** are the observations that the ledger has. -/
theorem shown (h : session.Carries flags space ledger) :
    session.collect.1 = .error .overflow
      ∨ ∃ points, session.collect.1 = .ok points
        ∧ ∀ metric ∈ Catalogue.permitted flags, metric.kind.isHistogram = true →
          metric.ShownBy (metric.bounds.getD [])
            (fun values => ledger.observed flags space ⟨qualify space metric.name, values⟩)
            (points.filter fun point => point.name == Text.lower (qualify space metric.name)) := by
  obtain ⟨-, -, -, -, s, hstore, hcarries⟩ := h
  unfold FacadeSession.collect
  rw [hstore]
  exact hcarries.collect.2

/-- **Whatever steps are taken**, a session carries the actions that succeeded. -/
theorem takeAll (h : session.Carries flags space ledger) (logging : Logging) (steps : List Step) :
    (session.takeAll logging steps).2.Carries flags space
      (ledger.noteAll (session.takeAll logging steps).1) := by
  induction steps generalizing session ledger with
  | nil => exact h
  | cons step steps ih =>
    cases step with
    | collect => exact ih h.collect
    | action caller action =>
      have hnext := h.attempt logging caller action
      unfold FacadeSession.takeAll
      rcases hattempt : session.attempt logging caller action with ⟨fault | handle, session'⟩
      · rw [hattempt] at hnext
        exact ih hnext
      · rw [hattempt] at hnext
        exact ih hnext

end FacadeSession.Carries

namespace FacadeSession

variable {flags : Flags} {space service : Value} {logging : Logging} {stamp : String}
  {logger : Logger} {session : FacadeSession}

/-- **A session is started over a pipeline exactly if the pipeline takes the names**
of the metrics that are switched on. It is then this one, and carries nothing. -/
theorem start_pipeline (flags : Flags) (space service : Value) (logging : Logging) (stamp : String)
    (logger : Logger) :
    ((∀ metric ∈ Catalogue.permitted flags,
          Pipeline.isName (qualify space.space? metric.name) = true) →
        startPipeline flags space service logging stamp logger
            = .ok (newPipeline flags space.space? service logger)
          ∧ (newPipeline flags space.space? service logger).Carries flags space.space? {})
      ∧ ((startPipeline flags space service logging stamp logger).isOk = true →
        ∀ metric ∈ Catalogue.permitted flags,
          Pipeline.isName (qualify space.space? metric.name) = true) := by
  obtain ⟨hyes, hno⟩ := Facade.build_pipeline flags space service logging stamp logger
  unfold startPipeline
  constructor
  · intro hnames
    obtain ⟨records, s, hbuild, hexported, hcarries⟩ := hyes hnames
    rw [hbuild]
    exact ⟨rfl, rfl, rfl, fun entry hentry => absurd hentry List.not_mem_nil, rfl, s, hexported,
      hcarries⟩
  · intro hok metric hmetric
    by_contra hname
    have hfault := hno ⟨metric, hmetric, Bool.eq_false_iff.mpr hname⟩
    revert hok hfault
    rcases Facade.build (.ofPipeline space.space? service) flags space logging stamp logger with
      ⟨outcome, store⟩
    rintro hok rfl
    cases hok

/-- A new session over a pipeline carries nothing. -/
theorem carries_of_start
    (hstart : startPipeline flags space service logging stamp logger = .ok session) :
    session.Carries flags space.space? {} := by
  obtain ⟨hyes, hno⟩ := start_pipeline flags space service logging stamp logger
  obtain ⟨heq, hcarries⟩ := hyes (hno (by rw [hstart]; rfl))
  obtain rfl := Except.ok.inj (hstart.symm.trans heq)
  exact hcarries

/-- **Every histogram is collected over its own bounds.** A facade is built over a
pipeline of the same namespace, callers do something, which may fail, and the
pipeline is collected in between. Then

* every histogram that is switched on has an instrument under its name in lower
  case, whose bounds are those of the catalogue and never the default bounds; and
* a collection fails only if a sum is beyond the range. It shows every series that
  was observed, and of every series how the observations that succeeded lie
  between these bounds. -/
theorem collected_after
    (hstart : startPipeline flags space service logging stamp logger = .ok session)
    (steps : List Step) :
    let seen := (Ledger.noteAll {} (session.takeAll logging steps).1).observed flags space.space?
    let left := (session.takeAll logging steps).2
    ∃ s, left.store = .pipeline s
      ∧ (∀ metric ∈ Catalogue.permitted flags, metric.kind.isHistogram = true →
        ∃ i ∈ s.meter.instruments, i.name = Text.lower (qualify space.space? metric.name)
          ∧ i.bounds = (metric.bounds.getD []).map .real ∧ i.bounds ≠ View.defaultBounds)
      ∧ (left.collect.1 = .error .overflow
        ∨ ∃ points, left.collect.1 = .ok points
          ∧ ∀ metric ∈ Catalogue.permitted flags, metric.kind.isHistogram = true →
            metric.ShownBy (metric.bounds.getD [])
              (fun values => seen ⟨qualify space.space? metric.name, values⟩)
              (points.filter fun point =>
                point.name == Text.lower (qualify space.space? metric.name))) := by
  have hsession := (carries_of_start hstart).takeAll logging steps
  obtain ⟨s, hstore, hcarries⟩ := hsession.store
  refine ⟨s, hstore, fun metric hmetric hkind => ?_, hsession.shown⟩
  obtain ⟨k, hk⟩ := List.mem_iff_getElem?.mp hmetric
  obtain ⟨i, hi, hserves⟩ := hcarries.instruments k metric hk
  have hbounds := (hserves.divides hkind).bounds_eq
  refine ⟨i, List.mem_of_getElem? hi, hserves.name, hbounds, fun hdefault => ?_⟩
  have hsame : metric.bounds.getD [] = View.defaults :=
    List.map_injective_iff.mpr (fun _ _ => Value.real.inj) (hbounds.symm.trans hdefault)
  exact Catalogue.bounds_ne_defaults metric (Catalogue.mem_all_of_mem_permitted hmetric) hkind hsame

/-- A caller observes a loss of three percent. -/
def oneLoss : List Step :=
  [.action 0 (.call ⟨"max_loss_pct", []⟩ ""), .action 0 (.operate 0 .observe [.int 3])]

/-- A new session over a pipeline in a namespace with a capital, with all metrics
switched on. -/
def inCapitals : FacadeSession :=
  newPipeline .on (some "Edge") (.text "quicmetrics") ⟨Facade.loggerName, true, .empty⟩

/-- The metric of losses is switched on. -/
theorem maxLossPct_permitted : Catalogue.maxLossPct ∈ Catalogue.permitted .on :=
  List.mem_filter.mpr ⟨by simp [Catalogue.all, Catalogue.connection], rfl⟩

/-- The session is started. -/
theorem start_inCapitals :
    startPipeline .on (.text "Edge") (.text "quicmetrics") {} "" ⟨Facade.loggerName, true, .empty⟩
      = .ok inCapitals := by
  have hspace : (Value.text "Edge").space? = some "Edge" := by decide
  have hstart := ((start_pipeline .on (.text "Edge") (.text "quicmetrics") {} ""
    ⟨Facade.loggerName, true, .empty⟩).1 fun metric hmetric => by
      rw [hspace]
      exact Pipeline.isName_qualify (by decide) (by decide)
        (Catalogue.mem_all_of_mem_permitted hmetric)).1
  rw [hspace] at hstart
  exact hstart

/-- **A loss is collected over the bounds of losses**, in a namespace with a capital
as in any other. -/
theorem collected_after_oneLoss :
    Settings.spaceFault? (.text "Edge") = none
      ∧ startPipeline .on (.text "Edge") (.text "quicmetrics") {} ""
          ⟨Facade.loggerName, true, .empty⟩
        = .ok inCapitals
      ∧ ∃ points, (inCapitals.takeAll {} oneLoss).2.collect.1 = .ok points
        ∧ ∃ point ∈ points, point.name = "edge_quic_max_loss_pct" ∧ ∃ d,
          point.value = .distribution ((Catalogue.maxLossPct.bounds.getD []).map .real) d
            ∧ d.counts = tallied (Catalogue.maxLossPct.bounds.getD []) [.whole 3] := by
  have hok : (inCapitals.takeAll {} oneLoss).2.collect.1.isOk = true := by decide +kernel
  have hseen : (Ledger.noteAll {} (inCapitals.takeAll {} oneLoss).1).observed .on
      (Value.text "Edge").space? ⟨qualify (Value.text "Edge").space? Catalogue.maxLossPct.name, []⟩
        = [.whole 3] := by
    decide +kernel
  have hstored : Text.lower (qualify (Value.text "Edge").space? Catalogue.maxLossPct.name)
      = "edge_quic_max_loss_pct" := by
    decide +kernel
  refine ⟨by decide +kernel, start_inCapitals, ?_⟩
  obtain ⟨s, -, -, hcollect⟩ := collected_after start_inCapitals oneLoss
  rcases hcollect with hoverflow | ⟨points, hpoints, hshown⟩
  · rw [hoverflow] at hok
    cases hok
  · obtain ⟨point, hpoint, d, -, hvalue, hcounts⟩ :=
      (hshown _ maxLossPct_permitted rfl).exists_point List.nodup_nil List.length_nil
        (by rw [hseen]; exact List.cons_ne_nil _ _)
    obtain ⟨hmem, hname⟩ := List.mem_filter.mp hpoint
    rw [hseen] at hcounts
    exact ⟨points, hpoints, point, hmem, (beq_iff_eq.mp hname).trans hstored, d, hvalue, hcounts⟩

end FacadeSession

end QuicTelemetry
