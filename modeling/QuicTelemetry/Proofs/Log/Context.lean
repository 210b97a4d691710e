import QuicTelemetry.Facade
import QuicTelemetry.Proofs.Log.Handlers

/-!
# What log records carry

A logger is obtained at one time and used at another, and in between the
logging may be set up, shut down and set up again. A facade keeps the logger
that it was built with for all its life.

A `LoggingProcess` is a process in which this happens in any order. Beside each record
it notes which fields the caller gave, under which settings the logger was
obtained, and which settings were in force when the record was made.
**Every record carries the component, and the namespace of the settings under
which its logger was obtained** (`LoggingProcess.carried_after`). That is the namespace
in force only where the two are the same: a logger that was obtained too early
carries none, or that of a setup that is long gone (`LoggingProcess.carried_too_early`).
-/

namespace QuicTelemetry

/-- What a record says under a name. -/
def LogRecord.field? (r : LogRecord) (key : String) : Option Value :=
  match r.content with
  | .plain _ fields => fields.get? key
  | .structured entries => entries.get? key

namespace Logging

/-- The namespace that records carry under some settings. -/
def spaceOf (settings : Settings) : Value :=
  if settings.space.truthy then settings.space else .null

/-- **What the records of a logger carry by itself**, by the settings under
which it was obtained, if there were any. -/
def standing : Option Settings → Fields
  | some settings => setupContext settings
  | none => Fields.ofList [component]

theorem component_standing (bound : Option Settings) :
    (standing bound).get? "component" = some (.text "quicmetrics") := by
  cases bound with
  | none => rfl
  | some settings => exact get?_setupContext settings "component"

theorem namespace_standing (bound : Option Settings) :
    (standing bound).get? "namespace" = bound.map spaceOf := by
  cases bound with
  | none => rfl
  | some settings => exact get?_setupContext settings "namespace"

/-! ## Loggers -/

/-- A logger carries what it was given, and beside that what stands in its
setup. -/
theorem context_of_logger {state : Logging} {settings : Option Settings}
    (hactive : state.active.map LogSetup.context = settings.map setupContext) {name : String}
    {context : List (String × Value)} {logger : Logger}
    (hlogger : state.logger name context = .ok logger) :
    logger.context = (standing settings).update context := by
  unfold Logging.logger at hlogger
  split at hlogger
  · cases hlogger
  · split at hlogger
    · next hnone =>
      cases hlogger
      cases settings with
      | none => rfl
      | some settings => rw [hnone] at hactive; cases hactive
    · next setup hsome =>
      rw [hsome] at hactive
      cases settings with
      | none => cases hactive
      | some settings =>
        have hcontext : setup.context = setupContext settings := Option.some.inj hactive
        split at hlogger
        · cases hlogger
        · split at hlogger
          · split at hlogger
            · cases hlogger
            · cases hlogger
              rw [hcontext]
              rfl
          · cases hlogger
            rw [hcontext]
            rfl

theorem name_of_logger {state : Logging} {name : String} {context : List (String × Value)}
    {logger : Logger} (h : state.logger name context = .ok logger) : logger.name = name := by
  unfold Logging.logger at h
  repeat' split at h
  all_goals cases h
  all_goals rfl

/-- A setup that fails leaves the active one. -/
theorem active_of_setup_error {state : Logging} {settings : Settings} {handler : Option String}
    {fault : Fault} (herror : (state.setup settings handler).1 = .error fault) :
    (state.setup settings handler).2.active = state.active := by
  cases hstyle : styleOf settings.logFormatter with
  | error _ => simp only [setup, hstyle]
  | ok structured =>
    cases hlevel : levelOf settings.logLevel with
    | ok level => simp [setup, hstyle, hlevel] at herror
    | error _ =>
      cases handler <;> cases hactive : state.active <;>
        simp [setup, hstyle, hlevel, hactive, attachTo, detachFrom]

/-! ## Records -/

theorem get?_describeException {key : String} (hkey : key ∉ ["exc_info", "exception"])
    (entries : Fields) : (describeException entries).get? key = entries.get? key := by
  have hrest : (⟨entries.entries.filter fun e => e.1 != "exc_info"⟩ : Fields).get? key
      = entries.get? key := by
    simp only [Table.get?, List.find?_filter]
    congr 2
    funext e
    by_cases he : e.1 = key
    · simp_all
    · simp [he]
  unfold describeException
  split
  · rfl
  · dsimp only
    split
    · rw [Table.get?_put, if_neg (by simp_all), hrest]
    · exact hrest

/-- **A record says what its logger carries**, but for what the call gives
itself and for the fields that a structured record has of its own. -/
theorem field?_of_record {state : Logging} {stamp : String} {logger : Logger} {severity : Severity}
    {event : String} {fields : List (String × Value)} {r : LogRecord}
    (hrecord : state.record stamp logger severity event fields = .ok (some r)) {key : String}
    (hfree : key ∉ fields.map Prod.fst)
    (hown : key ∉ ["event", "level", "timestamp", "exc_info", "exception"]) :
    r.field? key = logger.context.get? key := by
  have hfields : ∀ entry ∈ fields, entry.1 ≠ key :=
    fun entry hmem heq => hfree (heq ▸ List.mem_map_of_mem hmem)
  unfold record at hrecord
  split at hrecord
  · cases hrecord
  · split at hrecord
    · split at hrecord
      · cases hrecord
        have hstamped : ∀ entry ∈ [("event", Value.text event), ("level", .text severity.name),
            ("timestamp", .text stamp)], entry.1 ≠ key := by
          simp only [List.mem_cons, List.not_mem_nil, or_false, not_or] at hown
          simp [Ne.symm hown.1, Ne.symm hown.2.1, Ne.symm hown.2.2.1]
        show (describeException _).get? key = _
        rw [get?_describeException (by simp_all), Fields.get?_update_of_forall_ne hstamped,
          Fields.get?_update_of_forall_ne hfields]
      · cases hrecord
    · unfold Logger.plainRecord? at hrecord
      split at hrecord
      · cases hrecord
        exact Fields.get?_update_of_forall_ne hfields _
      · cases hrecord

theorem exists_of_mem_records {state : Logging} {stamp : String} {logger : Logger}
    {severity : Severity} {event : String} {fields : List (String × Value)} {r : LogRecord}
    (hmem : r ∈ state.records stamp logger severity event fields) :
    state.record stamp logger severity event fields = .ok (some r) := by
  unfold records at hmem
  split at hmem
  · next heq =>
    rw [List.mem_singleton.mp hmem]
    exact heq
  · cases hmem

end Logging

/-! ## Facades -/

namespace Facade

/-- **A facade that was just built**, over whichever store: it has the logger that it was
built with, and has logged through it that it was built. -/
theorem eq_of_build {store : Store} {flags : Flags} {space : Value} {logging : Logging}
    {stamp : String} {logger : Logger} {facade : Facade} {records : List LogRecord}
    (hbuild : (build store flags space logging stamp logger).1 = .ok (facade, records)) :
    facade = { flags, space := space.space?, registered := Catalogue.permitted flags, logger }
      ∧ records = logging.records stamp logger .debug "metrics.registered"
        (builtFields space flags facade.registered.length) := by
  unfold build at hbuild
  dsimp only at hbuild
  split at hbuild
  · cases hbuild
  · split at hbuild
    · cases hbuild
    · cases hbuild
      exact ⟨rfl, rfl⟩

/-- What is logged in the course of a report. -/
def reported (facade : Facade) (store : Store) (logging : Logging) (stamp : String)
    (event : Event) : List LogRecord :=
  match (facade.report store logging stamp event).1 with
  | .ok response => response.records
  | .error _ => []

theorem logger_countDrop (facade : Facade) (event : Event) :
    (facade.countDrop event).logger = facade.logger := by
  cases event <;> rfl

/-- A facade keeps its logger whatever is reported to it. -/
theorem logger_of_report (facade : Facade) (store : Store) (logging : Logging) (stamp : String)
    (event : Event) : (facade.report store logging stamp event).2.1.logger = facade.logger := by
  unfold report
  split
  · rfl
  · split
    · rfl
    · split
      · exact facade.logger_countDrop event
      · split <;> rfl

/-- A report logs nothing but a drop, through the logger of the facade. -/
theorem of_mem_reported {facade : Facade} {store : Store} {logging : Logging} {stamp : String}
    {event : Event} {r : LogRecord} (hmem : r ∈ facade.reported store logging stamp event) :
    ∃ peer n, r ∈ logging.records stamp facade.logger .debug "metrics.peer_ip.unreducible"
      (dropFields event peer n) := by
  unfold reported report at hmem
  split at hmem
  · next heq =>
    split at heq
    · cases heq
    · split at heq
      · cases heq
        cases hmem
      · split at heq
        · next peer _ =>
          cases heq
          dsimp only at hmem
          split at hmem
          · rw [logger_countDrop] at hmem
            exact ⟨peer, _, hmem⟩
          · cases hmem
        · split at heq
          · cases heq
          · cases heq
            cases hmem
  · cases hmem

end Facade

/-! ## Processes that log -/

/-- **A logger that is held**, and how it was come by. -/
structure HeldLogger where
  /-- The logger. -/
  logger : Logger
  /-- The names of the fields that it was given. -/
  given : List String
  /-- The settings in force when it was obtained. -/
  bound : Option Settings

/-- A facade that is held, and the settings in force when it was built. -/
structure HeldFacade where
  /-- The facade. -/
  facade : Facade
  /-- The settings in force when it was built. -/
  bound : Option Settings

/-- The logger of a facade, which was given no fields. -/
def HeldFacade.held (entry : HeldFacade) : HeldLogger := ⟨entry.facade.logger, [], entry.bound⟩

/-- **A record that was made**, and where it comes from. -/
structure Emission where
  /-- The record. -/
  record : LogRecord
  /-- The names of the fields that its logger and its call were given. -/
  given : List String
  /-- The settings under which its logger was obtained. -/
  bound : Option Settings
  /-- The settings in force when it was made. -/
  inForce : Option Settings

/-- **A process that logs**: its loggers and its facades, the oldest first. -/
structure LoggingProcess where
  /-- The logging state. -/
  logging : Logging
  /-- The settings of the latest setup, if there was one since the last
  shutdown. -/
  inForce : Option Settings := none
  /-- The loggers it holds. -/
  loggers : List HeldLogger := []
  /-- The facades it holds. -/
  facades : List HeldFacade := []
  /-- The records made so far. -/
  emitted : List Emission := []

/-- **What happens in a process that logs.** The store of a facade may be in
any state whenever something is reported. -/
inductive LoggingAction where
  /-- The logging is set up. -/
  | setup (settings : Settings) (handler : Option String)
  /-- The logging is shut down. -/
  | shutdown
  /-- A logger is obtained. -/
  | obtain (name : String) (context : List (String × Value))
  /-- A facade is built. -/
  | build (stamp : String) (store : Store) (flags : Flags) (space : Value)
  /-- Something is reported to one of the facades. -/
  | report (n : Nat) (stamp : String) (store : Store) (event : Event)
  /-- Something is logged by one of the loggers, at the level of a word. -/
  | log (n : Nat) (stamp word event : String) (fields : List (String × Value))

/-- Whether something leaves the settings in force. -/
def LoggingAction.leavesSettings : LoggingAction → Bool
  | .setup .. | .shutdown => false
  | _ => true

namespace LoggingProcess

/-- The process in which a logger has made some records. -/
def emit (process : LoggingProcess) (held : HeldLogger) (names : List String)
    (records : List LogRecord) :
    LoggingProcess :=
  { process with
    emitted := process.emitted
      ++ records.map fun r => ⟨r, held.given ++ names, held.bound, process.inForce⟩ }

/-- **The process after something happened.** A setup that fails leaves the
settings in force, and what is asked of a logger or a facade that nobody holds
does nothing. -/
def step (process : LoggingProcess) : LoggingAction → LoggingProcess
  | .setup settings handler =>
    let (outcome, logging) := process.logging.setup settings handler
    match outcome with
    | .ok () => { process with logging, inForce := some settings }
    | .error _ => { process with logging }
  | .shutdown => { process with logging := process.logging.shutdown, inForce := none }
  | .obtain name context =>
    match process.logging.logger name context with
    | .ok logger =>
      { process with
        loggers := process.loggers ++ [⟨logger, context.map Prod.fst, process.inForce⟩] }
    | .error _ => process
  | .build stamp store flags space =>
    match process.logging.logger Facade.loggerName [] with
    | .ok logger =>
      match (Facade.build store flags space process.logging stamp logger).1 with
      | .ok (facade, records) =>
        let entry : HeldFacade := ⟨facade, process.inForce⟩
        { process with facades := process.facades ++ [entry] }.emit entry.held
          ((Facade.builtFields space flags facade.registered.length).map Prod.fst) records
      | .error _ => process
    | .error _ => process
  | .report n stamp store event =>
    match process.facades[n]? with
    | some entry =>
      let facade := (entry.facade.report store process.logging stamp event).2.1
      { process with facades := process.facades.set n { entry with facade } }.emit entry.held
        ["metric", "address_type", "dropped"]
        (entry.facade.reported store process.logging stamp event)
    | none => process
  | .log n stamp word event fields =>
    match process.loggers[n]? with
    | some held =>
      match held.logger.severityOf word with
      | .ok severity =>
        match process.logging.record stamp held.logger severity event fields with
        | .ok (some r) => process.emit held (fields.map Prod.fst) [r]
        | _ => process
      | .error _ => process
    | none => process

/-- **The process after everything that happened.** -/
def run (process : LoggingProcess) (actions : List LoggingAction) : LoggingProcess :=
  actions.foldl step process

end LoggingProcess

/-! ## What holds in every process -/

/-- The names that the standing part of a context is under. -/
def standingNames : List String := ["component", "namespace"]

/-- A logger carries what stood in the settings under which it was obtained. -/
def HeldLogger.Carries (held : HeldLogger) : Prop :=
  ∀ key ∈ standingNames, key ∉ held.given →
    held.logger.context.get? key = (Logging.standing held.bound).get? key

/-- A record carries what stood in the settings under which its logger was
obtained. -/
def Emission.Carries (e : Emission) : Prop :=
  ∀ key ∈ standingNames, key ∉ e.given →
    e.record.field? key = (Logging.standing e.bound).get? key

theorem Emission.Carries.component {e : Emission} (h : e.Carries) (hfree : "component" ∉ e.given) :
    e.record.field? "component" = some (.text "quicmetrics") :=
  (h "component" (by decide) hfree).trans (Logging.component_standing e.bound)

theorem Emission.Carries.space {e : Emission} (h : e.Carries) (hfree : "namespace" ∉ e.given) :
    e.record.field? "namespace" = e.bound.map Logging.spaceOf :=
  (h "namespace" (by decide) hfree).trans (Logging.namespace_standing e.bound)

/-- A logger that is obtained now carries what stands in the settings in
force. -/
theorem HeldLogger.carries_of_logger {state : Logging} {settings : Option Settings}
    (hactive : state.active.map LogSetup.context = settings.map Logging.setupContext)
    {name : String} {context : List (String × Value)} {logger : Logger}
    (hlogger : state.logger name context = .ok logger) :
    HeldLogger.Carries ⟨logger, context.map Prod.fst, settings⟩ := by
  intro key _ hfree
  show logger.context.get? key = _
  rw [Logging.context_of_logger hactive hlogger]
  refine Fields.get?_update_of_forall_ne (fun entry hmem heq => hfree ?_) _
  exact List.mem_map.mpr ⟨entry, hmem, heq⟩

/-- What a logger carries, its records carry. -/
theorem HeldLogger.Carries.record {held : HeldLogger} (h : held.Carries) {state : Logging}
    {stamp : String} {severity : Severity} {event : String} {fields : List (String × Value)}
    {r : LogRecord} (hrecord : state.record stamp held.logger severity event fields = .ok (some r))
    (inForce : Option Settings) :
    Emission.Carries ⟨r, held.given ++ fields.map Prod.fst, held.bound, inForce⟩ := by
  intro key hkey hfree
  obtain ⟨hgiven, hfields⟩ := not_or.mp (mt List.mem_append.mpr hfree)
  have hown : ∀ name ∈ standingNames,
      name ∉ ["event", "level", "timestamp", "exc_info", "exception"] := by decide
  exact (Logging.field?_of_record hrecord hfields (hown key hkey)).trans (h key hkey hgiven)

namespace LoggingProcess

/-- **Something holds of all that a process has**: of each logger, that of a
facade included, and of each record. -/
structure All (P : HeldLogger → Prop) (Q : Emission → Prop) (process : LoggingProcess) : Prop where
  /-- The loggers. -/
  loggers : ∀ held ∈ process.loggers, P held
  /-- The loggers of the facades. -/
  facades : ∀ entry ∈ process.facades, P entry.held
  /-- The records. -/
  emitted : ∀ e ∈ process.emitted, Q e

namespace All

variable {P : HeldLogger → Prop} {Q : Emission → Prop} {process : LoggingProcess}

theorem emit (h : process.All P Q) {held : HeldLogger} {names : List String}
    {records : List LogRecord}
    (hrecords : ∀ r ∈ records, Q ⟨r, held.given ++ names, held.bound, process.inForce⟩) :
    (process.emit held names records).All P Q := by
  refine ⟨h.loggers, h.facades, fun e he => ?_⟩
  rcases List.mem_append.mp he with he | he
  · exact h.emitted e he
  · obtain ⟨r, hr, rfl⟩ := List.mem_map.mp he
    exact hrecords r hr

theorem hold (h : process.All P Q) {held : HeldLogger} (hheld : P held) :
    All P Q { process with loggers := process.loggers ++ [held] } := by
  refine ⟨fun other hmem => ?_, h.facades, h.emitted⟩
  rcases List.mem_append.mp hmem with hmem | hmem
  · exact h.loggers other hmem
  · exact List.mem_singleton.mp hmem ▸ hheld

theorem holdFacades (h : process.All P Q) {entries : List HeldFacade}
    (hentries : ∀ entry ∈ entries, P entry.held) :
    All P Q { process with facades := entries } :=
  ⟨h.loggers, hentries, h.emitted⟩

/-- **One step**: it is enough that something holds of the loggers obtained now,
and of the records that a logger makes of which it holds. -/
theorem step (h : process.All P Q)
    (hobtain : ∀ name context logger, process.logging.logger name context = .ok logger →
      P ⟨logger, context.map Prod.fst, process.inForce⟩)
    (hrecord : ∀ (held : HeldLogger) stamp severity event fields r, P held →
      process.logging.record stamp held.logger severity event fields = .ok (some r) →
      Q ⟨r, held.given ++ fields.map Prod.fst, held.bound, process.inForce⟩)
    (action : LoggingAction) : (process.step action).All P Q := by
  cases action with
  | setup settings handler =>
    unfold LoggingProcess.step
    dsimp only
    split <;> exact ⟨h.loggers, h.facades, h.emitted⟩
  | shutdown => exact ⟨h.loggers, h.facades, h.emitted⟩
  | obtain name context =>
    unfold LoggingProcess.step
    dsimp only
    split
    · next hlogger => exact h.hold (hobtain _ _ _ hlogger)
    · exact h
  | build stamp store flags space =>
    unfold LoggingProcess.step
    dsimp only
    split
    · next logger hlogger =>
      split
      · next facade records hbuild =>
        obtain ⟨rfl, rfl⟩ := Facade.eq_of_build hbuild
        have hheld : P ⟨logger, [], process.inForce⟩ := hobtain _ _ _ hlogger
        refine (h.holdFacades fun entry hmem => ?_).emit fun r hr => ?_
        · rcases List.mem_append.mp hmem with hmem | hmem
          · exact h.facades entry hmem
          · exact List.mem_singleton.mp hmem ▸ hheld
        · exact hrecord _ _ _ _ _ _ hheld (Logging.exists_of_mem_records hr)
      · exact h
    · exact h
  | report n stamp store event =>
    unfold LoggingProcess.step
    dsimp only
    split
    · next entry hentry =>
      have hheld : P entry.held := h.facades entry (List.mem_of_getElem? hentry)
      refine (h.holdFacades fun other hmem => ?_).emit fun r hr => ?_
      · rcases List.mem_or_eq_of_mem_set hmem with hmem | rfl
        · exact h.facades other hmem
        · unfold HeldFacade.held
          dsimp only
          rw [Facade.logger_of_report]
          exact hheld
      · obtain ⟨peer, dropped, hr⟩ := Facade.of_mem_reported hr
        exact hrecord _ _ _ _ _ _ hheld (Logging.exists_of_mem_records hr)
    · exact h
  | log n stamp word event fields =>
    unfold LoggingProcess.step
    dsimp only
    split
    · next held hheld =>
      split
      · split
        · next r hr =>
          refine h.emit fun other hmem => ?_
          rw [List.mem_singleton.mp hmem]
          exact hrecord _ _ _ _ _ _ (h.loggers held (List.mem_of_getElem? hheld)) hr
        · exact h
      · exact h
    · exact h

end All

/-- **What holds in a process**: its loggers and its records carry what stood in
the settings under which they were obtained, and new loggers are bound to the
settings in force. -/
structure Carries (process : LoggingProcess) : Prop where
  /-- What the active setup gives to loggers is what stands in the settings in
  force. -/
  active : process.logging.active.map LogSetup.context = process.inForce.map Logging.setupContext
  /-- The loggers and the records. -/
  all : process.All HeldLogger.Carries Emission.Carries

variable {process : LoggingProcess}

/-- The active setup is that of the settings in force. -/
theorem active_step
    (h : process.logging.active.map LogSetup.context = process.inForce.map Logging.setupContext)
    (action : LoggingAction) :
    (process.step action).logging.active.map LogSetup.context
      = (process.step action).inForce.map Logging.setupContext := by
  cases action with
  | setup settings handler =>
    unfold step
    dsimp only
    split
    · next hok =>
      obtain ⟨⟨structured, hset⟩, -⟩ := Logging.setUp_setup hok
      rw [hset.active]
      rfl
    · next herror =>
      dsimp only
      rw [Logging.active_of_setup_error herror]
      exact h
  | shutdown => exact congrArg _ (Logging.active_shutdown process.logging)
  | _ =>
    unfold step
    dsimp only
    repeat' split
    all_goals exact h

theorem Carries.step (h : process.Carries) (action : LoggingAction) :
    (process.step action).Carries :=
  ⟨active_step h.active action,
    h.all.step (fun _ _ _ hlogger => HeldLogger.carries_of_logger h.active hlogger)
      (fun _ _ _ _ _ _ hheld hrecord => hheld.record hrecord _) action⟩

theorem Carries.run (h : process.Carries) (actions : List LoggingAction) :
    (process.run actions).Carries := by
  induction actions generalizing process with
  | nil => exact h
  | cons action rest ih => exact ih (h.step action)

/-- Before anything happened, there is nothing that could carry anything. -/
theorem carries_start {logging : Logging} (hactive : logging.active = none) :
    Carries { logging } :=
  ⟨congrArg _ hactive, nofun, nofun, nofun⟩

/-! ## One setup for all -/

/-- **All that a process has is under the settings in force.** -/
structure Under (settings : Settings) (process : LoggingProcess) : Prop where
  /-- The settings are in force. -/
  inForce : process.inForce = some settings
  /-- The loggers and the records are under them. -/
  all : process.All (fun held => held.bound = some settings)
    fun e => e.bound = some settings ∧ e.inForce = some settings

theorem inForce_step {action : LoggingAction} (hleaves : action.leavesSettings = true) :
    (process.step action).inForce = process.inForce := by
  cases action with
  | setup => cases hleaves
  | shutdown => cases hleaves
  | _ =>
    unfold step
    dsimp only
    repeat' split
    all_goals rfl

theorem Under.step {settings : Settings} (h : process.Under settings) {action : LoggingAction}
    (hleaves : action.leavesSettings = true) : (process.step action).Under settings :=
  ⟨(inForce_step hleaves).trans h.inForce,
    h.all.step (fun _ _ _ _ => h.inForce)
      (fun _ _ _ _ _ _ hheld _ => ⟨hheld, h.inForce⟩) action⟩

theorem Under.run {settings : Settings} (h : process.Under settings) {actions : List LoggingAction}
    (hleave : ∀ action ∈ actions, action.leavesSettings = true) :
    (process.run actions).Under settings := by
  induction actions generalizing process with
  | nil => exact h
  | cons action rest ih =>
    exact ih (h.step (hleave _ List.mem_cons_self)) fun o ho => hleave o (List.mem_cons_of_mem _ ho)

/-- **Where the logging is set up before any logger is obtained, and not again,**
every record carries the component and the namespace that was set up. -/
theorem carried_since_setup {logging : Logging} (hactive : logging.active = none)
    {settings : Settings} {handler : Option String}
    (hok : (logging.setup settings handler).1 = .ok ()) {actions : List LoggingAction}
    (hleave : ∀ action ∈ actions, action.leavesSettings = true) :
    ∀ e ∈ (LoggingProcess.run { logging } (.setup settings handler :: actions)).emitted,
      ("component" ∉ e.given → e.record.field? "component" = some (.text "quicmetrics"))
      ∧ ("namespace" ∉ e.given → e.record.field? "namespace" = some (Logging.spaceOf settings)) := by
  intro e he
  have hcarries := ((carries_start hactive).run (.setup settings handler :: actions)).all.emitted
    e he
  have hunder : Under settings (LoggingProcess.step { logging } (.setup settings handler)) := by
    unfold step
    simp only [hok]
    exact ⟨rfl, nofun, nofun, nofun⟩
  have hbound : e.bound = some settings := ((hunder.run hleave).all.emitted e he).1
  refine ⟨hcarries.component, fun hfree => ?_⟩
  rw [hcarries.space hfree, hbound]
  rfl

/-! ## Any order -/

/-- **What records carry, whatever happens**: the component, and the namespace
of the settings under which their logger was obtained, none if there were none.
While a setup is active that is the namespace in force exactly if the logger was
obtained under settings of the same one. Only fields that the caller gives can
take their place. -/
theorem carried_after {logging : Logging} (hactive : logging.active = none)
    (actions : List LoggingAction) :
    ∀ e ∈ (LoggingProcess.run { logging } actions).emitted,
      ("component" ∉ e.given → e.record.field? "component" = some (.text "quicmetrics"))
      ∧ ("namespace" ∉ e.given →
        e.record.field? "namespace" = e.bound.map Logging.spaceOf
        ∧ ∀ settings, e.inForce = some settings →
          (e.record.field? "namespace" = some (Logging.spaceOf settings)
            ↔ e.bound.map Logging.spaceOf = some (Logging.spaceOf settings))) := by
  intro e he
  have hcarries := ((carries_start hactive).run actions).all.emitted e he
  refine ⟨hcarries.component, fun hfree => ⟨hcarries.space hfree, fun settings _ => ?_⟩⟩
  rw [hcarries.space hfree]

/-- A logger obtained under settings, and used under them, carries the
component and the namespace. -/
theorem carried_after_setup :
    let settings : Settings := ⟨.text "memory", .text "edge", .null, .text "quicmetrics",
      .text "stdlib", .text "json", .text "INFO"⟩
    let actions : List LoggingAction := [.setup settings (some "handler"),
      .obtain metricsLogger [], .log 0 "now" "info" "metrics.registered" []]
    ∃ e, (LoggingProcess.run { logging := {} } actions).emitted = [e]
      ∧ e.inForce = some settings
      ∧ e.record.field? "component" = some (.text "quicmetrics")
      ∧ e.record.field? "namespace" = some (.text "edge") := by
  intro settings actions
  obtain ⟨e, he, hforce, hgiven, hbound⟩ :
      ∃ e, (LoggingProcess.run { logging := {} } actions).emitted = [e]
        ∧ e.inForce = some settings ∧ e.given = [] ∧ e.bound = some settings :=
    ⟨_, rfl, rfl, rfl, rfl⟩
  have hfresh : ({} : Logging).active = none := rfl
  obtain ⟨hcomponent, hspace⟩ := carried_after hfresh actions e
    (he ▸ List.mem_singleton_self e)
  rw [hgiven, hbound] at hspace
  rw [hgiven] at hcomponent
  exact ⟨e, he, hforce, hcomponent List.not_mem_nil, (hspace List.not_mem_nil).1⟩

/-- **A logger obtained too early carries no namespace**, though its record is
made while a setup with one is active, and one obtained under an earlier setup
carries the namespace of that. -/
theorem carried_too_early :
    let settings (space : String) : Settings := ⟨.text "memory", .text space, .null,
      .text "quicmetrics", .text "stdlib", .text "json", .text "INFO"⟩
    let actions : List LoggingAction := [.obtain metricsLogger [],
      .setup (settings "edge") (some "handler"), .log 0 "now" "warning" "late" [],
      .obtain metricsLogger [], .setup (settings "core") (some "handler"),
      .log 1 "now" "warning" "late" []]
    ∃ first second, (LoggingProcess.run { logging := {} } actions).emitted = [first, second]
      ∧ (first.inForce = some (settings "edge") ∧ first.given = []
        ∧ first.record.field? "namespace" = none)
      ∧ (second.inForce = some (settings "core") ∧ second.given = []
        ∧ second.record.field? "namespace" = some (.text "edge")) :=
  ⟨_, _, rfl, ⟨rfl, rfl, rfl⟩, rfl, rfl, rfl⟩

end LoggingProcess

end QuicTelemetry
