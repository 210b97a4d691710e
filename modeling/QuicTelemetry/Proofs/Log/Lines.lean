import QuicTelemetry.Log.Line
import QuicTelemetry.Proofs.Log.Context
import QuicTelemetry.Proofs.Log.JsonLine
import QuicTelemetry.Proofs.Log.JsonRoundTrip

/-!
# What a JSON line says

The JSON line of a plain record is one mapping, written three times over: first
come the entries of the record's own – the moment, the severity, the name of the
logger and the event – then its fields, then the exception. **It is one line of
printable characters whatever the record contains, and reading it gives the
mapping back** (`LogLine.Plain.read_json`). Of which records there is a line is
said in `QuicTelemetry.Proofs.Log.Writing`.

Being written over, an entry of the record's own stands only if no field has its
name. The fields are those that the logger was given and those of the call, and
of the latter alone none can be named after the event
(`Logging.own_of_json_line`). So a logger that was given an event, or a call that
has a field for the severity, makes lines that say something else than the record
(`Logging.own_masked`). In a structured record the order is the other way round.
-/

namespace QuicTelemetry

/-! ## Plain records -/

namespace LogLine.Plain

/-- **The entries of a record's own.** -/
def own (p : Plain) : List (String × Value) :=
  [("timestamp", .text p.stamp), ("level", .text (Text.lower (severityName p.level))),
    ("logger", .text p.logger), ("event", .text p.event)]

/-- The entry of the exception, if there is one. -/
def raised (p : Plain) : List (String × Value) :=
  (p.failure.map fun description => ("exception", .text description)).toList

/-- The entries of a record are its own with the fields written over them, and
the exception over those. -/
theorem entries_eq (p : Plain) : p.entries = Fields.ofList (p.own ++ p.fields ++ p.raised) := by
  rw [Fields.ofList, Fields.update_append, Fields.update_append]
  unfold entries raised
  cases p.failure <;> rfl

theorem nodup_keys_entries (p : Plain) : p.entries.keys.Nodup :=
  p.entries_eq ▸ Fields.nodup_keys_ofList _

theorem last?_raised (p : Plain) (key : String) :
    Fields.last? p.raised key = if key = "exception" then p.failure.map .text else none := by
  unfold raised
  cases p.failure with
  | none => simp
  | some description =>
    exact Fields.last?_singleton ("exception", .text description) key

/-- **What a record says under a key**: the exception under its own, or else the
last field of that name, or else what is the record's own. -/
theorem get?_entries (p : Plain) (key : String) :
    p.entries.get? key = (if key = "exception" then p.failure.map .text else none).or
      ((Fields.last? p.fields key).or (Fields.last? p.own key)) := by
  rw [entries_eq, Fields.get?_ofList, Fields.last?_append, Fields.last?_append, last?_raised]

/-- The values of a record come back from their JSON texts if those of its
fields do. -/
theorem isJson_entries {p : Plain} (hfields : ∀ field ∈ p.fields, field.2.IsJson) :
    ∀ entry ∈ p.entries.entries, entry.2.IsJson := by
  rw [entries_eq]
  refine Fields.forall_mem_update nofun fun entry hentry => ?_
  rcases List.mem_append.mp hentry with hentry | hraised
  · rcases List.mem_append.mp hentry with hown | hfield
    · simp only [own, List.mem_cons, List.not_mem_nil, or_false] at hown
      rcases hown with rfl | rfl | rfl | rfl <;> exact .text _
    · exact hfields entry hfield
  · obtain ⟨description, -, rfl⟩ := Option.map_eq_some_iff.mp (Option.mem_toList.mp hraised)
    exact .text _

theorem lower_severityName (severity : Severity) :
    Text.lower (severityName severity.number) = severity.name := by
  cases severity <;> decide

/-- **An entry of a record's own stands**, unless a field has its name. -/
theorem get?_own (p : Plain) {entry : String × Value} (hentry : entry ∈ p.own) :
    p.entries.get? entry.1 = some ((Fields.last? p.fields entry.1).getD entry.2) := by
  have hown : entry.1 ≠ "exception" ∧ Fields.last? p.own entry.1 = some entry.2 := by
    simp only [own, List.mem_cons, List.not_mem_nil, or_false] at hentry
    rcases hentry with rfl | rfl | rfl | rfl <;> exact ⟨by simp, rfl⟩
  rw [get?_entries, if_neg hown.1, Option.none_or, hown.2]
  cases Fields.last? p.fields entry.1 <;> rfl

end LogLine.Plain

/-! ## Records of plain loggers -/

namespace Logging

/-- Whether the active setup, if there is one, gives loggers what stands in some
settings. -/
def IsSetUp (state : Logging) : Prop :=
  ∃ settings : Option Settings,
    state.active.map LogSetup.context = settings.map setupContext

theorem IsSetUp.run {state : Logging} (h : state.IsSetUp) (action : HandlerAction) :
    (action.run state).IsSetUp := by
  cases action with
  | setup settings handler =>
    cases hsetup : (state.setup settings handler).1 with
    | ok =>
      obtain ⟨⟨structured, hset⟩, -⟩ := setUp_setup hsetup
      exact ⟨some settings, congrArg (Option.map LogSetup.context) hset.active⟩
    | error fault =>
      rw [IsSetUp, HandlerAction.run, active_of_setup_error hsetup]
      exact h
  | shutdown => exact ⟨none, congrArg (Option.map LogSetup.context) (active_shutdown state)⟩
  | attach handler | detach handler => exact h

/-- **It does after any actions**, setups that fail included. -/
theorem IsSetUp.runAll {state : Logging} (h : state.IsSetUp) (actions : List HandlerAction) :
    (HandlerAction.runAll state actions).IsSetUp := by
  induction actions generalizing state with
  | nil => exact h
  | cons action actions ih => exact ih (h.run action)

/-- What a plain logger makes of an event has what it was given and what the call
gave as its fields, and no field of the call is named after the event. -/
theorem plain_of_record {state : Logging} {stamp : String} {logger : Logger}
    (hplain : logger.structured = false) {severity : Severity} {event : String}
    {fields : List (String × Value)} {r : LogRecord}
    (hrecord : state.record stamp logger severity event fields = .ok (some r)) :
    "event" ∉ fields.map Prod.fst
      ∧ r = ⟨logger.name, severity, .plain event (logger.context.update fields)⟩ := by
  unfold record at hrecord
  split at hrecord
  · cases hrecord
  · next htaken =>
    rw [hplain] at htaken hrecord
    have hevent : "event" ∉ fields.map Prod.fst := by
      intro hmem
      obtain ⟨entry, hentry, heq⟩ := List.mem_map.mp hmem
      refine htaken (List.any_eq_true.mpr ⟨entry, hentry, ?_⟩)
      rw [heq]
      rfl
    unfold Logger.plainRecord? at hrecord
    simp only [Bool.false_eq_true, if_false] at hrecord
    split at hrecord
    · exact ⟨hevent, (Option.some.inj (Except.ok.inj hrecord)).symm⟩
    · cases hrecord

theorem nodup_keys_standing (bound : Option Settings) : (standing bound).keys.Nodup := by
  cases bound <;> exact Fields.nodup_keys_ofList _

theorem get?_standing_of_notMem {key : String} (hkey : key ∉ standingNames)
    (bound : Option Settings) : (standing bound).get? key = none := by
  simp only [standingNames, List.mem_cons, List.not_mem_nil, or_false, not_or] at hkey
  cases bound with
  | none =>
    rw [standing, Fields.get?_ofList, Fields.last?_singleton]
    exact if_neg hkey.1
  | some settings =>
    rw [standing, get?_setupContext, if_neg hkey.2, if_neg hkey.1]

/-- **What a record carries under a name** that stands in no setup: the last of the
fields that its logger was given and of those of the call. -/
theorem last?_carried {state : Logging} {settings : Option Settings}
    (hactive : state.active.map LogSetup.context = settings.map setupContext) {name : String}
    {context : List (String × Value)} {logger : Logger}
    (hlogger : state.logger name context = .ok logger) (fields : List (String × Value))
    {key : String} (hkey : key ∉ standingNames) :
    Fields.last? (logger.context.update fields).entries key
      = Fields.last? (context ++ fields) key := by
  have hcarried : logger.context.update fields
      = (standing settings).update (context ++ fields) := by
    rw [context_of_logger hactive hlogger, Fields.update_append]
  have hnodup := Fields.nodup_keys_update (nodup_keys_standing settings) (context ++ fields)
  rw [hcarried, Fields.last?_entries hnodup, Fields.get?_update,
    get?_standing_of_notMem hkey, Option.or_none]

/-- **What a JSON line says is the record's own, unless a field is in the way.** An
entry of its own stands if no field has its name, or if the last one that does says
the same. For a record of a plain logger, whenever it was obtained, these fields are
what the logger was given and then those of the call, none of which can be named
after the event. -/
theorem own_of_json_line (p : LogLine.Plain) :
    (∀ entry ∈ p.own,
      p.entries.get? entry.1 = some ((Fields.last? p.fields entry.1).getD entry.2)
      ∧ (p.entries.get? entry.1 = some entry.2
        ↔ ∀ v, Fields.last? p.fields entry.1 = some v → v = entry.2))
    ∧ ∀ {start : Logging}, start.active = none → ∀ {actions : List HandlerAction} {name : String}
      {context : List (String × Value)} {logger : Logger},
      (HandlerAction.runAll start actions).logger name context = .ok logger →
      logger.structured = false →
      ∀ {state : Logging} {stamp : String} {severity : Severity} {event : String}
        {fields : List (String × Value)} {r : LogRecord},
      state.record stamp logger severity event fields = .ok (some r) →
      p = { LogLine.asPlain stamp r with stamp := stamp ++ "Z" } →
        LogLine.render .plainJson stamp r = .ok p.json
        ∧ p.own = [("timestamp", .text (stamp ++ "Z")), ("level", .text severity.name),
          ("logger", .text name), ("event", .text event)]
        ∧ (∀ entry ∈ p.own,
          Fields.last? p.fields entry.1 = Fields.last? (context ++ fields) entry.1)
        ∧ "event" ∉ fields.map Prod.fst := by
  refine ⟨fun entry hentry => ?_, ?_⟩
  · rw [p.get?_own hentry]
    refine ⟨rfl, ?_⟩
    cases Fields.last? p.fields entry.1 <;> simp
  · intro start hactive actions name context logger hlogger hplain state stamp severity event
      fields r hrecord hline
    obtain ⟨hevent, rfl⟩ := plain_of_record hplain hrecord
    have hstart : start.IsSetUp := ⟨none, congrArg (Option.map LogSetup.context) hactive⟩
    obtain ⟨settings, hsettings⟩ := hstart.runAll actions
    obtain rfl := name_of_logger hlogger
    have hown : p.own = [("timestamp", .text (stamp ++ "Z")), ("level", .text severity.name),
        ("logger", .text logger.name), ("event", .text event)] := by
      rw [hline, LogLine.Plain.own]
      dsimp only [LogLine.asPlain]
      rw [LogLine.Plain.lower_severityName]
    have hfree : ∀ key ∈ ["timestamp", "level", "logger", "event"], key ∉ standingNames := by
      decide
    refine ⟨hline ▸ rfl, hown, fun entry hentry => ?_, hevent⟩
    have hkey : entry.1 ∉ standingNames := hfree _ (List.mem_map_of_mem (f := Prod.fst) hentry)
    rw [hline]
    exact last?_carried hsettings hlogger fields hkey

/-- A field of the call and a name among what the logger was given: the severity of
the line is that of the field, its event that of the logger. -/
theorem own_of_json_line_masked :
    let settings : Settings := ⟨.text "memory", .text "edge", .null, .text "quicmetrics",
      .text "stdlib", .text "json", .text "INFO"⟩
    let state := (({} : Logging).setup settings (some "handler")).2
    ∃ logger r p, state.logger metricsLogger [("event", .text "other")] = .ok logger
      ∧ state.record "now" logger .info "started" [("level", .text "fatal")] = .ok (some r)
      ∧ LogLine.render .plainJson "now" r = .ok (LogLine.Plain.json p)
      ∧ p.entries.get? "level" = some (.text "fatal")
      ∧ p.entries.get? "event" = some (.text "other")
      ∧ p.entries.get? "timestamp" = some (.text "nowZ") := by
  intro settings state
  obtain ⟨logger, hlogger, hplain⟩ : ∃ logger,
      state.logger metricsLogger [("event", .text "other")] = .ok logger
        ∧ logger.structured = false := ⟨_, rfl, rfl⟩
  obtain ⟨r, hrecord⟩ : ∃ r, state.record "now" logger .info "started" [("level", .text "fatal")]
      = .ok (some r) := by
    cases hlogger
    exact ⟨_, rfl⟩
  have hreached : (HandlerAction.runAll {} [.setup settings (some "handler")]).logger metricsLogger
      [("event", .text "other")] = .ok logger := hlogger
  let p : LogLine.Plain := { LogLine.asPlain "now" r with stamp := "now" ++ "Z" }
  obtain ⟨hstands, hlogged⟩ := own_of_json_line p
  obtain ⟨hline, hown, hlast, -⟩ := hlogged rfl hreached hplain hrecord rfl
  have hshown (entry : String × Value) (hentry : entry ∈ p.own) : p.entries.get? entry.1
      = some ((Fields.last? [("event", .text "other"), ("level", .text "fatal")] entry.1).getD
        entry.2) := by
    rw [(hstands entry hentry).1, hlast entry hentry]
    rfl
  rw [hown] at hshown
  refine ⟨logger, r, p, hlogger, hrecord, hline, ?_, ?_, ?_⟩
  · exact hshown ("level", .text "info") (by simp [Severity.name])
  · exact hshown ("event", .text "started") (by simp)
  · exact hshown ("timestamp", .text "nowZ") (by simp)

/-- **A field masks what is the record's own**: the line of a record that says
`started` for information is read as one that says `other`, at a severity that
there is none of. -/
theorem own_masked :
    let p : LogLine.Plain := ⟨"now", 20, "quicmetrics", "started",
      [("event", .text "other"), ("level", .text "fatal")], none⟩
    ("level", Value.text "info") ∈ p.own ∧ ("event", .text "started") ∈ p.own
      ∧ ∃ entries : Fields, Json.read? p.json = some (.dict entries.entries)
        ∧ entries.get? "level" = some (.text "fatal")
        ∧ entries.get? "event" = some (.text "other") := by
  intro p
  have hlevel : Text.lower (severityName 20) = "info" := LogLine.Plain.lower_severityName .info
  have hfields : ∀ field ∈ p.fields, field.2.IsJson :=
    List.forall_mem_cons.mpr ⟨.text _, List.forall_mem_singleton.mpr (.text _)⟩
  refine ⟨?_, by simp [LogLine.Plain.own, p], p.entries, ?_, rfl, rfl⟩
  · simp [LogLine.Plain.own, p, hlevel]
  · exact Json.read?_object p.nodup_keys_entries (LogLine.Plain.isJson_entries hfields)

end Logging

end QuicTelemetry
