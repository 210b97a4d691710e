import QuicTelemetry.Log
import QuicTelemetry.Settings

/-!
# The logging state

Every logger has its own handlers. Setting up the logging attaches one handler
of ours to the logger `quicmetrics`, in the place of the one before. Handlers
that the application attached stay. Loggers made while a setup is active are
bound to it: to its style and to its namespace.
-/

namespace QuicTelemetry

/-- How lines are made of records. -/
inductive LineFormat where
  /-- A JSON object for each record of a plain logger. -/
  | plainJson
  /-- A line of text for each record of a plain logger. -/
  | plainText
  /-- A JSON object for each record of a structured logger. -/
  | structuredJson
  /-- A coloured line for each record of a structured logger. -/
  | structuredText
  deriving DecidableEq, Repr

/-- **A handler**, known by its name; the default handlers share a name and
are told apart by a number. -/
structure HandlerId where
  /-- The name. -/
  name : String
  /-- The number of a default handler. -/
  number : Nat := 0
  deriving DecidableEq, Repr

/-- The name of the default handlers. -/
def defaultHandlerName : String := "stderr"

/-- What the latest setup decided. -/
structure LogSetup where
  /-- Whether loggers are structured. -/
  structured : Bool
  /-- What their records carry. -/
  context : Fields
  /-- The handler that was attached. -/
  handler : HandlerId

/-- **The logging state** of a process. -/
structure Logging where
  /-- The level set on `quicmetrics`; zero if none is set. -/
  level : Nat := 0
  /-- The handlers of the loggers that have any, in order. -/
  handlers : Table String (List HandlerId) := .empty
  /-- The formats of the handlers that have one. -/
  formats : Table HandlerId LineFormat := .empty
  /-- What the latest setup decided, if there was one since the last
  shutdown. -/
  active : Option LogSetup := none
  /-- How many default handlers were made. -/
  defaults : Nat := 0

namespace Logging

instance : Inhabited Logging := ⟨{}⟩

/-! ## Levels -/

/-- What a word that names a level in capitals sets: a level, nothing that can
be set, or a thing of another kind. Any other word stands for the level of
information. -/
def levelOfWord (word : String) : Except Fault Nat :=
  match word with
  | "CRITICAL" | "FATAL" => .ok 50
  | "ERROR" => .ok 40
  | "WARNING" | "WARN" => .ok 30
  | "INFO" => .ok 20
  | "DEBUG" => .ok 10
  | "NOTSET" => .ok 0
  | "BASIC_FORMAT" => .error .malformed
  | "_STYLES" => .error .mistyped
  | _ => .ok 20

/-- The level a setting stands for, letter case aside. -/
def levelOf : Value → Except Fault Nat
  | .text s => levelOfWord (Text.asciiUpper s)
  | .bytes _ => .error .mistyped
  | _ => .error .absent

/-! ## Handlers -/

/-- The handlers with one attached, if it is not attached already. -/
def attach (handlers : List HandlerId) (handler : HandlerId) : List HandlerId :=
  if handlers.contains handler then handlers else handlers ++ [handler]

/-- The handlers with one detached. -/
def detach (handlers : List HandlerId) (handler : HandlerId) : List HandlerId :=
  handlers.filter fun h => decide (h ≠ handler)

/-- The handlers attached to a logger, in order. -/
def handlersOf (state : Logging) (logger : String) : List HandlerId :=
  (state.handlers.get? logger).getD []

/-- The handlers attached to `quicmetrics`, in order. -/
def attached (state : Logging) : List HandlerId := state.handlersOf metricsLogger

/-- **Attaches a handler to a logger.** -/
def attachTo (state : Logging) (logger : String) (handler : HandlerId) : Logging :=
  { state with handlers := state.handlers.put logger (attach (state.handlersOf logger) handler) }

/-- **Detaches a handler from a logger.** -/
def detachFrom (state : Logging) (logger : String) (handler : HandlerId) : Logging :=
  { state with handlers := state.handlers.put logger (detach (state.handlersOf logger) handler) }

/-- The styles of loggers, by the names in the settings. -/
def styles : List (String × Bool) := [("structlog", true), ("stdlib", false)]

/-- The style a setting stands for. -/
def styleOf (v : Value) : Except Fault Bool :=
  match v with
  | .text s =>
    match styles.lookup s with
    | some structured => .ok structured
    | none => .error (.unknownFormatter v (styles.map Prod.fst))
  | v => if v.isKey then .error (.unknownFormatter v (styles.map Prod.fst)) else .error .mistyped

/-- The format of a style: text if the setting says so, else JSON. -/
def formatOf (structured : Bool) (setting : Value) : LineFormat :=
  let isText := match setting with
    | .text s => s == "console"
    | _ => false
  match structured, isText with
  | true, true => .structuredText
  | true, false => .structuredJson
  | false, true => .plainText
  | false, false => .plainJson

/-- What the records of a setup carry: the component and the namespace. -/
def setupContext (settings : Settings) : Fields :=
  Fields.ofList
    [component, ("namespace", if settings.space.truthy then settings.space else .null)]

/-- **Sets the logging up**: our handler takes the place of the one before.
The level is looked at last, when the handler is attached already. -/
def setup (state : Logging) (settings : Settings) (handler : Option String) :
    Except Fault Unit × Logging :=
  match styleOf settings.logFormatter with
  | .error fault => (.error fault, state)
  | .ok structured =>
    let (id, state) : HandlerId × Logging := match handler with
      | some name => (⟨name, 0⟩, state)
      | none =>
        (⟨defaultHandlerName, state.defaults + 1⟩, { state with defaults := state.defaults + 1 })
    let formats := state.formats.put id (formatOf structured settings.logFormat)
    let state := match state.active with
      | some before => state.detachFrom metricsLogger before.handler
      | none => state
    -- the handlers have changed places even if the level is then refused
    let state := { state with formats }.attachTo metricsLogger id
    match levelOf settings.logLevel with
    | .error fault => (.error fault, state)
    | .ok level =>
      (.ok (), { state with level, active := some ⟨structured, setupContext settings, id⟩ })

/-- **Ends the logging**: our handler is detached, the level stays. -/
def shutdown (state : Logging) : Logging :=
  match state.active with
  | some setup => { state.detachFrom metricsLogger setup.handler with active := none }
  | none => state

/-! ## Loggers and records -/

/-- **A logger of the active style**, or a plain one if nothing is set up. A
structured one takes no context that the setup has already. -/
def logger (state : Logging) (name : String) (context : List (String × Value)) :
    Except Fault Logger :=
  if context.any fun entry => entry.1 == "name" then .error .mistyped
  else
    match state.active with
    | none => .ok (Logger.plain name context)
    | some setup =>
      if context.any fun entry => entry.1 == "self" then .error .mistyped
      else if setup.structured then
        if context.any fun entry => setup.context.has entry.1 then .error .mistyped
        else .ok ⟨name, true, setup.context.update context⟩
      else .ok ⟨name, false, setup.context.update context⟩

/-- What the fields of a structured record become: an exception under
`exc_info` is described at the end. -/
def describeException (entries : Fields) : Fields :=
  match entries.get? "exc_info" with
  | none => entries
  | some v =>
    let rest : Fields := ⟨entries.entries.filter fun e => e.1 != "exc_info"⟩
    match v with
    | .failure kind args => rest.put "exception" (.text (describeFailure kind args))
    | _ => rest

/-- The names that no field may have: those that the call of a logger has for
its own. -/
def takenNames (structured : Bool) : List String :=
  if structured then ["event", "self", "method_name"] else ["event", "self"]

/-- **The record a logger makes** of an event, if it is severe enough. The
time stamp of a structured record is part of it. -/
def record (state : Logging) (stamp : String) (logger : Logger) (severity : Severity)
    (event : String) (fields : List (String × Value)) : Except Fault (Option LogRecord) :=
  if fields.any fun entry => (takenNames logger.structured).contains entry.1 then .error .mistyped
  else if logger.structured then
    if threshold state.level logger.name ≤ severity.number then
      let entries := (logger.context.update fields).update
        [("event", .text event), ("level", .text severity.name), ("timestamp", .text stamp)]
      .ok (some ⟨logger.name, severity, .structured (describeException entries)⟩)
    else .ok none
  else .ok (logger.plainRecord? state.level severity event fields)

/-- The records a logger makes of an event of this library, whose fields no
logger refuses. -/
def records (state : Logging) (stamp : String) (logger : Logger) (severity : Severity)
    (event : String) (fields : List (String × Value)) : List LogRecord :=
  match record state stamp logger severity event fields with
  | .ok (some record) => [record]
  | _ => []

end Logging

end QuicTelemetry
