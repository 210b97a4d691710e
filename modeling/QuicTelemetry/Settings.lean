import QuicTelemetry.Fault
import QuicTelemetry.Text.LowerCase

/-!
# Settings

How a process wants its telemetry: which store, in which namespace, with which
flags file, and how it logs. A setting comes from an argument, else from its
environment variable, else it has a default. The store and the namespace are
checked at once; the others where they are used.
-/

namespace QuicTelemetry

/-- The environment variables that are set. -/
abbrev Environment := List (String × String)

/-- The names of the stores. -/
def backendNames : List String := ["prometheus", "memory", "otel", "noop"]

/-- **The settings of a process.** -/
structure Settings where
  /-- The name of the store, in lower case. -/
  backend : Value
  /-- The namespace of the metrics. -/
  space : Value
  /-- Where the flags file is, if there is one. -/
  flagsPath : Value
  /-- The name of the service. -/
  serviceName : Value
  /-- Which style the loggers have. -/
  logFormatter : Value
  /-- How the lines look. -/
  logFormat : Value
  /-- The least severity that is logged. -/
  logLevel : Value
  deriving Repr

namespace Settings

/-- **Whether a text can be a namespace**: a letter or an underscore, then
letters, digits and underscores; a line end may follow. -/
def isSpace (s : String) : Bool :=
  let cs := s.toList
  let cs := if cs.getLast? = some '\n' then cs.dropLast else cs
  match cs with
  | [] => false
  | c :: rest =>
    (c.isAlpha || c == '_') && rest.all fun c => c.isAlphanum || c == '_'

/-- A store's name in lower case. -/
def lowerBackend : Value → Except Fault Value
  | .text s => .ok (.text (Text.lower s))
  | .bytes b => .ok (.bytes (b.map fun n => if 65 ≤ n && n ≤ 90 then n + 32 else n))
  | _ => .error .absent

/-- Whether a value is the name of a store. -/
def isBackend : Value → Bool
  | .text s => backendNames.contains s
  | _ => false

/-- Why a value cannot be the namespace, if it cannot. What counts as false
stands for no namespace. -/
def spaceFault? (v : Value) : Option Fault :=
  if !v.truthy then none
  else
    match v with
    | .text s => if isSpace s then none else some (.badNamespace v)
    | _ => some .mistyped

/-- **The checked settings**: the store's name is put into lower case, then
store and namespace are checked, in this order. -/
def check (settings : Settings) : Except Fault Settings := do
  let backend ← lowerBackend settings.backend
  if !isBackend backend then throw (.unknownBackend backend backendNames)
  match spaceFault? settings.space with
  | some fault => throw fault
  | none => return { settings with backend }

/-- The names of the settings. -/
def names : List String :=
  ["backend", "namespace", "flags_path", "otel_service_name", "log_formatter", "log_format",
    "log_level"]

/-- A setting from an argument, else from a variable, else the default. -/
def pick (env : Environment) (args : List (String × Value)) (name envName : String)
    (otherwise : Value) : Value :=
  match args.lookup name, env.lookup envName with
  | some v, _ => v
  | none, some s => .text s
  | none, none => otherwise

/-- **The settings of a process** from its arguments and its environment. -/
def ofArgs (env : Environment) (args : List (String × Value)) : Except Fault Settings :=
  if args.all fun arg => names.contains arg.1 then
    check {
      backend := pick env args "backend" "QUICMETRICS_BACKEND" (.text "prometheus")
      space := pick env args "namespace" "QUICMETRICS_NAMESPACE" (.text "")
      flagsPath := pick env args "flags_path" "QUICMETRICS_FLAGS_PATH" .null
      serviceName := pick env args "otel_service_name" "OTEL_SERVICE_NAME" (.text "quicmetrics")
      logFormatter := pick env args "log_formatter" "QUICMETRICS_LOG_FORMATTER" (.text "structlog")
      logFormat := pick env args "log_format" "QUICMETRICS_LOG_FORMAT" (.text "json")
      logLevel := pick env args "log_level" "QUICMETRICS_LOG_LEVEL" (.text "INFO") }
  else .error .mistyped

/-- The settings with their names. -/
def entries (s : Settings) : List (String × Value) :=
  [("backend", s.backend), ("namespace", s.space), ("flags_path", s.flagsPath),
    ("otel_service_name", s.serviceName), ("log_formatter", s.logFormatter),
    ("log_format", s.logFormat), ("log_level", s.logLevel)]

end Settings

end QuicTelemetry
