import QuicTelemetry.Fault
import QuicTelemetry.Store.Table
import QuicTelemetry.Text.Fields
import QuicTelemetry.Text.LowerCase

/-!
# Log records

A record is an event with fields. Loggers have names with dots between their
parts, and the settings of the logger `quicmetrics` are those of all loggers
below it.

There are two styles of logger. A *plain* one lets the fields ride beside the
event; a *structured* one makes event and fields into one mapping, which is the
record's message.
-/

namespace QuicTelemetry

/-- Named values: log fields, in the order in which they came. -/
abbrev Fields := Table String Value

namespace Fields

/-- The fields with some more, where a later one takes the place of an earlier
one of its name. -/
def update (fields : Fields) (more : List (String × Value)) : Fields :=
  more.foldl (fun fields (key, v) => fields.put key v) fields

/-- The fields with the given ones only. -/
def ofList (entries : List (String × Value)) : Fields := update .empty entries

end Fields

/-- **The severity of a record.** -/
inductive Severity where
  /-- For those who look closely. -/
  | debug
  /-- What normally happens. -/
  | info
  /-- What may need attention. -/
  | warning
  /-- What went wrong. -/
  | error
  /-- What cannot go on. -/
  | critical
  deriving DecidableEq, Repr

namespace Severity

/-- The severity as a number. -/
def number : Severity → Nat
  | .debug => 10
  | .info => 20
  | .warning => 30
  | .error => 40
  | .critical => 50

/-- The name of a severity. -/
def name : Severity → String
  | .debug => "debug"
  | .info => "info"
  | .warning => "warning"
  | .error => "error"
  | .critical => "critical"

/-- All severities, from the least on. -/
def all : List Severity := [.debug, .info, .warning, .error, .critical]

end Severity

/-- The name of a severity given as a number. -/
def severityName (number : Int) : String :=
  if number = 0 then "NOTSET"
  else
    match Severity.all.find? fun s => decide ((s.number : Int) = number) with
    | some s => String.ofList (s.name.toList.map Char.toUpper)
    | none => "Level " ++ toString number

/-- What a record says. -/
inductive LogContent where
  /-- An event, with its fields beside it. -/
  | plain (event : String) (fields : Fields)
  /-- Event and fields in one mapping. -/
  | structured (entries : Fields)

/-- **A log record.** -/
structure LogRecord where
  /-- The name of the logger. -/
  logger : String
  /-- How severe it is. -/
  severity : Severity
  /-- What it says. -/
  content : LogContent

/-- **A logger**: what it was given is part of each of its records. -/
structure Logger where
  /-- Its name. -/
  name : String
  /-- Whether it is structured. -/
  structured : Bool
  /-- What each of its records carries. -/
  context : Fields

/-- **The severity of a call to a logger**, by the word of the call. A
structured logger knows more words than a plain one. -/
def Logger.severityOf (logger : Logger) (word : String) : Except Fault Severity :=
  match word, logger.structured with
  | "debug", _ => .ok .debug
  | "info", _ => .ok .info
  | "warning", _ | "warn", true => .ok .warning
  | "error", _ | "exception", true => .ok .error
  | "critical", true | "fatal", true => .ok .critical
  | _, _ => .error .absent

/-- What an exception is described by: its class, and what it says if it says
something. -/
def describeFailure (kind : String) (args : List Value) (limits : Limits := .standard) : String :=
  let failure := Value.failure kind args
  let said := match failure.obstacle? limits.digits .text limits.depth with
    | none => failure.toText
    | some _ => "<exception str() failed>"
  let kind := Value.failureClass kind args
  if said = "" then kind else kind ++ ": " ++ said

/-- The name of the logger above all others of this library. -/
def metricsLogger : String := "quicmetrics"

/-- The name of the logger above all loggers of a process. -/
def rootLogger : String := "root"

/-- The component all records of this library carry. -/
def component : String × Value := ("component", .text "quicmetrics")

/-- The plain logger for a name before anything was set up. -/
def Logger.plain (name : String) (context : List (String × Value)) : Logger :=
  ⟨name, false, Fields.ofList (component :: context)⟩

/-- Whether a name is `quicmetrics` or one below it. -/
def isWithinMetrics (name : String) : Bool :=
  name == metricsLogger || name.startsWith (metricsLogger ++ ".")

/-- **The loggers whose handlers see the records of a logger**: itself, those
above it in its name, from the nearest on, and the one above all. -/
def lineage (name : String) : List String :=
  let parts := Text.fields '.' name.toList
  let named := (List.range parts.length).reverse.map fun n =>
    String.ofList (Text.join '.' (parts.take (n + 1)))
  if name = rootLogger then [rootLogger] else named ++ [rootLogger]

/-- The threshold of a logger, given the level set on `quicmetrics`; without
one, and for all other loggers, warnings are the least to be let through. -/
def threshold (level : Nat) (name : String) : Nat :=
  if isWithinMetrics name && level != 0 then level else Severity.warning.number

/-- **The record a plain logger makes** of an event, if it is severe enough. -/
def Logger.plainRecord? (logger : Logger) (level : Nat) (severity : Severity) (event : String)
    (fields : List (String × Value)) : Option LogRecord :=
  if threshold level logger.name ≤ severity.number then
    some ⟨logger.name, severity, .plain event (logger.context.update fields)⟩
  else none

end QuicTelemetry
