import QuicTelemetry.Log.Json
import QuicTelemetry.Log.Stamp
import QuicTelemetry.Log.State
import QuicTelemetry.Template

/-!
# Log lines

What a handler makes of a record. A format is meant for records of one style;
of a record of the other style it shows less. A format for plain records shows
a structured one as the literal of its mapping; a format for structured records
shows of a plain one its event alone.
-/

namespace QuicTelemetry

namespace LogLine

/-! ## Plain records -/

/-- **What a JSON line of a plain record holds.** -/
structure Plain where
  /-- The moment. -/
  stamp : String
  /-- The severity as a number. -/
  level : Int
  /-- The name of the logger. -/
  logger : String
  /-- The event. -/
  event : String
  /-- The fields. -/
  fields : List (String × Value)
  /-- The description of an exception, if there is one. -/
  failure : Option String := none

/-- The entries of a plain record: its own, then its fields, then the
exception. A field of the name of an entry takes its place. -/
def Plain.entries (p : Plain) : Fields :=
  let own := Fields.ofList
    [("timestamp", .text p.stamp), ("level", .text (Text.lower (severityName p.level))),
      ("logger", .text p.logger), ("event", .text p.event)]
  let all := own.update p.fields
  match p.failure with
  | some description => all.put "exception" (.text description)
  | none => all

/-- **The JSON line of a plain record.** -/
def Plain.json (p : Plain) : String := Json.object Value.toText p.entries.entries

/-- What keeps the JSON line of a plain record from being written. -/
def Plain.obstacle? (p : Plain) (limits : Limits) : Option Obstacle :=
  Json.obstacle? limits.digits .text (.dict p.entries.entries) limits.depth

/-- **Writes the JSON line** of a plain record that was made at some moment. -/
def Plain.write (p : Plain) (created : Value) (limits : Limits := .standard) :
    Except Fault String := do
  let p := { p with stamp := Stamp.text (← Stamp.secondsOf created) ++ "Z" }
  match p.obstacle? limits with
  | none => return p.json
  | some obstacle => throw (.unwritable obstacle)

/-- A text with blanks behind it up to a width. -/
def pad (width : Nat) (s : String) : String :=
  s ++ String.ofList (List.replicate (width - s.length) ' ')

/-- **The line of text of a plain record**, without its fields. -/
def Plain.text (p : Plain) : String :=
  p.stamp ++ " " ++ pad 8 (severityName p.level) ++ " " ++ p.logger ++ ": " ++ p.event

/-! ## Structured records -/

/-- The JSON line of a structured record. -/
def structuredJson (entries : Fields) : String := Json.object Value.literal entries.entries

/-- A switch of the terminal. -/
def terminal (code : String) : String := "\x1b[" ++ code ++ "m"

/-- The switch back to the terminal's own look. -/
def plainLook : String := terminal "0"

/-- A text in a look. -/
def styled (look s : String) : String := look ++ s ++ plainLook

/-- The colour of a severity. -/
def colour (severity : String) : String :=
  if severity = "info" ∨ severity = "debug" then terminal "32"
  else if severity = "warning" then terminal "33"
  else terminal "31"

/-- Whether a text is shown as it is: no blank, no line end and no mark of an
entry is in it. -/
def isBare (s : String) : Bool := s.toList.all fun c => !" \t=\r\n\"'".toList.contains c

/-- What a coloured line shows of a value. -/
def shown : Value → String
  | .text s => if isBare s then s else Text.quote s
  | v => v.literal

/-- What a coloured line shows of an entry with a place of its own. -/
def column (name : String) (v : Value) : String :=
  match name with
  | "timestamp" => styled (terminal "2") v.toText
  | "level" => "[" ++ styled (colour v.toText ++ terminal "1") (pad 9 v.toText) ++ "]"
  | "event" => styled (terminal "1") (pad 30 v.toText)
  | _ => "[" ++ plainLook ++ styled (terminal "1" ++ terminal "34") v.toText ++ "]" ++ plainLook

/-- The entries with a place of their own, in order. -/
def columns : List String := ["timestamp", "level", "event", "logger", "logger_name"]

/-- The entries that come behind the line. -/
def tails : List String := ["stack", "exception", "exc_info"]

/-- What a coloured line shows of any other entry. -/
def entry (name : String) (v : Value) : String :=
  styled (terminal "36") name ++ "=" ++ styled (terminal "35") (shown v)

/-- What comes behind a coloured line: texts on lines of their own, with a
rule between the two. -/
def tail (entries : Fields) : Except Fault String :=
  let textOf (name : String) : Except Fault String :=
    match entries.get? name with
    | none | some .null => .ok ""
    | some (.text s) => .ok ("\n" ++ s)
    | some _ => .error .mistyped
  let present (name : String) : Bool := match entries.get? name with
    | none | some .null => false
    | some _ => true
  do
    let stack ← textOf "stack"
    let failure ← textOf "exception"
    let rule := if present "stack" && present "exception" then
      "\n\n" ++ String.ofList (List.replicate 79 '=') ++ "\n" else ""
    return stack ++ rule ++ failure

/-- **The coloured line of a structured record**: the entries with a place of
their own, then the others by name. -/
def structuredText (entries : Fields) : Except Fault String := do
  let first := columns.filterMap fun name => (entries.get? name).map (column name)
  let others := entries.entries.filter fun e => !columns.contains e.1 && !tails.contains e.1
  let sorted := others.mergeSort fun a b => decide (¬ b.1 < a.1)
  let line := " ".intercalate (first ++ sorted.map fun e => entry e.1 e.2)
  return line ++ (← tail entries)

/-! ## Formats -/

/-- The record as its line shows it to a format for plain records. -/
def asPlain (stamp : String) (r : LogRecord) : Plain :=
  let level : Int := r.severity.number
  match r.content with
  | .plain event fields => ⟨stamp, level, r.logger, event, fields.entries, none⟩
  | .structured entries =>
    ⟨stamp, level, r.logger, (Value.dict entries.entries).literal, [], none⟩

/-- The entries of a record as its line shows them to a format for structured
records. -/
def asStructured (r : LogRecord) : Fields :=
  match r.content with
  | .plain event _ => Fields.ofList [("event", .text event)]
  | .structured entries => entries

/-- **The line a format makes of a record**, if it can be written. -/
def render (format : LineFormat) (stamp : String) (r : LogRecord) : Except Fault String :=
  match format with
  | .plainJson => .ok { asPlain stamp r with stamp := stamp ++ "Z" }.json
  | .plainText => .ok (asPlain stamp r).text
  | .structuredJson => .ok (structuredJson (asStructured r))
  | .structuredText => structuredText (asStructured r)

/-- What keeps the line of a record from being written. -/
def obstacle? (limits : Limits) (format : LineFormat) (r : LogRecord) : Option Obstacle :=
  let keeps (form : Value.Form) (v : Value) := v.obstacle? limits.digits form limits.depth
  -- the event, which is the literal of the mapping where the record is of the other style
  let event := match r.content with
    | .plain .. => none
    | .structured entries => keeps .literal (.dict entries.entries)
  match format with
  | .plainJson => event.or ((asPlain "" r).obstacle? limits)
  | .plainText => event
  | .structuredJson =>
    Json.obstacle? limits.digits .literal (.dict (asStructured r).entries) limits.depth
  | .structuredText =>
    (asStructured r).entries.findSome? fun (name, v) =>
      if columns.contains name then keeps .text v
      else
        match v with
        | .text _ => none
        | v => keeps .literal v

/-- **Writes the line** a format makes of a record. -/
def write (format : LineFormat) (stamp : String) (r : LogRecord) (limits : Limits := .standard) :
    Except Fault String :=
  match obstacle? limits format r with
  | none => render format stamp r
  | some obstacle => .error (.unwritable obstacle)

end LogLine

namespace Logging

/-- **The lines that the handlers make of a record**: those of its logger and
of the loggers above it, so that the handlers of `quicmetrics` see only records
of `quicmetrics` and of loggers below it. -/
def lines (state : Logging) (stamp : String) (r : LogRecord) (limits : Limits := .standard) :
    Except Fault (List (HandlerId × String)) :=
  ((lineage r.logger).flatMap state.handlersOf).filterMapM fun id =>
    match state.formats.get? id with
    | some format => do return some (id, ← LogLine.write format stamp r limits)
    | none => .ok none

end Logging

end QuicTelemetry
