import QuicTelemetry.Value.Limits

/-!
# Faults

Every way an operation of this library can fail, as a cause. What a report
says about it is one function of the cause, `Fault.message?`; the faults that
come from a value of the wrong kind or from one that cannot be written have no
text of their own.
-/

namespace QuicTelemetry

/-- **Why a name or its labels are refused** when a family is registered. -/
inductive Refusal where
  /-- The bounds of a histogram are missing. -/
  | noBounds
  /-- There are no bounds. -/
  | emptyBounds
  /-- A bound is infinite or `nan`. -/
  | notFinite (bound : Binary64)
  /-- A bound is not above the one in front of it. -/
  | notIncreasing (before bound : Binary64)
  /-- The store has a family of that name. -/
  | taken
  /-- The name is empty. -/
  | emptyName
  /-- Nothing is left of the name of a counter without its `_total`. -/
  | emptyStem
  /-- The label name starts with two underscores. -/
  | reservedLabel (name : String)
  /-- The label name is the one a histogram has for its bounds. -/
  | boundLabel
  /-- Series of these names are exposed already. -/
  | exposed (names : List String)
  deriving DecidableEq, Repr

/-- The reason a refusal gives. -/
def Refusal.reason : Refusal → String
  | .noBounds => "histogram has no buckets"
  | .emptyBounds => "histogram has empty buckets"
  | .notFinite bound => "bucket boundary " ++ bound.text ++ " is not finite"
  | .notIncreasing before bound =>
    "buckets not strictly increasing: " ++ before.text ++ " then " ++ bound.text
  | .taken => "metric name already registered"
  | .emptyName => "Metric name should not be empty"
  | .emptyStem => "metric name cannot be empty"
  | .reservedLabel name => "Reserved label metric name: " ++ name
  | .boundLabel => "Reserved label methe fric name: le"
  | .exposed names =>
    "Duplicated timeseries in CollectorRegistry: "
      ++ Text.enclose "\x7b" "\x7d" (names.map Text.quote)

/-- **A fault**: the cause of a failure. -/
inductive Fault where
  /-- A value of a kind the operation does not take, or a wrong number of
  them. -/
  | mistyped
  /-- An operation the value does not have. -/
  | absent
  /-- A text that is no numeral, or a number where none can be told. -/
  | malformed
  /-- A number beyond the range of binary64. -/
  | overflow
  /-- A moment in a year that the calendar does not count. -/
  | beyondCalendar
  /-- A key of a table that is not there. -/
  | missingKey
  /-- A task that cannot go on. -/
  | broken
  /-- An instrument name the pipeline does not take. -/
  | badInstrument
  /-- A document that is not well formed. -/
  | unreadable
  /-- An empty text where a character is asked for. -/
  | emptyText
  /-- A directory where a file is asked for. -/
  | isDirectory
  /-- A failure that the input itself states. -/
  | stated (kind : String) (args : List Value)
  /-- A family that cannot be registered. -/
  | schema (metric : String) (refusal : Refusal)
  /-- A counter that would decrease. -/
  | negativeIncrement
  /-- Labels other than those of the family. -/
  | wrongLabels (family : String) (expected given : List String)
  /-- Labels for a family without any. -/
  | takesNoLabels (family : String) (given : List String)
  /-- No labels for a family that has some. -/
  | labelsMissing
  /-- Other labels than those of a family of exposed series. -/
  | labelsDiffer
  /-- A value outside the closed set of labels of an event. -/
  | notInDimension (expected : Dimension) (given : Value)
  /-- A name the catalogue does not have. -/
  | unknownMetric (name : Value)
  /-- A name that no family of the store has. -/
  | notRegistered (name : String)
  /-- A histogram where a single value is asked for. -/
  | isHistogram (name : String)
  /-- No histogram where one is asked for. -/
  | isNoHistogram (name : String)
  /-- A store of an unknown kind in the settings. -/
  | unknownBackend (name : Value) (known : List String)
  /-- A store of an unknown kind where one is built. -/
  | noSuchBackend (name : Value)
  /-- A namespace that is not made of letters, digits and underscores. -/
  | badNamespace (text : Value)
  /-- A log formatter of an unknown kind. -/
  | unknownFormatter (name : Value) (known : List String)
  /-- A value that cannot be written. -/
  | unwritable (obstacle : Obstacle)
  deriving Repr

namespace Fault

/-- The text for a family that cannot be registered. -/
def schemaText (metric : Value) (reason : String) : String :=
  "Invalid metric schema for " ++ metric.literal ++ ": " ++ reason

/-- **What a report says of a fault.** A value of the wrong kind has no text:
the operation it reached is all there is to say. Nor has one that cannot be
written. -/
def message? : Fault → Option String
  | .mistyped | .absent | .malformed | .overflow | .beyondCalendar | .missingKey | .broken
  | .badInstrument | .unreadable | .emptyText | .isDirectory | .unwritable _ => none
  | .stated kind args => some (Value.failure kind args).toText
  | .schema metric refusal => some (schemaText (.text metric) refusal.reason)
  | .negativeIncrement =>
    some "Counters can only be incremented by non-negative amounts."
  | .wrongLabels family expected given =>
    some ("Incorrect label names for " ++ Text.quote family ++ ": expected "
      ++ Text.quoteList expected ++ ", got " ++ Text.quoteList given)
  | .takesNoLabels family given =>
    some (Text.quote family ++ " takes no labels, got " ++ Text.quoteList given)
  | .labelsMissing => some "Incorrect label count"
  | .labelsDiffer => some "Incorrect label names"
  | .notInDimension expected given =>
    some ("Expected " ++ expected.title ++ ", got " ++ given.kindName ++ ": " ++ given.literal)
  | .unknownMetric name => some ("Unknown metric: " ++ name.literal)
  | .notRegistered name => some ("Metric not registered: " ++ Text.quote name)
  | .isHistogram name => some (Text.quote name ++ " is a histogram; use histogram()")
  | .isNoHistogram name => some (Text.quote name ++ " is not a histogram")
  | .unknownBackend name known =>
    some ("Unknown metrics backend: " ++ name.literal ++ ". Available: "
      ++ Text.quoteList known ++ ".")
  | .noSuchBackend name => some ("Unknown metrics backend: " ++ name.literal)
  | .badNamespace text =>
    some ("Invalid metrics namespace " ++ text.literal
      ++ ": use letters, digits and underscores, not starting with a digit.")
  | .unknownFormatter name known =>
    some ("Unknown log formatter: " ++ name.literal ++ ". Available: "
      ++ Text.quoteList known ++ ".")

end Fault

end QuicTelemetry
