import QuicTelemetry.Amount
import QuicTelemetry.Flags

/-!
# Metrics

A metric is defined once: its name, its kind, what it counts, the names of its
labels, the bounds of its buckets and the flag that switches it on. The bounds
belong to the name, so a change of distribution is a metric of a new name.
-/

namespace QuicTelemetry

/-- **What a metric accumulates.** -/
inductive MetricKind where
  /-- A sum that only grows. -/
  | counter
  /-- A value that is set, raised and lowered. -/
  | gauge
  /-- A distribution over buckets. -/
  | histogram
  /-- A distribution of elapsed seconds. -/
  | timeHistogram
  deriving DecidableEq, Repr

namespace MetricKind

/-- The name of a kind. -/
def name : MetricKind → String
  | .counter => "counter"
  | .gauge => "gauge"
  | .histogram => "histogram"
  | .timeHistogram => "time_histogram"

/-- Whether metrics of the kind have buckets. -/
def isHistogram : MetricKind → Bool
  | .histogram | .timeHistogram => true
  | _ => false

/-- The kind with the given name. -/
def ofName? (s : String) : Option MetricKind :=
  [counter, gauge, histogram, timeHistogram].find? fun kind => kind.name == s

end MetricKind

/-- **The definition of a metric.** -/
structure Metric where
  /-- The name, without a namespace. -/
  name : String
  /-- What the metric accumulates. -/
  kind : MetricKind
  /-- What it counts. -/
  description : String
  /-- The names of its labels. -/
  labels : List String := []
  /-- The upper bounds of its buckets, if it is a histogram. -/
  bounds : Option (List Binary64) := none
  /-- The flag that switches it on; without one it is always on. -/
  flag : Option Flag := none
  deriving Repr

/-! ## Bucket bounds -/

namespace Bounds

/-- The first neighbours that do not increase. -/
def descent? : List Binary64 → Option (Binary64 × Binary64)
  | before :: bound :: rest =>
    if bound.le before then some (before, bound) else descent? (bound :: rest)
  | _ => none

/-- Why some bounds are refused, if they are: there is none, one of them is
not finite, or two neighbours do not increase. -/
def refusal? (bounds : List Binary64) : Option Refusal :=
  if bounds.isEmpty then some .emptyBounds
  else
    match bounds.find? (!·.isFinite) with
    | some bound => some (.notFinite bound)
    | none => (descent? bounds).map fun (before, bound) => .notIncreasing before bound

/-- **The bounds, if they are in order.** -/
def check (metric : String) (bounds : List Binary64) : Except Fault (List Binary64) :=
  match refusal? bounds with
  | some refusal => .error (.schema metric refusal)
  | none => .ok bounds

/-- The bounds a value stands for: numbers, or numerals, in any collection. -/
def ofValue (metric : String) : Value → Except Fault (List Binary64)
  | .null => .error (.schema metric .noBounds)
  | v => do check metric (← (← v.items).mapM Value.toReal)

end Bounds

/-! ## Namespaces -/

/-- **The name of a metric in a namespace**: the namespace and an underscore
in front, if there is one. -/
def qualify (space : Option String) (name : String) : String :=
  match space with
  | some space => space ++ "_" ++ name
  | none => name

/-- The namespace a value stands for: none if it does not count as true. -/
def Value.space? (v : Value) : Option String := if v.truthy then some v.toText else none

end QuicTelemetry
