import QuicTelemetry.Metric.Catalogue
import QuicTelemetry.Store.Meter
import QuicTelemetry.Text.Glob
import QuicTelemetry.Text.LowerCase

/-!
# The pipeline

A meter that aggregates what is measured until it is collected. Instruments
are told apart by their name in lower case, their kind and their help text;
asking for one that exists gives the existing one.

The bounds of a histogram are not the instrument's: a *view* gives them to the
instruments whose name matches its pattern, and an instrument without a view has
the default bounds. Instruments are stored under their names in lower case, so
the letter case of a pattern does not matter either.

What is collected is cumulative for counters and histograms. A gauge shows
only what was set since the last collection.
-/

namespace QuicTelemetry

/-! ## Views -/

/-- **The bounds for the instruments with some names.** -/
structure View where
  /-- The pattern of the names. -/
  pattern : String
  /-- The bounds. -/
  bounds : List Value

/-- The view of a histogram in a namespace; other metrics and histograms
without bounds have none. -/
def View.of? (space : Option String) (name : String) (kind : MetricKind) (bounds : List Value) :
    Option View :=
  if kind.isHistogram && !bounds.isEmpty then some ⟨qualify space name, bounds⟩ else none

/-- **The views of the catalogue** in a namespace. -/
def View.catalogue (space : Option String) : List View :=
  Catalogue.all.filterMap fun metric =>
    View.of? space metric.name metric.kind ((metric.bounds.getD []).map .real)

/-- The numbers that divide the values of a histogram that no view matches. -/
def View.defaults : List Binary64 :=
  [0, 5, 10, 25, 50, 75, 100, 250, 500, 750, 1000, 2500, 5000, 7500, 10000]

/-- The bounds of a histogram that no view matches. -/
def View.defaultBounds : List Value := defaults.map .real

/-- Whether a view is for a stored name, which is in lower case. -/
def View.applies (view : View) (name : String) : Bool :=
  Text.matchesGlob (Text.lower view.pattern) name

/-- The bounds that views give to a stored name. -/
def View.boundsFor (views : List View) (name : String) : List Value :=
  match views.find? fun view => view.applies name with
  | some view => view.bounds
  | none => defaultBounds

/-! ## Aggregation -/

/-- **A distribution**: the counts of the buckets, the sum, the least and the
greatest value. -/
structure Distribution where
  /-- The counts of the buckets. -/
  counts : List Nat
  /-- The sum of the values. -/
  sum : Amount := .whole 0
  /-- The least value. -/
  least : Value := .real (.infinite false)
  /-- The greatest value. -/
  greatest : Value := .real (.infinite true)

/-- Whether a value is less than another; false if they do not compare. -/
def Value.less (v w : Value) : Bool :=
  match Amount.ofValue? v, Amount.ofValue? w with
  | some a, some b => a.lt b
  | _, _ => false

namespace Distribution

/-- The distribution of no values. -/
def none (buckets : Nat) : Distribution := { counts := List.replicate buckets 0 }

/-- The distribution with one value more. The sum is the first to fail. -/
def observe (bounds : List Value) (d : Distribution) (v : Value) (a : Amount) :
    Except Fault Distribution := do
  let sum ← d.sum.add a
  let bucket := (bounds.takeWhile fun bound => bound.less v).length
  return {
    counts := d.counts.modify bucket (· + 1), sum
    least := if v.less d.least then v else d.least
    greatest := if d.greatest.less v then v else d.greatest }

/-- The distribution of two lots of values. -/
def merge (later earlier : Distribution) : Except Fault Distribution := do
  return {
    counts := later.counts.zipWith (· + ·) earlier.counts
    sum := ← later.sum.add earlier.sum
    least := if earlier.least.less later.least then earlier.least else later.least
    greatest := if later.greatest.less earlier.greatest then earlier.greatest
      else later.greatest }

end Distribution

/-- What an instrument aggregates for some attributes: since the last
collection, and before it. -/
inductive Aggregate where
  /-- A sum. -/
  | sum (recent before : Amount)
  /-- The latest value, if one was set. -/
  | last (recent : Option Value)
  /-- A distribution. -/
  | distribution (recent before : Distribution)

/-- **What is collected** for some attributes. -/
inductive PointValue where
  /-- A number. -/
  | number (v : Value)
  /-- A distribution over buckets with these bounds. -/
  | distribution (bounds : List Value) (d : Distribution)

/-- The identity of an instrument: its name in lower case, its kind and its
help text. -/
structure InstrumentId where
  /-- The name, without blanks at its ends and in lower case. -/
  name : String
  /-- What is measured. -/
  kind : InstrumentKind
  /-- The help text. -/
  help : String
  deriving DecidableEq, Repr

/-- An instrument of the pipeline with what it aggregates. -/
structure PipelineInstrument where
  /-- Its identity. -/
  id : InstrumentId
  /-- The stored name: the given one in lower case. -/
  name : String
  /-- The bounds it has if it is a histogram. -/
  bounds : List Value
  /-- The aggregates by attributes. -/
  aggregates : Table Attributes Aggregate := .empty

/-- **A meter that aggregates.** -/
structure Pipeline where
  /-- The name of the service it belongs to. -/
  service : Value
  /-- The views. -/
  views : List View
  /-- The identities that were asked for. -/
  asked : List InstrumentId := []
  /-- The instruments. -/
  instruments : List PipelineInstrument := []

/-- What is collected: the name of an instrument, the attributes, the
value. -/
structure Point where
  /-- The stored name of the instrument. -/
  name : String
  /-- The attributes, sorted by name. -/
  attributes : Attributes
  /-- What was aggregated. -/
  value : PointValue

namespace Pipeline

/-- The name of a service: what is not given, or counts as false, is
unknown. -/
def serviceName (v : Value) : Value :=
  let known := match v with
    | .text _ | .bool _ | .int _ | .real _ => v.truthy
    | _ => false
  if known then v else .text "unknown_service"

/-- The pipeline of a service with the views of the catalogue in a
namespace. -/
def ofCatalogue (space : Option String) (service : Value) : Pipeline :=
  ⟨serviceName service, View.catalogue space, [], []⟩

/-- Whether an instrument may have a name: a letter, then at most 254 letters,
digits, underscores, dots, slashes and hyphens. -/
def isName (name : String) : Bool :=
  match name.toList with
  | [] => false
  | c :: rest =>
    c.isAlpha && rest.length ≤ 254
      && rest.all fun c => c.isAlphanum || ['-', '_', '.', '/'].contains c

/-- Whether a character is left off at the ends of a name. -/
def isMargin (c : Char) : Bool := Text.isBlank c || (0x1c ≤ c.toNat && c.toNat ≤ 0x1f)

/-- The name an instrument is told apart by. -/
def identifyingName (name : String) : String :=
  let cs := (name.toList.dropWhile isMargin).reverse.dropWhile isMargin
  Text.lower (String.ofList cs.reverse)

/-- Makes an instrument, or gives the one with the same identity. An identity
is asked for once: if its first name was refused, it stays without an
instrument. -/
def create (p : Pipeline) (kind : InstrumentKind) (name help : String) :
    Except Fault Instrument × Pipeline :=
  let id : InstrumentId := ⟨identifyingName name, kind, help⟩
  if p.asked.contains id then
    match p.instruments.findIdx? fun i => decide (i.id = id) with
    | some place => (.ok ⟨kind, name, place⟩, p)
    | none => (.error .missingKey, p)
  else
    let p := { p with asked := p.asked ++ [id] }
    if isName name then
      let stored := Text.lower name
      let made : PipelineInstrument :=
        { id, name := stored, bounds := View.boundsFor p.views stored }
      (.ok ⟨kind, name, p.instruments.length⟩, { p with instruments := p.instruments ++ [made] })
    else (.error .badInstrument, p)

/-- The aggregate of an instrument before anything was measured. -/
def fresh (i : PipelineInstrument) : Aggregate :=
  match i.id.kind with
  | .counter => .sum (.whole 0) (.whole 0)
  | .gauge => .last none
  | .histogram => .distribution (.none (i.bounds.length + 1)) (.none (i.bounds.length + 1))

/-- An aggregate with one measurement more. -/
def aggregate (bounds : List Value) (v : Value) (a : Amount) :
    Aggregate → Except Fault Aggregate
  | .sum recent before => do return .sum (← recent.add a) before
  | .last _ => .ok (.last (some v))
  | .distribution recent before => do return .distribution (← recent.observe bounds v a) before

/-- Takes a measurement. Counters and histograms pass over negative
amounts. -/
def measure (p : Pipeline) (instrument : Instrument) (v : Value) (attributes : Attributes) :
    Except Fault Unit × Pipeline :=
  match Amount.ofValue? v, p.instruments[instrument.place]? with
  | some a, some i =>
    if i.id.kind ≠ .gauge ∧ a.isNegative then (.ok (), p)
    else
      let attributes := attributes.mergeSort fun a b => decide (¬ b.1 < a.1)
      let before := (i.aggregates.get? attributes).getD (fresh i)
      let write (aggregate : Aggregate) : Pipeline :=
        { p with
          instruments := p.instruments.set instrument.place
            { i with aggregates := i.aggregates.put attributes aggregate } }
      -- attributes that were met stay, even if the measurement cannot be added
      match aggregate i.bounds v a before with
      | .ok after => (.ok (), write after)
      | .error fault => (.error fault, write before)
  | _, _ => (.error .mistyped, p)

instance : Meter Pipeline where
  create := create
  measure := measure

/-! ## Collection -/

/-- What an aggregate shows, and the aggregate after it was collected. -/
def collectOne (bounds : List Value) :
    Aggregate → Except Fault (Option PointValue × Aggregate)
  | .sum recent before => do
    let total ← before.add recent
    return (some (.number total.toValue), .sum (.whole 0) total)
  | .last recent => .ok (recent.map .number, .last none)
  | .distribution recent before => do
    let total ← recent.merge before
    return (some (.distribution bounds total), .distribution (.none (bounds.length + 1)) total)

/-- What an instrument shows, and the instrument after it was collected. -/
def collectInstrument (i : PipelineInstrument) :
    Except Fault (List Point × PipelineInstrument) := do
  let shown ← i.aggregates.entries.mapM fun (attributes, aggregate) => do
    let (value, after) ← collectOne i.bounds aggregate
    return (value.map fun v => Point.mk i.name attributes v, (attributes, after))
  return (shown.filterMap Prod.fst, { i with aggregates := ⟨shown.map Prod.snd⟩ })

/-- Whether one list of attributes comes before another. -/
def attributesBefore : Attributes → Attributes → Bool
  | [], [] => false
  | [], _ :: _ => true
  | _ :: _, [] => false
  | a :: as, b :: bs =>
    decide (a.1 < b.1) || (a.1 == b.1 && (decide (a.2 < b.2)
      || (a.2 == b.2 && attributesBefore as bs)))

/-- The order of collected points: by name, then by attributes. -/
def pointLe (p q : Point) : Bool :=
  !(decide (q.name < p.name) || (q.name == p.name && attributesBefore q.attributes p.attributes))

/-- **Collects what was aggregated.** -/
def collect (p : Pipeline) : Except Fault (List Point) × Pipeline :=
  match p.instruments.mapM collectInstrument with
  | .error fault => (.error fault, p)
  | .ok collected =>
    (.ok ((collected.flatMap Prod.fst).mergeSort pointLe),
      { p with instruments := collected.map Prod.snd })

end Pipeline

end QuicTelemetry
