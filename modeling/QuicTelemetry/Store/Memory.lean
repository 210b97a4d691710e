import QuicTelemetry.Metric
import QuicTelemetry.Store.Family

/-!
# The memory store

Keeps every series in memory, for reading back. A histogram counts an
observation in the first bucket whose bound is not below it, so a bucket shows
how many observations lie at or below its bound once the counts are summed up.

Reading never makes a series; resolving one does.
-/

namespace QuicTelemetry

/-- **What a series of the memory store accumulates.** -/
inductive MemoryCell where
  /-- The value of a counter or a gauge. -/
  | value (x : Binary64)
  /-- The counts of the buckets of a histogram, and the sum of its
  observations. -/
  | histogram (counts : List Nat) (sum : Binary64)
  deriving DecidableEq, Repr

/-- The cell of a series in which nothing has happened. -/
def MemoryCell.fresh : Shape → MemoryCell
  | .histogram bounds => .histogram (List.replicate (bounds.length + 1) 0) 0
  | _ => .value 0

/-- **A histogram as it is read**: for each bound, then for infinity, how many
observations lie at or below it. -/
structure Snapshot where
  /-- The bounds with their cumulative counts. -/
  buckets : List (Binary64 × Nat)
  /-- The sum of the observations. -/
  sum : Binary64
  /-- The number of the observations. -/
  count : Nat
  deriving DecidableEq, Repr

/-- The running sums of some counts. -/
def runningSums (start : Nat) : List Nat → List Nat
  | [] => []
  | n :: rest => (start + n) :: runningSums (start + n) rest

/-- **The bucket of an observation**, searched for by halving between two places:
the first bound there that is not below the observation. What cannot be compared is
below no bound, so it is in the first bucket. -/
def bisect (bounds : List Binary64) (a : Amount) (low high : Nat) : Nat :=
  if low < high then
    let middle := (low + high) / 2
    if (bounds[middle]?).any fun bound => (Amount.real bound).lt a then
      bisect bounds a (middle + 1) high
    else bisect bounds a low middle
  else low
termination_by high - low

/-- Counts with one more in the given bucket. -/
def countIn (counts : List Nat) (bucket : Nat) : List Nat := counts.modify bucket (· + 1)

/-- The snapshot of a histogram. -/
def Snapshot.of (bounds : List Binary64) (counts : List Nat) (sum : Binary64) : Snapshot :=
  ⟨(bounds ++ [Binary64.infinite false]).zip (runningSums 0 counts), sum, total counts⟩

/-- **The memory store.** -/
structure Memory where
  /-- The registered families. -/
  families : Table String (Family MemoryCell) := .empty

namespace Memory

/-- The store without any family. -/
def empty : Memory := ⟨.empty⟩

instance : Inhabited Memory := ⟨empty⟩

/-- The names that are taken. -/
def names (m : Memory) : List String := m.families.keys

/-- **Registers a family.** A name is taken once. -/
def register (m : Memory) (name help : String) (shape : Shape) (labels : List String) :
    Except Fault Unit × Memory :=
  if m.families.has name then (.error (.schema name .taken), m)
  else (.ok (), ⟨m.families.push name { help, shape, labels }⟩)

/-- The series that some labels belong to, if they are those of the family. -/
def seriesOf (name : String) (family : Family MemoryCell) (given : Labelling) :
    Except Fault SeriesId := do
  checkLabels name family.labels (given.map Prod.fst)
  return ⟨name, given.values family.labels⟩

/-- **Resolves a series**: the one with these labels, made if it is new. -/
def resolve (m : Memory) (name : String) (given : Labelling) :
    Except Fault SeriesId × Memory :=
  match m.families.get? name with
  | none => (.error .missingKey, m)
  | some family =>
    if given.clashes ["self"] then (.error .mistyped, m)
    else
      match seriesOf name family given with
      | .error fault => (.error fault, m)
      | .ok id =>
        (.ok id,
          ⟨m.families.adjust name fun f => f.ensure id.values (.fresh f.shape)⟩)

/-- The cell of a series. -/
def cell? (m : Memory) (id : SeriesId) : Option MemoryCell := do
  (← m.families.get? id.family).cell? id.values

/-- The store with a cell changed. -/
def setCell (m : Memory) (id : SeriesId) (cell : MemoryCell) : Memory :=
  ⟨m.families.adjust id.family fun f => f.adjust id.values fun _ => cell⟩

/-- **What an operation makes of a cell**, and whether it fails. A histogram
counts before it sums up, so an observation beyond the range is counted
although it fails. -/
def change (shape : Shape) (cell : MemoryCell) (verb : Verb) (argument : Value) :
    Except Fault Unit × MemoryCell :=
  let sumTo (sum : Except Fault Binary64) : Except Fault Unit × MemoryCell :=
    match sum with
    | .ok x => (.ok (), .value x)
    | .error fault => (.error fault, cell)
  match shape, verb, cell with
  | .counter, .inc, .value x =>
    match Amount.ofValue argument with
    | .error fault => (.error fault, cell)
    | .ok a => if a.isNegative then (.error .negativeIncrement, cell) else sumTo (a.addTo x)
  | .gauge, .inc, .value x => sumTo (Amount.ofValue argument >>= Amount.addTo x)
  | .gauge, .dec, .value x => sumTo (Amount.ofValue argument >>= Amount.subFrom x)
  | .gauge, .set, .value _ => sumTo argument.toReal
  | .histogram bounds, .observe, .histogram counts sum =>
    match Amount.ofValue argument with
    | .error fault => (.error fault, cell)
    | .ok a =>
      let counts := countIn counts (bisect bounds a 0 bounds.length)
      match a.addTo sum with
      | .ok sum => (.ok (), .histogram counts sum)
      | .error fault => (.error fault, .histogram counts sum)
  | _, _, _ => (.error .absent, cell)

/-- The operation that a call asks for, if the handles of the shape have
it. -/
def argumentOf (shape : Shape) (verb : Verb) (args : List Value) : Except Fault Value :=
  if shape.verbs.contains verb then verb.argument args else .error .absent

/-- **Operates on the handle of a series.** -/
def call (m : Memory) (id : SeriesId) (verb : Verb) (args : List Value) :
    Except Fault Unit × Memory :=
  match m.families.get? id.family, m.cell? id with
  | some family, some cell =>
    match argumentOf family.shape verb args with
    | .error fault => (.error fault, m)
    | .ok argument =>
      let (outcome, cell) := change family.shape cell verb argument
      (outcome, m.setCell id cell)
  | _, _ => (.error .missingKey, m)

/-! ## Reading back -/

/-- The family of a name, for reading. -/
def family (m : Memory) (name : String) : Except Fault (Family MemoryCell) :=
  match m.families.get? name with
  | some family => .ok family
  | none => .error (.notRegistered name)

/-- **The value of a counter or a gauge**: zero if the series was never
resolved. -/
def value (m : Memory) (name : String) (given : Labelling) : Except Fault Binary64 := do
  if given.clashes ["self", "name"] then throw .mistyped
  let family ← m.family name
  if family.shape.isHistogram then throw (.isHistogram name)
  let id ← seriesOf name family given
  match family.cell? id.values with
  | some (.value x) => return x
  | _ => return 0

/-- **The snapshot of a histogram**, if the series was resolved. -/
def histogram (m : Memory) (name : String) (given : Labelling) :
    Except Fault (Option Snapshot) := do
  if given.clashes ["self", "name"] then throw .mistyped
  let family ← m.family name
  match family.shape with
  | .histogram bounds =>
    let id ← seriesOf name family given
    match family.cell? id.values with
    | some (.histogram counts sum) => return some (.of bounds counts sum)
    | _ => return none
  | _ => throw (.isNoHistogram name)

/-- **The labels of all series of a family** that were resolved, oldest
first. -/
def series (m : Memory) (name : String) : Except Fault (List (List (String × String))) := do
  let family ← m.family name
  return family.series.keys.map family.labelling

end Memory

end QuicTelemetry
