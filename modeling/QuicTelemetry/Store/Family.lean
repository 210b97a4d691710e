import QuicTelemetry.Amount
import QuicTelemetry.Store.Table

/-!
# Families

A family is a registered metric: all its series have the same label names and
differ in the label values. What a series accumulates is its *cell*; each
store has cells of its own.
-/

namespace QuicTelemetry

/-! ## Texts in order -/

/-- Texts in ascending order of their code points. -/
def sortTexts (texts : List String) : List String := texts.mergeSort fun a b => decide (¬ b < a)

/-- The texts without repetitions, the first of each kept. -/
def distinctTexts (texts : List String) : List String :=
  texts.foldl (fun seen t => if seen.contains t then seen else seen ++ [t]) []

/-- How many there are in all, given how many there are of each. -/
def total (counts : List Nat) : Nat := counts.foldr (fun n rest => n + rest) 0

/-! ## Shapes -/

/-- **What the cells of a family look like.** -/
inductive Shape where
  /-- A sum that only grows. -/
  | counter
  /-- A value that is set, raised and lowered. -/
  | gauge
  /-- Counts of observations over buckets with these upper bounds, and one
  more bucket without a bound. -/
  | histogram (bounds : List Binary64)
  deriving DecidableEq, Repr

/-- An operation on a handle. -/
inductive Verb where
  /-- Adding an amount. -/
  | inc
  /-- Subtracting an amount. -/
  | dec
  /-- Setting a value. -/
  | set
  /-- Counting an observation. -/
  | observe
  deriving DecidableEq, Repr

/-- The verb with the given name. -/
def Verb.ofName? : String → Option Verb
  | "inc" => some .inc
  | "dec" => some .dec
  | "set" => some .set
  | "observe" => some .observe
  | _ => none

/-- The operations that the handles of a shape have. -/
def Shape.verbs : Shape → List Verb
  | .counter => [.inc]
  | .gauge => [.inc, .dec, .set]
  | .histogram _ => [.observe]

/-- Whether the handles of a shape are histograms. -/
def Shape.isHistogram : Shape → Bool
  | .histogram _ => true
  | _ => false

/-- The argument of an operation: an amount of one if none is given where a
sum is changed. -/
def Verb.argument (verb : Verb) (args : List Value) : Except Fault Value :=
  match verb, args with
  | .inc, [] | .dec, [] => .ok (.int 1)
  | _, [v] => .ok v
  | _, _ => .error .mistyped

/-! ## Series -/

/-- **The identity of a series**: its family and its label values, in the
order of the family's label names. -/
structure SeriesId where
  /-- The name the family was registered under. -/
  family : String
  /-- The label values. -/
  values : List String
  deriving DecidableEq, Repr

/-- **A registered metric.** -/
structure Family (Cell : Type) where
  /-- The help text. -/
  help : String
  /-- What its cells look like. -/
  shape : Shape
  /-- The names of its labels. -/
  labels : List String
  /-- The series that were asked for, oldest first. -/
  series : Table (List String) Cell := .empty

namespace Family

variable {Cell : Type}

/-- The cell of a series. -/
def cell? (family : Family Cell) (values : List String) : Option Cell := family.series.get? values

/-- The family in which a series exists: with a fresh cell if it is new. -/
def ensure (family : Family Cell) (values : List String) (fresh : Cell) : Family Cell :=
  if family.series.has values then family
  else { family with series := family.series.push values fresh }

/-- The family with a cell changed. -/
def adjust (family : Family Cell) (values : List String) (f : Cell → Cell) : Family Cell :=
  { family with series := family.series.adjust values f }

/-- The labels of a series. -/
def labelling (family : Family Cell) (values : List String) : List (String × String) :=
  family.labels.zip values

end Family

/-! ## Labels -/

/-- Labels as a caller gives them, each name once. -/
abbrev Labelling := List (String × Value)

/-- Whether two lists have the same members. -/
def sameNames (a b : List String) : Bool := a.all b.contains && b.all a.contains

/-- **The check of label names**: exactly those of the family, in any order. -/
def checkLabels (family : String) (expected given : List String) : Except Fault Unit :=
  if sameNames expected given then .ok ()
  else .error (.wrongLabels family (sortTexts expected) (sortTexts (distinctTexts given)))

/-- The text a label is given, by its name. -/
def Labelling.text (given : Labelling) (name : String) : String :=
  ((given.find? fun label => label.1 == name).map fun label => label.2.toText).getD ""

/-- The label values in the order of the family's names. -/
def Labelling.values (given : Labelling) (names : List String) : List String := names.map given.text

/-- The names no label can be given under: they are taken by the operation
itself. -/
def Labelling.clashes (given : Labelling) (taken : List String) : Bool :=
  given.any fun label => taken.contains label.1

end QuicTelemetry
