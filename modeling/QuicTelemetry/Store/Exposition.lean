import QuicTelemetry.Metric
import QuicTelemetry.Store.Family

/-!
# The exposition store

Keeps every series for a scraper, which reads them all as samples. Several
samples come from one family – those of a histogram have endings of their own
– so a family reserves all names its samples can have, and a name may be
refused although no family is registered under it.

A family without labels has its one series from the start.
-/

namespace QuicTelemetry

/-- **What a series of the exposition store accumulates.** -/
inductive ExposedCell where
  /-- The value of a counter or a gauge. -/
  | value (x : Binary64)
  /-- The sum of a histogram's observations and the counts of its buckets. -/
  | histogram (sum : Binary64) (counts : List Nat)
  deriving DecidableEq, Repr

/-- The cell of a series in which nothing has happened. -/
def ExposedCell.fresh : Shape → ExposedCell
  | .histogram bounds => .histogram 0 (List.replicate (bounds.length + 1) 0)
  | _ => .value 0

/-- **A sample**: one number a scraper reads. -/
structure Sample where
  /-- The name, with its ending. -/
  name : String
  /-- The labels, in the order of the family's names. -/
  labels : List (String × String)
  /-- The number. -/
  value : Binary64
  deriving Repr

/-- **A store whose series a scraper reads.** -/
structure Exposition where
  /-- The names that were claimed, whether a family came of it or not. -/
  claimed : List String := []
  /-- The families of the registry under the names they were registered with,
  those of other owners included. -/
  families : Table String (Family ExposedCell) := .empty

namespace Exposition

/-- The store without any family. -/
def empty : Exposition := ⟨[], .empty⟩

instance : Inhabited Exposition := ⟨empty⟩

/-! ## Names -/

/-- The name a family is exposed under: counters lose a `_total` at the end,
since their samples have it anyway. -/
def stem (shape : Shape) (name : String) : String :=
  match shape with
  | .counter =>
    if name.endsWith "_total" then String.ofList (name.toList.take (name.length - "_total".length))
    else name
  | _ => name

/-- What follows the stem in the names a family reserves. -/
def endings : Shape → List String
  | .counter => ["", "_total", "_created"]
  | .gauge => [""]
  | .histogram _ => ["", "_bucket", "_sum", "_count", "_created"]

/-- **The names a family reserves.** -/
def reserved (shape : Shape) (name : String) : List String :=
  (endings shape).map (stem shape name ++ ·)

/-- The names all families of the registry reserve. -/
def allReserved (e : Exposition) : List String :=
  e.families.entries.flatMap fun (name, family) => reserved family.shape name

/-- Why the label names of a family are refused: names with two underscores in
front are kept for the scraper, and a histogram has a label `le` of its own. -/
def labelRefusal? (shape : Shape) (labels : List String) : Option Refusal :=
  labels.findSome? fun label =>
    if label.startsWith "__" && labelIsOneLine label then some (.reservedLabel label)
    else if shape.isHistogram && label == "le" then some .boundLabel
    else none
where
  /-- Whether no line ends inside the name. -/
  labelIsOneLine (label : String) : Bool := !(label.toList.dropLast.contains '\n')

/-- **Why a family is refused**, if it is. -/
def refusal? (e : Exposition) (name : String) (shape : Shape) (labels : List String) :
    Option Refusal :=
  if name = "" then some .emptyName
  else
    match labelRefusal? shape labels with
    | some refusal => some refusal
    | none =>
      if stem shape name = "" then some .emptyStem
      else
        match (reserved shape name).filter e.allReserved.contains with
        | [] => none
        | names => some (.exposed (sortTexts names))

/-- The names that are taken. -/
def names (e : Exposition) : List String := e.claimed

/-- Adds a family to the registry. -/
def enter (e : Exposition) (name help : String) (shape : Shape) (labels : List String) :
    Exposition :=
  let family : Family ExposedCell := { help, shape, labels }
  let family := if labels.isEmpty then family.ensure [] (.fresh shape) else family
  { e with families := e.families.push name family }

/-- **Registers a family.** The name is taken even if the registry then
refuses it. -/
def register (e : Exposition) (name help : String) (shape : Shape) (labels : List String) :
    Except Fault Unit × Exposition :=
  if e.claimed.contains name then (.error (.schema name .taken), e)
  else
    -- the name is claimed first, so it stays taken whatever the registry says
    let e := { e with claimed := e.claimed ++ [name] }
    match e.refusal? name shape labels with
    | some refusal => (.error (.schema name refusal), e)
    | none => (.ok (), e.enter name help shape labels)

/-! ## Series -/

/-- The series that some labels belong to, if they are those of the family. -/
def seriesOf (name : String) (family : Family ExposedCell) (given : Labelling) :
    Except Fault SeriesId :=
  let names := given.map Prod.fst
  if family.labels.isEmpty then
    if names.isEmpty then .ok ⟨name, []⟩
    else .error (.takesNoLabels name (sortTexts names))
  else if names.isEmpty then .error .labelsMissing
  else if sortTexts names = sortTexts family.labels then .ok ⟨name, given.values family.labels⟩
  else .error .labelsDiffer

/-- **Resolves a series**: the one with these labels, made if it is new. -/
def resolve (e : Exposition) (name : String) (given : Labelling) :
    Except Fault SeriesId × Exposition :=
  match e.families.get? name with
  | none => (.error .missingKey, e)
  | some family =>
    if given.clashes ["self"] then (.error .mistyped, e)
    else
      match seriesOf name family given with
      | .error fault => (.error fault, e)
      | .ok id =>
        (.ok id,
          { e with
            families := e.families.adjust name fun f => f.ensure id.values (.fresh f.shape) })

/-- The cell of a series. -/
def cell? (e : Exposition) (id : SeriesId) : Option ExposedCell := do
  (← e.families.get? id.family).cell? id.values

/-- The store with a cell changed. -/
def setCell (e : Exposition) (id : SeriesId) (cell : ExposedCell) : Exposition :=
  { e with families := e.families.adjust id.family fun f => f.adjust id.values fun _ => cell }

/-- The first bucket that takes an observation: the one with the least bound
at or above it. What cannot be compared is taken by none. -/
def bucketOf? (bounds : List Binary64) (a : Amount) : Option Nat :=
  (bounds ++ [Binary64.infinite false]).findIdx? fun bound =>
    !(Amount.real bound).lt a && !isNan a
where
  /-- Whether an amount cannot be compared. -/
  isNan : Amount → Bool
    | .real .nan => true
    | _ => false

/-- **What an operation makes of a cell**, and whether it fails. A histogram
sums up before it counts, so an observation beyond the range changes
nothing. -/
def change (shape : Shape) (cell : ExposedCell) (verb : Verb) (argument : Value) :
    Except Fault Unit × ExposedCell :=
  let sumTo (sum : Except Fault Binary64) : Except Fault Unit × ExposedCell :=
    match sum with
    | .ok x => (.ok (), .value x)
    | .error fault => (.error fault, cell)
  match shape, verb, cell with
  | .counter, .inc, .value x =>
    match Amount.ofValue argument with
    | .error fault => (.error fault, cell)
    | .ok a => if a.isNegative then (.error .negativeIncrement, cell) else sumTo (a.addTo x)
  | .gauge, .inc, .value x => sumTo (Amount.ofValue argument >>= Amount.addTo x)
  | .gauge, .dec, .value x => sumTo (Amount.ofValue argument >>= fun a => a.neg.addTo x)
  | .gauge, .set, .value _ => sumTo argument.toReal
  | .histogram bounds, .observe, .histogram sum counts =>
    match Amount.ofValue argument with
    | .error fault => (.error fault, cell)
    | .ok a =>
      match a.addTo sum with
      | .error fault => (.error fault, cell)
      | .ok sum =>
        let counts := match bucketOf? bounds a with
          | some bucket => counts.modify bucket (· + 1)
          | none => counts
        (.ok (), .histogram sum counts)
  | _, _, _ => (.error .absent, cell)

/-- Whether an exemplar can be attached: labels of texts, 128 characters in
all. -/
def exemplarFault? : Value → Option Fault
  | .dict entries =>
    if entries.isEmpty then none
    else
      match entries.findSome? fun (key, _) =>
          if key.startsWith "__" then some (Fault.stated "ValueError"
            [.text (Refusal.reservedLabel key).reason]) else none with
      | some fault => some fault
      | none =>
        match entries.mapM fun (key, value) => match value with
            | .text s => some (key.length + s.length)
            | _ => none with
        | none => some .mistyped
        | some sizes =>
          if 128 < total sizes then
            some (.stated "ValueError" [.text ("Exemplar labels have " ++ toString (total sizes)
              ++ " UTF-8 characters, exceeding the limit of 128")])
          else none
  | v => if v.truthy then some .absent else none

/-- The arguments of an operation, and the exemplar that comes with them. Only
counters and histograms take one, so a gauge refuses a second argument. -/
def splitExemplar (shape : Shape) (args : List Value) : List Value × Value :=
  match shape, args with
  | .counter, [a, exemplar] | .histogram _, [a, exemplar] => ([a], exemplar)
  | _, args => (args, .null)

/-- **Operates on the handle of a series.** Where something is counted, a
second argument is an exemplar, which is looked at after the change. -/
def call (e : Exposition) (id : SeriesId) (verb : Verb) (args : List Value) :
    Except Fault Unit × Exposition :=
  match e.families.get? id.family, e.cell? id with
  | some family, some cell =>
    if !family.shape.verbs.contains verb then (.error .absent, e)
    else
      let (args, exemplar) := splitExemplar family.shape args
      match verb.argument args with
      | .error fault => (.error fault, e)
      | .ok argument =>
        match change family.shape cell verb argument with
        | (.error fault, cell) => (.error fault, e.setCell id cell)
        | (.ok (), cell) =>
          match exemplarFault? exemplar with
          | some fault => (.error fault, e.setCell id cell)
          | none => (.ok (), e.setCell id cell)
  | _, _ => (.error .missingKey, e)

/-! ## Samples -/

/-- The samples of a histogram: for each bound how many observations lie at or
below it, then their number, and their sum unless a bound is negative, since
such a sum can decrease. -/
def histogramSamples (name : String) (labels : List (String × String))
    (bounds : List Binary64) (sum : Binary64) (counts : List Nat) : List Sample :=
  let bounds := bounds ++ [Binary64.infinite false]
  let cumulative := (bounds.zip counts).foldl
    (fun (acc : Nat × List Sample) (bound, n) =>
      let total := acc.1 + n
      (total, acc.2 ++ [⟨name ++ "_bucket",
        labels ++ [("le", bound.render .exposition)], (Binary64.ofInt? total).getD 0⟩]))
    (0, [])
  let negative := match bounds.head? with
    | some bound => bound.lt 0
    | none => false
  cumulative.2 ++ [⟨name ++ "_count", labels, (Binary64.ofInt? cumulative.1).getD 0⟩]
    ++ if negative then [] else [⟨name ++ "_sum", labels, sum⟩]

/-- The samples of a family, series by series. -/
def familySamples (name : String) (family : Family ExposedCell) : List Sample :=
  let name := stem family.shape name
  family.series.entries.flatMap fun (values, cell) =>
    let labels := family.labelling values
    match family.shape, cell with
    | .counter, .value x => [⟨name ++ "_total", labels, x⟩]
    | .gauge, .value x => [⟨name, labels, x⟩]
    | .histogram bounds, .histogram sum counts =>
      histogramSamples name labels bounds sum counts
    | _, _ => []

/-- **All samples** of the registry. -/
def samples (e : Exposition) : List Sample :=
  e.families.entries.flatMap fun (name, family) => familySamples name family

/-- Whether the labels of a sample are the given ones, in any order. -/
def matchesLabels (sample : Sample) (given : Labelling) : Bool :=
  sample.labels.length == given.length
    && given.all fun (name, value) =>
      match value with
      | .text s => sample.labels.contains (name, s)
      | _ => false

/-- **The number of the first sample** with a name and labels. -/
def sample? (e : Exposition) (name : String) (given : Labelling) : Option Binary64 :=
  (e.samples.find? fun sample => sample.name == name && matchesLabels sample given).map
    Sample.value

/-! ## Text -/

/-- Whether a character may stand in a name; a digit not at the start, a colon
only in the name of a metric. -/
def isNameChar (colon first : Bool) (c : Char) : Bool :=
  c.isAlpha || c == '_' || (c.isDigit && !first) || (c == ':' && colon)

/-- A name in which every other character has become an underscore. -/
def cleanName (colon : Bool) (name : String) : String :=
  let clean (first : Bool) (c : Char) : Char := if isNameChar colon first c then c else '_'
  match name.toList with
  | [] => ""
  | c :: rest =>
    let legal := isNameChar colon true c
      && (let rest := if rest.getLast? = some '\n' then rest.dropLast else rest
          rest.all (isNameChar colon false))
    if legal then name else String.ofList (clean true c :: rest.map (clean false))

/-- A text with escapes for some characters. -/
def escape (escapes : Char → Option (List Char)) (s : String) : String :=
  String.ofList (s.toList.flatMap fun c => (escapes c).getD [c])

/-- A help text on one line. -/
def escapeHelp : String → String := escape fun
  | '\\' => some ['\\', '\\']
  | '\n' => some ['\\', 'n']
  | _ => none

/-- A label value between double quotes. -/
def escapeLabel : String → String := escape fun
  | '\\' => some ['\\', '\\']
  | '\n' => some ['\\', 'n']
  | '"' => some ['\\', '"']
  | _ => none

/-- The line of a sample; its labels are sorted by name. -/
def sampleLine (sample : Sample) : String :=
  let labels := sample.labels.mergeSort fun a b => decide (¬ b.1 < a.1)
  let pairs := labels.map fun (name, value) =>
    cleanName false name ++ "=\"" ++ escapeLabel value ++ "\""
  let labels := if pairs.isEmpty then "" else "\x7b" ++ ",".intercalate pairs ++ "\x7d"
  cleanName true sample.name ++ labels ++ " " ++ sample.value.render .exposition

/-- The kind of a family in the text. -/
def kindName : Shape → String
  | .counter => "counter"
  | .gauge => "gauge"
  | .histogram _ => "histogram"

/-- The lines of a family: its help text, its kind and its samples. -/
def familyLines (name : String) (family : Family ExposedCell) : List String :=
  let title := cleanName true (stem family.shape name
    ++ match family.shape with | .counter => "_total" | _ => "")
  ("# HELP " ++ title ++ " " ++ escapeHelp family.help)
    :: ("# TYPE " ++ title ++ " " ++ kindName family.shape)
    :: (familySamples name family).map sampleLine

/-- **The text a scraper reads.** -/
def text (e : Exposition) : String :=
  String.join ((e.families.entries.flatMap fun (name, family) => familyLines name family).map
    (· ++ "\n"))

end Exposition

end QuicTelemetry
