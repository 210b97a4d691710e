import QuicTelemetry.Store.Meter

/-!
# The metered store

Forwards what happens to the instruments of a meter. A handle binds the
attributes of its series. Counters and histograms forward amounts as they are
given; a gauge keeps its running value and forwards that.
-/

namespace QuicTelemetry

/-- A family with the instrument it forwards to. -/
structure MeteredFamily where
  /-- The instrument. -/
  instrument : Instrument
  /-- The family; its cells are the running values of a gauge. -/
  family : Family Binary64

/-- **A store over a meter.** -/
structure Metered (M : Type) where
  /-- The meter. -/
  meter : M
  /-- The names that were claimed, whether an instrument came of it or not. -/
  claimed : List String := []
  /-- The families by name. -/
  families : Table String MeteredFamily := .empty

namespace Metered

variable {M : Type} [Meter M]

omit [Meter M] in
/-- The names that are taken. -/
def names (m : Metered M) : List String := m.claimed

/-- **Registers a family.** The name is taken even if the meter then refuses
the instrument. -/
def register (m : Metered M) (name help : String) (shape : Shape) (labels : List String) :
    Except Fault Unit × Metered M :=
  if m.claimed.contains name then (.error (.schema name .taken), m)
  else
    let m := { m with claimed := m.claimed ++ [name] }
    match Meter.create m.meter shape.instrument name help with
    | (.error fault, meter) => (.error fault, { m with meter })
    | (.ok instrument, meter) =>
      (.ok (),
        { m with
          meter, families := m.families.push name ⟨instrument, { help, shape, labels }⟩ })

omit [Meter M] in
/-- **Resolves a series**: the one with these labels, made if it is new. -/
def resolve (m : Metered M) (name : String) (given : Labelling) :
    Except Fault SeriesId × Metered M :=
  match m.families.get? name with
  | none => (.error .missingKey, m)
  | some f =>
    if given.clashes ["self"] then (.error .mistyped, m)
    else
      match checkLabels name f.family.labels (given.map Prod.fst) with
      | .error fault => (.error fault, m)
      | .ok () =>
        let values := given.values f.family.labels
        (.ok ⟨name, values⟩,
          { m with
            families := m.families.adjust name fun f =>
              { f with family := f.family.ensure values 0 } })

omit [Meter M] in
/-- The store with the running value of a gauge changed. -/
def setValue (m : Metered M) (id : SeriesId) (x : Binary64) : Metered M :=
  { m with
    families := m.families.adjust id.family fun f =>
      { f with family := f.family.adjust id.values fun _ => x } }

/-- Forwards a measurement. -/
def forward (m : Metered M) (instrument : Instrument) (amount : Value)
    (attributes : Attributes) : Except Fault Unit × Metered M :=
  let (outcome, meter) := Meter.measure m.meter instrument amount attributes
  (outcome, { m with meter })

/-- Sets the running value of a gauge and forwards it. -/
def forwardValue (m : Metered M) (id : SeriesId) (instrument : Instrument)
    (attributes : Attributes) (value : Except Fault Binary64) :
    Except Fault Unit × Metered M :=
  match value with
  | .error fault => (.error fault, m)
  | .ok x => (m.setValue id x).forward instrument (.real x) attributes

/-- **Operates on the handle of a series.** -/
def call (m : Metered M) (id : SeriesId) (verb : Verb) (args : List Value) :
    Except Fault Unit × Metered M :=
  match m.families.get? id.family with
  | none => (.error .missingKey, m)
  | some ⟨instrument, family⟩ =>
    let attributes := family.labelling id.values
    let value := (family.cell? id.values).getD 0
    if !family.shape.verbs.contains verb then (.error .absent, m)
    else
      match verb.argument args with
      | .error fault => (.error fault, m)
      | .ok argument =>
        match family.shape, verb with
        | .counter, _ =>
          match Amount.ofValue argument with
          | .error fault => (.error fault, m)
          | .ok a =>
            if a.isNegative then (.error .negativeIncrement, m)
            else m.forward instrument argument attributes
        | .histogram _, _ => m.forward instrument argument attributes
        | .gauge, .inc =>
          m.forwardValue id instrument attributes (Amount.ofValue argument >>= Amount.addTo value)
        | .gauge, .dec =>
          m.forwardValue id instrument attributes
            (Amount.ofValue argument >>= fun a => a.neg.addTo value)
        | .gauge, _ => m.forwardValue id instrument attributes argument.toReal

end Metered

end QuicTelemetry
