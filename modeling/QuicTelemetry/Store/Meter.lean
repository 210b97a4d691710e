import QuicTelemetry.Store.Family

/-!
# Meters

A meter makes instruments and takes what is measured with them. An instrument
has no series of its own: each measurement carries its attributes. The
simplest meter is the one that writes down what it was asked for.
-/

namespace QuicTelemetry

/-- What an instrument measures. -/
inductive InstrumentKind where
  /-- Amounts that add up. -/
  | counter
  /-- The latest value. -/
  | gauge
  /-- A distribution. -/
  | histogram
  deriving DecidableEq, Repr

/-- The instrument for a family of the given shape. -/
def Shape.instrument : Shape → InstrumentKind
  | .counter => .counter
  | .gauge => .gauge
  | .histogram _ => .histogram

/-- **An instrument** of a meter. -/
structure Instrument where
  /-- What it measures. -/
  kind : InstrumentKind
  /-- The name it was asked for under. -/
  name : String
  /-- Its place in the meter. -/
  place : Nat
  deriving DecidableEq, Repr

/-- The attributes of a measurement. -/
abbrev Attributes := List (String × String)

/-- **A meter**: it may refuse to make an instrument or to take a
measurement. -/
class Meter (M : Type) where
  /-- Makes an instrument with a name and a help text. -/
  create : M → InstrumentKind → String → String → Except Fault Instrument × M
  /-- Takes a measurement. -/
  measure : M → Instrument → Value → Attributes → Except Fault Unit × M

/-- What a meter can be asked for. -/
inductive MeterRequest where
  /-- To make an instrument. -/
  | create (kind : InstrumentKind) (name help : String)
  /-- To take a measurement. -/
  | measure (kind : InstrumentKind) (name : String) (amount : Value) (attributes : Attributes)
  deriving Repr

/-- **The meter that writes down** what it was asked for, and refuses
nothing. -/
structure Recorder where
  /-- The requests, oldest first. -/
  requests : List MeterRequest := []

instance : Meter Recorder where
  create r kind name help := (.ok ⟨kind, name, 0⟩, ⟨r.requests ++ [.create kind name help]⟩)
  measure r instrument amount attributes :=
    (.ok (), ⟨r.requests ++ [.measure instrument.kind instrument.name amount attributes]⟩)

end QuicTelemetry
