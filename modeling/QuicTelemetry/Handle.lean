import QuicTelemetry.Store

/-!
# Handles

A handle is what an event gives its caller to mutate. Most handles belong to a
series of a store; the others do nothing, and have the same operations as a
series of their kind.
-/

namespace QuicTelemetry

/-- **A handle.** -/
inductive Handle where
  /-- One that does nothing. -/
  | idle (kind : MetricKind)
  /-- The handle of a series. -/
  | live (id : SeriesId)
  deriving DecidableEq, Repr

/-- The operations of a handle that does nothing. -/
def MetricKind.verbs : MetricKind → List Verb
  | .counter => [.inc]
  | .gauge => [.inc, .dec, .set]
  | .histogram | .timeHistogram => [.observe]

namespace Handle

/-- The operations a handle has. -/
def verbs (store : Store) : Handle → List Verb
  | .idle kind => kind.verbs
  | .live id => ((store.shape? id.family).map Shape.verbs).getD []

/-- What the time of a block is reported with, if the handle can measure one:
histograms observe it, and an exposed gauge is set to it. -/
def timeVerb? (store : Store) : Handle → Option Verb
  | .idle kind => if kind.isHistogram then some .observe else none
  | .live id =>
    match store, store.shape? id.family with
    | _, some (.histogram _) => some .observe
    | .exposition _, some .gauge => some .set
    | _, _ => none

/-- **Operates on a handle.** -/
def call (store : Store) (handle : Handle) (verb : Verb) (args : List Value) :
    Except Fault Unit × Store :=
  match handle with
  | .idle kind =>
    if kind.verbs.contains verb then ((verb.argument args).map fun _ => (), store)
    else (.error .absent, store)
  | .live id => store.call id verb args

/-- Which of the four kinds of handle a handle can stand for, by the operations
it has: a counter, a gauge, a histogram, a histogram of times. -/
def standsFor (store : Store) (handle : Handle) : List (MetricKind × Bool) :=
  let verbs := handle.verbs store
  let times := (handle.timeVerb? store).isSome
  [(.counter, verbs.contains .inc),
   (.gauge, [Verb.inc, .dec, .set].all verbs.contains),
   (.histogram, verbs.contains .observe),
   (.timeHistogram, verbs.contains .observe && times)]

end Handle

/-! ## Timers -/

/-- **A timer** reports to its handle how long a block took. -/
structure Timer where
  /-- The handle it reports to. -/
  handle : Handle
  /-- The operation it reports with. -/
  verb : Verb
  /-- When the block was entered; a timer of an exposed series has no such time
  at first, and one of any other starts at zero. -/
  start : Option Binary64
  deriving Repr

namespace Timer

/-- A new timer of a handle. -/
def new (store : Store) (handle : Handle) : Except Fault Timer :=
  match handle.timeVerb? store with
  | none => .error .absent
  | some verb =>
    let start := match store, handle with
      | .exposition _, .live _ => none
      | _, _ => some 0
    .ok ⟨handle, verb, start⟩

/-- The timer whose block is entered now. -/
def enter (timer : Timer) (now : Binary64) : Timer := { timer with start := some now }

/-- The seconds since the block was entered, none of them below zero. -/
def elapsed (timer : Timer) (now : Binary64) : Except Fault Binary64 :=
  match timer.start with
  | some start => .ok ((now.sub start).max 0)
  | none => .error .absent

/-- **Leaves the block**: reports the elapsed time to the handle. -/
def exit (store : Store) (timer : Timer) (now : Binary64) : Except Fault Unit × Store :=
  match timer.elapsed now with
  | .error fault => (.error fault, store)
  | .ok seconds => timer.handle.call store timer.verb [.real seconds]

end Timer

end QuicTelemetry
