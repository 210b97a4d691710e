import QuicTelemetry.Facade
import QuicTelemetry.Task

/-!
# Scripted processes

A process given as a list of entries. Each takes some time and then returns,
raises, or hands something out and says how it goes on when it is resumed. What
it is resumed with is written down.

A script is a whole world for a measured task: it has a clock that only its
entries move, pending results that are completed from outside, and the metrics
of one task.
-/

namespace QuicTelemetry.Script

/-- How an entry goes on when an exception is thrown in. -/
inductive OnThrow where
  /-- With that exception. -/
  | fail
  /-- With the next entry. -/
  | resume
  /-- It is done and has a result. -/
  | finish (result : Value)
  /-- With another exception. -/
  | raise (e : Fault)

/-- How an entry goes on when the process is closed. -/
inductive OnClose where
  /-- It ends. -/
  | fail
  /-- It hands something out all the same. -/
  | ignore
  /-- With an exception. -/
  | raise (e : Fault)

/-- What an entry does after its work. -/
inductive Action where
  /-- It is done and has a result. -/
  | finish (v : Value)
  /-- It fails. -/
  | raise (e : Fault)
  /-- It hands a value out. -/
  | pause (v : Value)

/-- **An entry of a script.** -/
structure Entry where
  /-- The seconds it takes. -/
  work : Binary64 := 0
  /-- What it does then. -/
  action : Action
  /-- The seconds it takes when an exception is thrown in. -/
  throwWork : Binary64 := 0
  /-- How it goes on then. -/
  onThrow : OnThrow := .fail
  /-- How it goes on when it is closed. -/
  onClose : OnClose := .fail

/-- What a process writes down. -/
inductive Note where
  /-- The value it was resumed with. -/
  | sent (v : Value)
  /-- The exception it was resumed with. -/
  | thrown (e : Fault)
  /-- That it was closed. -/
  | closed

/-- **The world of a script.** -/
structure World where
  /-- The time. -/
  clock : Binary64
  /-- The entry the process is suspended in, if it is. -/
  current : Option Entry := none
  /-- The entries that follow. -/
  rest : List Entry
  /-- What the process wrote down, oldest first. -/
  notes : List Note := []
  /-- How often the task is to be woken up for each pending result. -/
  waiting : Table String Nat := .empty
  /-- Where the metrics are kept. -/
  store : Store
  /-- The handle for delays. -/
  delay : Handle
  /-- The handle for the duration of steps. -/
  duration : Handle
  /-- The handle for the total poll time. -/
  micros : Handle

/-- What an exception is once it has left the process: one that would mean the
process is done means that it is broken. -/
def leaving (e : Fault) : Fault :=
  match e.signal with
  | .stop _ => .broken
  | _ => e

/-- **The next entry**: its work, then what it does. A script that is over has
no result. -/
def advance (w : World) : Step × World :=
  match w.rest with
  | [] => (.returned .null, { w with current := none })
  | entry :: rest =>
    let w := { w with clock := w.clock.add entry.work, rest, current := none }
    match entry.action with
    | .finish v => (.returned v, w)
    | .raise e => (.raised (leaving e), w)
    | .pause v => (.yielded v, { w with current := some entry })

/-- The world with one note more. -/
def note (w : World) (n : Note) : World := { w with notes := w.notes ++ [n] }

/-- **Resumes the process.** -/
def resume (r : Resumption) (w : World) : Step × World :=
  match w.current, r with
  | none, _ => advance w
  | some _, .send v => advance (note w (.sent v))
  | some entry, .throw e =>
    let e := leaving e
    let w := note w (.thrown e)
    let w := { w with clock := w.clock.add entry.throwWork }
    match entry.onThrow with
    | .fail => (.raised e, { w with current := none })
    | .resume => advance w
    | .finish result => (.returned result, { w with current := none })
    | .raise e => (.raised (leaving e), { w with current := none })

/-- **Closes the process.** One that hands something out instead is broken. -/
def close (w : World) : Except Fault Unit × World :=
  match w.current with
  | none => (.ok (), w)
  | some entry =>
    let w := note w .closed
    match entry.onClose with
    | .fail => (.ok (), { w with current := none })
    | .ignore => (.error .broken, w)
    | .raise e =>
      match e.signal with
      | .exit => (.ok (), { w with current := none })
      | _ => (.error (leaving e), { w with current := none })

/-- Whether a value is a pending result. -/
def isPending : Value → Bool
  | .future _ => true
  | _ => false

/-- Has the task woken up once more when a pending result is completed. -/
def awaitResult (v : Value) (w : World) : World :=
  match v with
  | .future id => { w with waiting := w.waiting.put id ((w.waiting.get? id).getD 0 + 1) }
  | _ => w

/-- How often the task is to be woken up for a pending result, and the world in
which it was. -/
def complete (w : World) (id : String) : Nat × World :=
  ((w.waiting.get? id).getD 0, { w with waiting := w.waiting.put id 0 })

/-- Takes a delay. -/
def takeDelay (seconds : Binary64) (w : World) : Except Fault Unit × World :=
  let (outcome, store) := w.delay.call w.store .observe [.real seconds]
  (outcome, { w with store })

/-- Takes the duration of a step. -/
def takeDuration (seconds : Binary64) (w : World) : Except Fault Unit × World :=
  let (outcome, store) := w.duration.call w.store .observe [.real seconds]
  (outcome, { w with store })

/-- Takes the whole microseconds of a step. -/
def addMicros (n : Int) (w : World) : Except Fault Unit × World :=
  let (outcome, store) := w.micros.call w.store .inc [.int n]
  (outcome, { w with store })

/-- **The surroundings a script is.** -/
def surroundings : Surroundings World where
  now := World.clock
  resume := resume
  close := close
  isPending := isPending
  awaitResult := awaitResult
  takeDelay := takeDelay
  takeDuration := takeDuration
  addMicros := addMicros

end QuicTelemetry.Script
