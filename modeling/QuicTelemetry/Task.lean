import QuicTelemetry.Fault

/-!
# Measured tasks

A process is driven from outside: it is resumed with a value or with an
exception, and then yields, returns or raises. A *measured task* stands between
a driver and a process. Whatever it is asked for, it asks the process for, and
whatever the process answers, it answers; besides, it measures each step:

* the *delay*, from the moment the task could go on to the start of the step;
* the *poll*, how long the step took.

The task could go on when it was made, when it yielded something it need not
wait for, and when what it waits for was completed.
-/

namespace QuicTelemetry

/-- What a process is resumed with. -/
inductive Resumption where
  /-- A value. -/
  | send (v : Value)
  /-- An exception. -/
  | throw (e : Fault)

/-- **What a process does** when it is resumed. -/
inductive Step where
  /-- It stops for now and hands out a value. -/
  | yielded (v : Value)
  /-- It is done and has a result. -/
  | returned (v : Value)
  /-- It is done and failed. -/
  | raised (e : Fault)

/-- **What surrounds a task**: the clock, the process, the pending results it
can wait for, and the metrics that take its measurements. All of it changes a
world `W`. -/
structure Surroundings (W : Type) where
  /-- The time. -/
  now : W → Binary64
  /-- Resumes the process. -/
  resume : Resumption → W → Step × W
  /-- Closes the process, which may fail. -/
  close : W → Except Fault Unit × W
  /-- Whether a value is a pending result. -/
  isPending : Value → Bool
  /-- Has the task woken up when a pending result is completed. -/
  awaitResult : Value → W → W
  /-- Takes a delay. -/
  takeDelay : Binary64 → W → Except Fault Unit × W
  /-- Takes the duration of a step. -/
  takeDuration : Binary64 → W → Except Fault Unit × W
  /-- Takes the whole microseconds of a step. -/
  addMicros : Int → W → Except Fault Unit × W

/-- How far a task is. -/
inductive Phase where
  /-- It was made. -/
  | unstarted
  /-- Its process has yielded. -/
  | suspended
  /-- It is over. -/
  | finished
  deriving DecidableEq, Repr

/-- **What a task is to its driver.** The two forms differ in how they answer
when they are over. -/
inductive TaskForm where
  /-- A generator: it answers with no value, or with what is thrown in. -/
  | generator
  /-- A coroutine: it cannot be used again. -/
  | coroutine
  deriving DecidableEq, Repr

/-- **A measured task.** -/
structure Task where
  /-- What it is to its driver. -/
  form : TaskForm
  /-- How far it is. -/
  phase : Phase
  /-- When it could go on. -/
  wokenAt : Binary64
  deriving Repr

/-- What a driver asks a task for. -/
inductive TaskRequest where
  /-- To go on with a value. -/
  | send (v : Value)
  /-- To go on with an exception. -/
  | throw (e : Fault)
  /-- To end. -/
  | close

/-- **What a task answers.** -/
inductive TaskReply where
  /-- It hands out a value. -/
  | yielded (v : Value)
  /-- It is done and has a result. -/
  | returned (v : Value)
  /-- It failed. -/
  | raised (e : Fault)
  /-- It has ended. -/
  | closed

/-- What an exception means to whoever drives a process. -/
inductive Signal where
  /-- The process is to end. -/
  | exit
  /-- The process is done and has a result. -/
  | stop (v : Value)
  /-- A failure. -/
  | failure
  deriving Repr

/-- The meaning of an exception. -/
def Fault.signal : Fault → Signal
  | .stated "GeneratorExit" _ => .exit
  | .stated "StopIteration" args => .stop (args.headD .null)
  | _ => .failure

namespace Task

/-- A new task. -/
def new (form : TaskForm) (now : Binary64) : Task := ⟨form, .unstarted, now⟩

/-- The task that is over. -/
def finish (t : Task) : Task := { t with phase := .finished }

/-- The task that waits for its driver. -/
def suspend (t : Task) : Task := { t with phase := .suspended }

/-- The task that can go on from now. -/
def wake (t : Task) (now : Binary64) : Task := { t with wokenAt := now }

variable {W : Type}

/-- The whole microseconds of a duration. -/
def wholeMicros (seconds : Binary64) : Except Fault Int :=
  let micros := seconds.mulNat 1000000
  match micros, micros.truncate? with
  | _, some n => .ok n
  | .nan, none => .error .malformed
  | _, none => .error .overflow

/-- How long the task has been able to go on, none of it below zero. -/
def delay (t : Task) (s : Surroundings W) (w : W) : Binary64 := ((s.now w).sub t.wokenAt).max 0

/-- **Takes the duration of a step**: it is observed, then its whole
microseconds are added up. -/
def record (s : Surroundings W) (seconds : Binary64) (w : W) : Except Fault Unit × W :=
  match s.takeDuration seconds w with
  | (.error e, w) => (.error e, w)
  | (.ok (), w) =>
    match wholeMicros seconds with
    | .error e => (.error e, w)
    | .ok n => s.addMicros n w

/-- What a step comes to once it is recorded. -/
def settle (s : Surroundings W) (step : Step) (t : Task) (w : W) : TaskReply × Task × W :=
  match step with
  | .returned v => (.returned v, t.finish, w)
  | .raised e => (.raised e, t.finish, w)
  | .yielded v =>
    if s.isPending v then (.yielded v, t.suspend, s.awaitResult v w)
    else (.yielded v, t.suspend.wake (s.now w), w)

/-- **One step of the process, measured.** A metric that does not take its
measurement ends the task in the place of what the process did. -/
def poll (s : Surroundings W) (r : Resumption) (t : Task) (w : W) : TaskReply × Task × W :=
  let started := s.now w
  match s.takeDelay (t.delay s w) w with
  | (.error e, w) => (.raised e, t.finish, w)
  | (.ok (), w) =>
    -- the step is over when the process answers, whatever it answers
    let (step, w) := s.resume r w
    match record s ((s.now w).sub started) w with
    | (.error e, w) => (.raised e, t.finish, w)
    | (.ok (), w) => settle s step t w

/-- The answer to what is thrown into a task that has not started. -/
def refuse (e : Fault) : TaskReply :=
  match e.signal with
  | .stop _ => .raised .broken
  | _ => .raised e

/-- **Asks a task for something.** An exception that means to end closes the
process and is answered itself, unless the closing fails. -/
def request (s : Surroundings W) (r : TaskRequest) (t : Task) (w : W) : TaskReply × Task × W :=
  match t.phase, r with
  | .unstarted, .send .null => poll s (.send .null) t w
  | .unstarted, .send _ => (.raised .mistyped, t, w)
  | .unstarted, .throw e => (refuse e, t.finish, w)
  | .unstarted, .close => (.closed, t.finish, w)
  | .suspended, .send v => poll s (.send v) t w
  | .suspended, .throw e =>
    match e.signal with
    | .exit =>
      match s.close w with
      | (.ok (), w) => (.raised e, t.finish, w)
      | (.error failure, w) => (.raised failure, t.finish, w)
    | _ => poll s (.throw e) t w
  | .suspended, .close =>
    match s.close w with
    | (.ok (), w) => (.closed, t.finish, w)
    | (.error failure, w) => (.raised failure, t.finish, w)
  | .finished, .close => (.closed, t, w)
  | .finished, .send _ =>
    match t.form with
    | .generator => (.returned .null, t, w)
    | .coroutine => (.raised .broken, t, w)
  | .finished, .throw e =>
    match t.form, e.signal with
    | .coroutine, _ => (.raised .broken, t, w)
    | .generator, .stop v => (.returned v, t, w)
    | .generator, _ => (.raised e, t, w)

end Task

end QuicTelemetry
