import QuicTelemetry.Proofs.Facade.History
import QuicTelemetry.Proofs.Task.Setup
import QuicTelemetry.Task.Script

/-!
# A pool of measured tasks

Any number of measured tasks over one facade, each with a name that others may
have too. Their drivers take turns, and a driver may be a process of the same
pool: while a step of one task is running, steps of others may run within
it, new tasks may be made, and pending results may be completed. Only the task
itself cannot be asked for anything until its step is over.

So what happens is a tree rather than a list, and a `Scenario` is that tree:
whatever happens while the process of a task is at work hangs below the request
that resumed it. What the processes compute is not modelled. A scenario says
what each of them answers, and the statements are about every scenario.

A pool writes down its *polls*: each time a process was resumed, with the
readings of the clock at which the step was asked for and at which the process
answered. That is what the metrics are compared with.
-/

namespace QuicTelemetry

/-! ## Measurements -/

/-- **What is measured of a task.** -/
inductive Measurement where
  /-- How long it had been able to go on before a step. -/
  | delay
  /-- How long a step took. -/
  | duration
  /-- The whole microseconds of its steps. -/
  | micros
  deriving DecidableEq, Repr

namespace Measurement

/-- The event a measurement is reported by. -/
def event (k : Measurement) (name : Value) : Event :=
  match k with
  | .delay => .taskScheduleDelay name
  | .duration => .taskPollDuration name
  | .micros => .taskPollTime name

/-- The metric that takes a measurement. -/
def metric : Measurement → Metric
  | .delay => Catalogue.taskScheduleDelaySeconds
  | .duration => Catalogue.taskPollDurationSeconds
  | .micros => Catalogue.taskTotalPollTimeMicros

/-- The operation by which it is taken. -/
def verb : Measurement → Verb
  | .delay | .duration => .observe
  | .micros => .inc

/-- **The series of a measurement** of the tasks of one name. -/
def series (space : Option String) (k : Measurement) (name : String) : SeriesId :=
  ⟨qualify space k.metric.name, [name]⟩

@[simp] theorem metric_event (k : Measurement) (name : Value) :
    (k.event name).metric = k.metric := by
  cases k <;> rfl

@[simp] theorem sources_event (k : Measurement) (name : Value) :
    (k.event name).sources = [("task", .free name)] := by
  cases k <;> rfl

@[simp] theorem labels_metric (k : Measurement) : k.metric.labels = ["task"] := by cases k <;> rfl

theorem metric_mem_all (k : Measurement) : k.metric ∈ Catalogue.all := by
  rw [← k.metric_event .null]
  exact Event.metric_mem_all _

/-- The metrics of tasks are always on. -/
theorem metric_mem_permitted (flags : Flags) (k : Measurement) :
    k.metric ∈ Catalogue.permitted flags := by
  refine List.mem_filter.mpr ⟨k.metric_mem_all, ?_⟩
  cases k <;> rfl

end Measurement

/-! ## Workers -/

/-- **A measured task** of a pool, with the handles for its measurements. -/
structure Worker where
  /-- The name that its series have. -/
  name : String
  /-- The handles. -/
  handle : Measurement → Handle
  /-- The task. -/
  task : Task
  /-- Whether a request of it is being served. -/
  busy : Bool := false

/-- A task after a request: it could go on from when the request left it so, or
from when it was woken up meanwhile. -/
def Worker.leave (reply : TaskReply) (task : Task) (worker : Worker) : Worker :=
  let wokenAt :=
    match reply with
    | .yielded v => if Script.isPending v then worker.task.wokenAt else task.wokenAt
    | _ => worker.task.wokenAt
  { worker with task := { task with wokenAt }, busy := false }

/-- **A step of a process**: the readings of the clock at which it was asked for
and at which the process answered. -/
structure Poll where
  /-- The name of the task. -/
  name : String
  /-- The reading at which it was asked for. -/
  started : Nat
  /-- The reading at which it was over. -/
  ended : Nat
  deriving DecidableEq, Repr

namespace Poll

/-- How long a step took, by the clock. -/
def duration (clock : Nat → Binary64) (p : Poll) : Binary64 := (clock p.ended).sub (clock p.started)

/-- The whole microseconds of a step, if they can be counted. -/
def micros? (clock : Nat → Binary64) (p : Poll) : Option Int :=
  (Task.wholeMicros (p.duration clock)).toOption

/-- The steps of the tasks of a name. -/
def named (name : String) (polls : List Poll) : List Poll := polls.filter fun p => p.name = name

theorem named_append (name : String) (polls : List Poll) (p : Poll) :
    named name (polls ++ [p]) = named name polls ++ if p.name = name then [p] else [] := by
  unfold named
  rw [List.filter_append, List.filter_singleton]
  simp

end Poll

/-- **A pool.** -/
structure TaskPool where
  /-- The facade that all tasks report to. -/
  facade : Facade
  /-- Its store. -/
  store : Store
  /-- The setting of its logger. -/
  logging : Logging
  /-- The tasks, oldest first. -/
  workers : List Worker := []
  /-- The number of the next reading of the clock. -/
  reading : Nat := 0
  /-- The steps of all processes, in the order in which they were over. -/
  polls : List Poll := []

namespace TaskPool

/-- A pool without tasks, over a memory store in which there is nothing. -/
def start (flags : Flags) (space : Value) (logging : Logging) (stamp : String) (logger : Logger) :
    Except Fault TaskPool :=
  match Facade.build .ofMemory flags space logging stamp logger with
  | (.ok (facade, _), store) => .ok { facade, store, logging }
  | (.error fault, _) => .error fault

/-- The pool a moment later. -/
def pass (w : TaskPool) : TaskPool := { w with reading := w.reading + 1 }

/-- The pool that has written down one step more. -/
def note (w : TaskPool) (p : Poll) : TaskPool := { w with polls := w.polls ++ [p] }

/-- The pool with one task changed. -/
def change (w : TaskPool) (i : Nat) (f : Worker → Worker) : TaskPool :=
  { w with workers := w.workers.modify i f }

/-- The handle for a measurement of the tasks of a name. -/
def resolve (k : Measurement) (name : Value) (w : TaskPool) : Except Fault Handle × TaskPool :=
  -- the stamp is for log lines, and the events of tasks log nothing
  let (response, facade, store) := w.facade.report w.store w.logging "" (k.event name)
  (response.map Facade.Response.handle, { w.pass with facade, store })

/-- **Makes a task**, which could go on from now. -/
def wrap (clock : Nat → Binary64) (form : TaskForm) (name : Value) (w : TaskPool) : TaskPool :=
  match w.resolve .delay name with
  | (.error _, w) => w
  | (.ok delay, w) =>
    match w.resolve .duration name with
    | (.error _, w) => w
    | (.ok duration, w) =>
      match w.resolve .micros name with
      | (.error _, w) => w
      | (.ok micros, w) =>
        let handle : Measurement → Handle
          | .delay => delay
          | .duration => duration
          | .micros => micros
        let worker : Worker := { name := name.toText, handle, task := .new form (clock w.reading) }
        { w.pass with workers := w.workers ++ [worker] }

/-- Wakes a task up: what it waited for was completed. -/
def wake (clock : Nat → Binary64) (i : Nat) (w : TaskPool) : TaskPool :=
  (w.change i fun worker => { worker with task := worker.task.wake (clock w.reading) }).pass

/-- Takes a measurement of a task. -/
def take (worker : Worker) (k : Measurement) (v : Value) (w : TaskPool) :
    Except Fault Unit × TaskPool :=
  let (outcome, store) := (worker.handle k).call w.store k.verb [v]
  (outcome, { w.pass with store })

/-- **What surrounds a task** while one request of it is served: what happens
while its process is at work, and what the process answers. -/
def surroundings (clock : Nat → Binary64) (worker : Worker) (started : Nat)
    (during : TaskPool → TaskPool) (step : Step) (closing : Except Fault Unit) :
    Surroundings TaskPool where
  now w := clock w.reading
  resume _ w :=
    let w := (during w).pass
    (step, w.note ⟨worker.name, started, w.reading⟩)
  close w := (closing, (during w).pass)
  isPending := Script.isPending
  awaitResult _ w := w.pass
  takeDelay x := take worker .delay (.real x)
  takeDuration x := take worker .duration (.real x)
  addMicros n := take worker .micros (.int n)

/-- **Asks a task for something.** A task that is being asked already refuses,
and nothing happens. -/
def ask (clock : Nat → Binary64) (i : Nat) (r : TaskRequest) (during : TaskPool → TaskPool)
    (step : Step) (closing : Except Fault Unit) (w : TaskPool) : TaskPool :=
  match w.workers[i]? with
  | none => w
  | some worker =>
    if worker.busy then w
    else
      let s := surroundings clock worker w.reading during step closing
      let (reply, task, w) :=
        worker.task.request s r (w.change i fun worker => { worker with busy := true })
      w.change i (Worker.leave reply task)

end TaskPool

/-! ## Scenarios -/

/-- **What happens in a pool.** -/
inductive Scenario where
  /-- Nothing more. -/
  | done
  /-- A task is made. -/
  | wrap (form : TaskForm) (name : Value) (rest : Scenario)
  /-- A task is woken up. -/
  | wake (worker : Nat) (rest : Scenario)
  /-- A task is asked for something. What happens while its process is at work
  hangs below; the process ends a step, or its closing, in the way that is
  given. -/
  | ask (worker : Nat) (r : TaskRequest) (during : Scenario) (step : Step)
      (closing : Except Fault Unit) (rest : Scenario)

/-- **Runs a scenario.** -/
def Scenario.run (clock : Nat → Binary64) : Scenario → TaskPool → TaskPool
  | .done, w => w
  | .wrap form name rest, w => rest.run clock (w.wrap clock form name)
  | .wake i rest, w => rest.run clock (w.wake clock i)
  | .ask i r during step closing rest, w =>
    rest.run clock (w.ask clock i r (during.run clock) step closing)

end QuicTelemetry
