import QuicTelemetry.Task

/-!
# Setups for measured tasks

What a measured task does depends on four things that it does not own: the
process behind it, the metrics that take its measurements, the clock, and what
counts as a pending result. A `Setup` is any choice of these four, and a
`SetupState` is their state, each part on its own: resuming the process moves no
metric, taking a measurement does not touch the process. Time passes with
every operation, so no two readings of the clock need to be equal.

A process is told to end where a driver closes it. What it does then is its
own affair, and `Process.close` says what its closing comes to.
-/

namespace QuicTelemetry

/-! ## Processes -/

/-- **A process**, by what it does. -/
structure Process (P : Type) where
  /-- When it is resumed. -/
  resume : Resumption → P → Step × P
  /-- When it is told to end. -/
  quit : P → Step × P

/-- **Closes a process.** One that hands something out instead is broken; one
that fails otherwise than by ending fails the closing. -/
def Process.close {P : Type} (p : Process P) (x : P) : Except Fault Unit × P :=
  match p.quit x with
  | (.yielded _, x) => (.error .broken, x)
  | (.returned _, x) => (.ok (), x)
  | (.raised e, x) =>
    match e.signal with
    | .failure => (.error e, x)
    | _ => (.ok (), x)

/-- A closing never fails with an exception that only says that the process
has ended. -/
theorem Process.signal_of_close {P : Type} {p : Process P} {x y : P} {e : Fault}
    (h : p.close x = (.error e, y)) : e.signal = .failure := by
  unfold Process.close at h
  split at h
  · cases h
    rfl
  · cases h
  · split at h
    · next hs =>
      cases h
      exact hs
    · cases h

/-! ## Metrics and clocks -/

/-- **The metrics of a task**, each of which may refuse what it is given. -/
structure Metering (M : Type) where
  /-- Takes a delay. -/
  takeDelay : Binary64 → M → Except Fault Unit × M
  /-- Takes the duration of a step. -/
  takeDuration : Binary64 → M → Except Fault Unit × M
  /-- Takes the whole microseconds of a step. -/
  addMicros : Int → M → Except Fault Unit × M

/-- **Metrics that refuse no amount** from zero on. -/
structure Metering.TakesAmounts {M : Type} (g : Metering M) : Prop where
  delay : ∀ x m, (0 : Binary64).le x = true → (g.takeDelay x m).1 = .ok ()
  duration : ∀ x m, (0 : Binary64).le x = true → (g.takeDuration x m).1 = .ok ()
  micros : ∀ n m, 0 ≤ n → (g.addMicros n m).1 = .ok ()

/-- **A clock that never steps backwards**, by its readings. -/
structure Steady (clock : Nat → Binary64) : Prop where
  finite : ∀ i, (clock i).isFinite = true
  le : ∀ i j, i ≤ j → (clock i).le (clock j) = true

/-- **A clock that counts in 64 bits**, in seconds or smaller parts: none of its
times is `2 ^ 64` seconds or more away from zero. -/
def InRange (clock : Nat → Binary64) : Prop :=
  ∀ i, ∃ k, (clock i).units? = some k ∧ k.natAbs < Nat.pow 2 64 * Binary64.unitsPerOne

/-! ## Setups -/

/-- **What a task does not own.** -/
structure Setup (P M : Type) where
  /-- The process behind it. -/
  process : Process P
  /-- The metrics that take its measurements. -/
  metering : Metering M
  /-- The readings of the clock. -/
  clock : Nat → Binary64
  /-- Whether a value is a pending result. -/
  isPending : Value → Bool

/-- **The state of a setup.** -/
structure SetupState (P M : Type) where
  /-- The process. -/
  process : P
  /-- The metrics. -/
  metrics : M
  /-- How much time has passed: the number of the next reading. -/
  reading : Nat := 0
  /-- The pending results that are to wake the task up. -/
  awaited : List Value := []

/-- The state a moment later. -/
def SetupState.pass {P M : Type} (b : SetupState P M) : SetupState P M :=
    { b with reading := b.reading + 1 }

namespace Setup

variable {P M : Type}

/-- The state after the metrics took something. -/
def taken (b : SetupState P M) (result : Except Fault Unit × M) :
    Except Fault Unit × SetupState P M :=
  (result.1, { b.pass with metrics := result.2 })

/-- **The surroundings a setup is.** -/
def surroundings (u : Setup P M) : Surroundings (SetupState P M) where
  now b := u.clock b.reading
  resume r b :=
    let (step, x) := u.process.resume r b.process
    (step, { b.pass with process := x })
  close b :=
    let (outcome, x) := u.process.close b.process
    (outcome, { b.pass with process := x })
  isPending := u.isPending
  awaitResult v b := { b.pass with awaited := b.awaited ++ [v] }
  takeDelay x b := taken b (u.metering.takeDelay x b.metrics)
  takeDuration x b := taken b (u.metering.takeDuration x b.metrics)
  addMicros n b := taken b (u.metering.addMicros n b.metrics)

end Setup

/-! ## Drivers -/

/-- **What happens to a task from outside.** -/
inductive DriverAction where
  /-- Its driver asks it for something. -/
  | ask (r : TaskRequest)
  /-- Some pending results are completed. -/
  | complete (isDone : Value → Bool)

/-- Completes pending results: the task wakes up if it waited for one. -/
def Setup.complete {P M : Type} (u : Setup P M) (isDone : Value → Bool) (t : Task)
    (b : SetupState P M) : Task × SetupState P M :=
  (if b.awaited.any isDone then t.wake (u.clock b.reading) else t,
    { b.pass with awaited := b.awaited.filter (!isDone ·) })

/-! ## Steps -/

/-- **What a request resumes the process with**, if it does. -/
def TaskRequest.resumption? (phase : Phase) (r : TaskRequest) : Option Resumption :=
  match phase, r with
  | .unstarted, .send .null => some (.send .null)
  | .suspended, .send v => some (.send v)
  | .suspended, .throw e =>
    match e.signal with
    | .exit => none
    | _ => some (.throw e)
  | _, _ => none

/-- **What resumes a process**: nothing but null where it was not started, and where it is
suspended a value, or an exception that does not tell it to end. -/
theorem TaskRequest.resumption?_cases {r : TaskRequest} {phase : Phase} {x : Resumption}
    (h : r.resumption? phase = some x) :
    (phase = .unstarted ∧ r = .send .null ∧ x = .send .null)
      ∨ (phase = .suspended ∧ ∃ v, r = .send v ∧ x = .send v)
      ∨ phase = .suspended ∧ ∃ e, r = .throw e ∧ e.signal ≠ .exit ∧ x = .throw e := by
  unfold resumption? at h
  split at h
  · exact .inl ⟨rfl, rfl, (Option.some.inj h).symm⟩
  · exact .inr (.inl ⟨rfl, _, rfl, (Option.some.inj h).symm⟩)
  · split at h
    · cases h
    · next hsignal => exact .inr (.inr ⟨rfl, _, rfl, hsignal, (Option.some.inj h).symm⟩)
  · cases h

/-- An exception that does not resume a suspended process tells it to end. -/
theorem TaskRequest.signal_of_resumption? {e : Fault}
    (h : TaskRequest.resumption? .suspended (.throw e) = none) : e.signal = .exit := by
  unfold TaskRequest.resumption? at h
  cases hs : e.signal with
  | exit => rfl
  | stop v =>
    simp only [hs] at h
    cases h
  | failure =>
    simp only [hs] at h
    cases h

/-- What a step is answered with. -/
def Step.reply : Step → TaskReply
  | .yielded v => .yielded v
  | .returned v => .returned v
  | .raised e => .raised e

/-- How far a task is after a step. -/
def Step.phase : Step → Phase
  | .yielded _ => .suspended
  | .returned _ | .raised _ => .finished

/-- What is answered once the process is closed: what was going to be, unless the
closing failed. -/
def TaskReply.afterClosing (reply : TaskReply) : Except Fault Unit → TaskReply
  | .ok () => reply
  | .error failure => .raised failure

namespace Task

variable {W : Type}

/-- A request that resumes the process leads to a measured step. -/
theorem request_eq_poll (s : Surroundings W) {t : Task} {r : TaskRequest} {x : Resumption}
    (h : r.resumption? t.phase = some x) (w : W) : t.request s r w = poll s x t w := by
  unfold request
  rcases TaskRequest.resumption?_cases h with
    ⟨hphase, rfl, rfl⟩ | ⟨hphase, v, rfl, rfl⟩ | ⟨hphase, e, rfl, hsignal, rfl⟩
  · rw [hphase]
  · rw [hphase]
  · rw [hphase]
    dsimp only
    split
    · next hexit => exact absurd hexit hsignal
    · rfl

/-- An exception that means to end closes the process of a suspended task. -/
theorem request_exit (s : Surroundings W) {t : Task} (ht : t.phase = .suspended) {e : Fault}
    (he : e.signal = .exit) (w : W) :
    t.request s (.throw e) w
      = ((TaskReply.raised e).afterClosing (s.close w).1, t.finish, (s.close w).2) := by
  simp only [request, ht, he]
  split <;> next hclose => rw [hclose]; rfl

/-- To close a suspended task is to close its process. -/
theorem request_close (s : Surroundings W) {t : Task} (ht : t.phase = .suspended) (w : W) :
    t.request s .close w
      = (TaskReply.closed.afterClosing (s.close w).1, t.finish, (s.close w).2) := by
  simp only [request, ht]
  split <;> next hclose => rw [hclose]; rfl

/-- The step of the process that is measured, and the world after it. -/
def step (t : Task) (s : Surroundings W) (r : Resumption) (w : W) : Step × W :=
  s.resume r (s.takeDelay (t.delay s w) w).2

/-- How long a step takes, from its start to the answer of the process. -/
def duration (t : Task) (s : Surroundings W) (r : Resumption) (w : W) : Binary64 :=
  (s.now (t.step s r w).2).sub (s.now w)

/-- A measured step whose delay is taken depends on its record. -/
theorem poll_eq {s : Surroundings W} {t : Task} {r : Resumption} {w : W}
    (htake : (s.takeDelay (t.delay s w) w).1 = .ok ()) :
    poll s r t w =
      match record s (t.duration s r w) (t.step s r w).2 with
      | (.error e, w') => (.raised e, t.finish, w')
      | (.ok (), w') => settle s (t.step s r w).1 t w' := by
  unfold poll
  rw [← Prod.eta (s.takeDelay (t.delay s w) w), htake]
  rfl

/-- A measured step whose delay is taken ends in the world of its record, or a
pending result is awaited in it. -/
theorem world_of_poll {s : Surroundings W} {t : Task} {r : Resumption} {w : W}
    (htake : (s.takeDelay (t.delay s w) w).1 = .ok ()) :
    let w' := (record s (t.duration s r w) (t.step s r w).2).2
    (poll s r t w).2.2 = w' ∨ ∃ v, (poll s r t w).2.2 = s.awaitResult v w' := by
  intro w'
  rw [poll_eq htake]
  split
  · next hrecord => exact .inl (congrArg Prod.snd hrecord).symm
  · next after hrecord =>
    have hworld : w' = after := congrArg Prod.snd hrecord
    rw [← hworld]
    unfold settle
    split
    · exact .inl rfl
    · exact .inl rfl
    · next v _ =>
      split
      · exact .inr ⟨v, rfl⟩
      · exact .inl rfl

/-- A request that does not resume the process closes it, or does nothing. -/
theorem world_of_request (s : Surroundings W) {t : Task} {r : TaskRequest}
    (h : r.resumption? t.phase = none) (w : W) :
    (t.request s r w).2.2 = w ∨ (t.request s r w).2.2 = (s.close w).2 := by
  obtain ⟨form, phase, wokenAt⟩ := t
  cases phase with
  | unstarted =>
    cases r with
    | send v => cases v <;> first | exact .inl rfl | cases h
    | throw e => exact .inl rfl
    | close => exact .inl rfl
  | suspended =>
    cases r with
    | send v => cases h
    | throw e =>
      rw [request_exit s rfl (TaskRequest.signal_of_resumption? h)]
      exact .inr rfl
    | close =>
      rw [request_close s rfl]
      exact .inr rfl
  | finished =>
    cases form with
    | coroutine => cases r <;> exact .inl rfl
    | generator =>
      cases r with
      | throw e =>
        unfold request
        dsimp only
        split <;> exact .inl rfl
      | _ => exact .inl rfl

end Task

end QuicTelemetry
