import QuicTelemetry.Proofs.Task.Setup

/-!
# The timeline of a measured task

A step of a task has a beginning and an end, both readings of the clock, and
gives the metrics a delay, a duration and its whole microseconds, as far as
they take them. Between two steps, pending results are completed, and the time
from which the next delay is measured is moved about by bare yields and by
completions.

Here that is told by what happened alone. A `Past` lists the steps and the
completions of a run, the latest first, and `Past.wake` says from it which
reading the next delay is measured from. **Every step of every run fits its
past** (`Setup.told_watch`): it gives the metrics the delay since `Past.wake`
and the time that the process took, and its answer is that of the process
unless a measurement was lost.
-/

namespace QuicTelemetry

variable {P M : Type}

/-! ## What metrics are given -/

/-- **Something that the metrics of a task are given.** -/
inductive Given where
  /-- A delay. -/
  | delay (x : Binary64)
  /-- The duration of a step. -/
  | duration (x : Binary64)
  /-- The whole microseconds of a step. -/
  | micros (n : Int)
  deriving DecidableEq, Repr

/-- **Metrics that keep a note** of all they are given, whether or not they take
it. -/
def Metering.noting (g : Metering M) : Metering (M × List Given) where
  takeDelay x m := ((g.takeDelay x m.1).1, (g.takeDelay x m.1).2, m.2 ++ [.delay x])
  takeDuration x m := ((g.takeDuration x m.1).1, (g.takeDuration x m.1).2, m.2 ++ [.duration x])
  addMicros n m := ((g.addMicros n m.1).1, (g.addMicros n m.1).2, m.2 ++ [.micros n])

/-- **What comes of measuring a step.** -/
structure Measured (M : Type) where
  /-- Whether everything was taken, else why not. -/
  outcome : Except Fault Unit
  /-- The metrics afterwards. -/
  metrics : M
  /-- What they were given, in order. -/
  given : List Given

/-- Measures how long a step took: its duration, then its whole microseconds. -/
def Metering.measurePoll (g : Metering M) (duration : Binary64) (m : M) : Measured M :=
  match g.takeDuration duration m with
  | (.error e, m) => ⟨.error e, m, [.duration duration]⟩
  | (.ok (), m) =>
    match Task.wholeMicros duration with
    | .error e => ⟨.error e, m, [.duration duration]⟩
    | .ok n =>
      let (outcome, m) := g.addMicros n m
      ⟨outcome, m, [.duration duration, .micros n]⟩

/-- **Measures a step**: its delay, its duration and its whole microseconds, up
to the first that is lost. -/
def Metering.measure (g : Metering M) (delay duration : Binary64) (m : M) : Measured M :=
  match g.takeDelay delay m with
  | (.error e, m) => ⟨.error e, m, [.delay delay]⟩
  | (.ok (), m) =>
    let measured := g.measurePoll duration m
    { measured with given := .delay delay :: measured.given }

/-- Keeping a note changes nothing, and what is noted is what was given. -/
theorem Metering.measurePoll_noting (g : Metering M) (duration : Binary64) (m : M × List Given) :
    let measured := g.measurePoll duration m.1
    g.noting.measurePoll duration m
      = ⟨measured.outcome, (measured.metrics, m.2 ++ measured.given), measured.given⟩ := by
  unfold measurePoll noting
  dsimp only
  rcases g.takeDuration duration m.1 with ⟨_ | _, after⟩
  · rfl
  · dsimp only
    cases Task.wholeMicros duration with
    | error e => rfl
    | ok n => simp

theorem Metering.measure_noting (g : Metering M) (delay duration : Binary64)
    (m : M × List Given) :
    let measured := g.measure delay duration m.1
    g.noting.measure delay duration m
      = ⟨measured.outcome, (measured.metrics, m.2 ++ measured.given), measured.given⟩ := by
  have htake : g.noting.takeDelay delay m
      = ((g.takeDelay delay m.1).1, (g.takeDelay delay m.1).2, m.2 ++ [.delay delay]) := rfl
  unfold measure
  rw [htake]
  rcases g.takeDelay delay m.1 with ⟨_ | _, after⟩
  · rfl
  · simp [measurePoll_noting]

/-- The duration comes first, and the microseconds only if they can be
counted. -/
theorem Metering.given_measurePoll (g : Metering M) (duration : Binary64) (m : M) :
    (g.measurePoll duration m).given
      <+: .duration duration :: ((Task.wholeMicros duration).toOption.map .micros).toList := by
  unfold measurePoll
  rcases g.takeDuration duration m with ⟨_ | _, after⟩
  · exact List.cons_prefix_cons.mpr ⟨rfl, List.nil_prefix⟩
  · cases Task.wholeMicros duration with
    | error e => exact List.cons_prefix_cons.mpr ⟨rfl, List.nil_prefix⟩
    | ok n => exact List.prefix_rfl

/-- The delay comes first, and no other is given. -/
theorem Metering.given_measure (g : Metering M) (delay duration : Binary64) (m : M) :
    ∃ rest, (g.measure delay duration m).given = .delay delay :: rest
      ∧ rest <+: .duration duration :: ((Task.wholeMicros duration).toOption.map .micros).toList := by
  unfold measure
  rcases g.takeDelay delay m with ⟨_ | _, after⟩
  · exact ⟨[], rfl, List.nil_prefix⟩
  · exact ⟨_, rfl, g.given_measurePoll duration after⟩

/-! ## One step -/

namespace Setup

variable {u : Setup P M}

/-- What comes of measuring a step. -/
def measuredStep (u : Setup P M) (x : Resumption) (t : Task) (b : SetupState P M) : Measured M :=
  u.metering.measure (t.delay u.surroundings b) (t.duration u.surroundings x b) b.metrics

/-- **A step that was measured**: what it is answered with, and what the task and
the state are like afterwards. -/
structure Polled (u : Setup P M) (x : Resumption) (t : Task) (b : SetupState P M)
    (out : TaskReply × Task × SetupState P M) : Prop where
  /-- The answer is that of the process, unless a measurement was lost. -/
  reply : out.1 = match (u.measuredStep x t b).outcome with
    | .ok () => (t.step u.surroundings x b).1.reply
    | .error e => .raised e
  /-- What was given to the metrics has changed them, and nothing else. -/
  metrics : out.2.2.metrics = (u.measuredStep x t b).metrics
  /-- After a bare yield, the task could go on from the end of the step. -/
  wokenAt : out.2.1.wokenAt = match out.1 with
    | .yielded v => if u.isPending v then t.wokenAt else u.clock out.2.2.reading
    | _ => t.wokenAt
  /-- A pending result that is handed out is waited for. -/
  awaited : out.2.2.awaited = match out.1 with
    | .yielded v => if u.isPending v then b.awaited ++ [v] else b.awaited
    | _ => b.awaited
  /-- Time passes. -/
  reading : b.reading ≤ out.2.2.reading
  /-- A step whose delay is taken is over before its end. -/
  ended : (u.metering.takeDelay (t.delay u.surroundings b) b.metrics).1 = .ok () →
    (t.step u.surroundings x b).2.reading ≤ out.2.2.reading

/-- A process answers after it was resumed. -/
theorem reading_le_step (u : Setup P M) (x : Resumption) (t : Task) (b : SetupState P M) :
    b.reading ≤ (t.step u.surroundings x b).2.reading :=
  Nat.le_add_right b.reading 2

/-- A measurement that was lost ends the task. -/
theorem polled_of_error {x : Resumption} {t : Task} {b after : SetupState P M} {e : Fault}
    (houtcome : (u.measuredStep x t b).outcome = .error e)
    (hmetrics : after.metrics = (u.measuredStep x t b).metrics)
    (hawaited : after.awaited = b.awaited) (hreading : b.reading ≤ after.reading)
    (hended : (u.metering.takeDelay (t.delay u.surroundings b) b.metrics).1 = .ok () →
      (t.step u.surroundings x b).2.reading ≤ after.reading) :
    u.Polled x t b (.raised e, t.finish, after) :=
  ⟨by rw [houtcome], hmetrics, rfl, hawaited, hreading, hended⟩

/-- A step of which all measurements were taken is settled. -/
theorem polled_settle {x : Resumption} {t : Task} {b after : SetupState P M}
    (houtcome : (u.measuredStep x t b).outcome = .ok ())
    (hmetrics : after.metrics = (u.measuredStep x t b).metrics)
    (hawaited : after.awaited = b.awaited)
    (hreading : (t.step u.surroundings x b).2.reading ≤ after.reading) :
    u.Polled x t b (Task.settle u.surroundings (t.step u.surroundings x b).1 t after) := by
  have hstarted : b.reading ≤ after.reading := Nat.le_trans (u.reading_le_step x t b) hreading
  have hpending : u.surroundings.isPending = u.isPending := rfl
  unfold Task.settle
  split
  · next v hstep =>
    exact ⟨by rw [houtcome, hstep]; rfl, hmetrics, rfl, hawaited, hstarted, fun _ => hreading⟩
  · next e hstep =>
    exact ⟨by rw [houtcome, hstep]; rfl, hmetrics, rfl, hawaited, hstarted, fun _ => hreading⟩
  · next v hstep =>
    rw [hpending]
    split
    · next hv =>
      refine ⟨by rw [houtcome, hstep]; rfl, hmetrics, (if_pos hv).symm, ?_, ?_, fun _ => ?_⟩
      · show after.awaited ++ [v] = if u.isPending v then _ else _
        rw [if_pos hv, hawaited]
      · exact Nat.le_succ_of_le hstarted
      · exact Nat.le_succ_of_le hreading
    · next hv =>
      refine ⟨by rw [houtcome, hstep]; rfl, hmetrics, (if_neg hv).symm, ?_, hstarted, fun _ => hreading⟩
      show after.awaited = if u.isPending v then _ else _
      rw [if_neg hv, hawaited]

/-- A record gives the metrics what it should, and takes its time. -/
theorem record_eq (u : Setup P M) (d : Binary64) (b : SetupState P M) :
    ∃ passed, Task.record u.surroundings d b
      = ((u.metering.measurePoll d b.metrics).outcome,
        { b with
          metrics := (u.metering.measurePoll d b.metrics).metrics
          reading := b.reading + passed }) := by
  have htake : u.surroundings.takeDuration d b = taken b (u.metering.takeDuration d b.metrics) := rfl
  unfold Task.record Metering.measurePoll
  rw [htake]
  rcases u.metering.takeDuration d b.metrics with ⟨_ | _, m⟩
  · exact ⟨1, rfl⟩
  · dsimp only [taken]
    cases Task.wholeMicros d with
    | error e => exact ⟨1, rfl⟩
    | ok n => exact ⟨2, rfl⟩

/-- **A step is measured**, whatever the metrics take. -/
theorem polled_poll (u : Setup P M) (x : Resumption) (t : Task) (b : SetupState P M) :
    u.Polled x t b (Task.poll u.surroundings x t b) := by
  have htake : u.surroundings.takeDelay (t.delay u.surroundings b) b
      = taken b (u.metering.takeDelay (t.delay u.surroundings b) b.metrics) := rfl
  have hstep : (t.step u.surroundings x b).2.metrics
      = (u.metering.takeDelay (t.delay u.surroundings b) b.metrics).2 := rfl
  have hmeasured : u.measuredStep x t b = u.metering.measure (t.delay u.surroundings b)
    (t.duration u.surroundings x b) b.metrics := rfl
  unfold Metering.measure at hmeasured
  cases hdelay : u.metering.takeDelay (t.delay u.surroundings b) b.metrics with
  | mk outcome m =>
    rw [hdelay] at htake hstep hmeasured
    cases outcome with
    | error e =>
      have hpoll : Task.poll u.surroundings x t b
          = (.raised e, t.finish, { b.pass with metrics := m }) := by
        unfold Task.poll
        rw [htake]
        rfl
      rw [hpoll]
      refine polled_of_error (by rw [hmeasured]) (by rw [hmeasured]) rfl (Nat.le_succ _) ?_
      rw [hdelay]
      exact nofun
    | ok _ =>
      obtain ⟨passed, hrecord⟩ := u.record_eq (t.duration u.surroundings x b)
        (t.step u.surroundings x b).2
      rw [hstep] at hrecord
      rw [Task.poll_eq (congrArg Prod.fst htake), hrecord]
      cases houtcome : (u.metering.measurePoll (t.duration u.surroundings x b) m).outcome with
      | error e =>
        exact polled_of_error (by rw [hmeasured]; exact houtcome) (by rw [hmeasured]) rfl
          (Nat.le_trans (u.reading_le_step x t b) (Nat.le_add_right _ _))
          fun _ => Nat.le_add_right _ _
      | ok _ =>
        exact polled_settle (by rw [hmeasured]; exact houtcome) (by rw [hmeasured]) rfl
          (Nat.le_add_right _ _)

end Setup

/-- A request that does not resume the process leaves the time from which the
next delay is measured. -/
theorem Task.wokenAt_of_request {W : Type} (s : Surroundings W) {t : Task} {r : TaskRequest}
    (h : r.resumption? t.phase = none) (w : W) : (t.request s r w).2.1.wokenAt = t.wokenAt := by
  obtain ⟨form, phase, wokenAt⟩ := t
  cases phase with
  | unstarted =>
    cases r with
    | send v => cases v <;> first | rfl | cases h
    | _ => rfl
  | suspended =>
    cases r with
    | send v => cases h
    | throw e => rw [request_exit s rfl (TaskRequest.signal_of_resumption? h)]; rfl
    | close => rw [request_close s rfl]; rfl
  | finished =>
    cases form with
    | coroutine => cases r <;> rfl
    | generator =>
      cases r with
      | throw e =>
        unfold request
        dsimp only
        split <;> rfl
      | _ => rfl

/-! ## The past of a task -/

/-- **A step that is over.** -/
structure CompletedStep (M : Type) where
  /-- The reading of the clock at its start. -/
  started : Nat
  /-- The reading of the clock when the process answered. -/
  ended : Nat
  /-- The reading of the clock when the task answered. -/
  left : Nat
  /-- The metrics before it. -/
  metrics : M
  /-- What the process answered. -/
  answer : Step
  /-- What the task answered. -/
  reply : TaskReply
  /-- What the metrics were given in it. -/
  given : List Given

/-- **What happens to a task that matters for its delays.** -/
inductive Moment (M : Type) where
  /-- A step. -/
  | step (s : CompletedStep M)
  /-- Some pending results are completed, at a reading of the clock. -/
  | completed (isDone : Value → Bool) (reading : Nat)

/-- **All that has happened to a task**, the latest first. -/
abbrev Past (M : Type) := List (Moment M)

namespace Past

/-- The reading of the clock at which the last of it was over. -/
def latest (made : Nat) : Past M → Nat
  | [] => made
  | .step s :: _ => s.left
  | .completed _ reading :: _ => reading

variable (isPending : Value → Bool)

/-- **The pending results that are to wake the task up**: those it handed out
and that were not completed since. -/
def awaited : Past M → List Value
  | [] => []
  | .completed isDone _ :: past => (awaited past).filter (!isDone ·)
  | .step s :: past =>
    match s.reply with
    | .yielded v => if isPending v then awaited past ++ [v] else awaited past
    | _ => awaited past

/-- **The reading that the next delay is measured from**: that of the last bare
yield or of the last completion of a pending result that was ever handed out,
whichever came later, and that at which the task was made if there was neither. -/
def wake (made : Nat) : Past M → Nat
  | [] => made
  | .completed isDone reading :: past =>
    if (awaited isPending past).any isDone then reading else wake made past
  | .step s :: past =>
    match s.reply with
    | .yielded v => if isPending v then wake made past else s.left
    | _ => wake made past

theorem wake_step (made : Nat) (s : CompletedStep M) (past : Past M) :
    wake isPending made (.step s :: past) = match s.reply with
      | .yielded v => if isPending v then wake isPending made past else s.left
      | _ => wake isPending made past :=
  rfl

end Past

/-! ## What fits a past -/

namespace CompletedStep

/-- How long the task had been able to go on, by its past. -/
def delay (u : Setup P M) (made : Nat) (past : Past M) (s : CompletedStep M) : Binary64 :=
  ((u.clock s.started).sub (u.clock (past.wake u.isPending made))).max 0

/-- How long the step took. -/
def duration (u : Setup P M) (s : CompletedStep M) : Binary64 := (u.clock s.ended).sub
    (u.clock s.started)

/-- What comes of measuring the step. -/
def measured (u : Setup P M) (made : Nat) (past : Past M) (s : CompletedStep M) : Measured M :=
  u.metering.measure (s.delay u made past) (s.duration u) s.metrics

/-- **A step that fits its past.** -/
structure Fits (u : Setup P M) (made : Nat) (past : Past M) (s : CompletedStep M) : Prop where
  /-- It starts after all that. -/
  after : past.latest made ≤ s.started
  /-- It takes time. -/
  lasts : s.started ≤ s.ended
  /-- The task answers after its start. -/
  left : s.started ≤ s.left
  /-- The task answers after the process, if the delay is taken. -/
  answers : (u.metering.takeDelay (s.delay u made past) s.metrics).1 = .ok () → s.ended ≤ s.left
  /-- It gives the metrics its delay, its duration and its microseconds. -/
  given : s.given = (s.measured u made past).given
  /-- The task answers as the process does, unless a measurement is lost. -/
  reply : s.reply = match (s.measured u made past).outcome with
    | .ok () => s.answer.reply
    | .error e => .raised e

end CompletedStep

/-- Something that fits the past before it. -/
def Moment.Fits (u : Setup P M) (made : Nat) (past : Past M) : Moment M → Prop
  | .step s => s.Fits u made past
  | .completed _ reading => past.latest made ≤ reading

/-- **A past of which everything fits** what was before it. -/
def Past.Fits (u : Setup P M) (made : Nat) (past : Past M) : Prop :=
  ∀ moment before, moment :: before <:+ past → moment.Fits u made before

theorem Past.fits_nil (u : Setup P M) (made : Nat) : Past.Fits u made [] := by
  intro moment before hsuffix
  exact absurd (List.suffix_nil.mp hsuffix) (List.cons_ne_nil _ _)

theorem Past.Fits.cons {u : Setup P M} {made : Nat} {past : Past M} (h : past.Fits u made)
    {moment : Moment M} (hmoment : moment.Fits u made past) : Past.Fits u made (moment :: past) := by
  intro other before hsuffix
  rcases List.suffix_cons_iff.mp hsuffix with heq | hsuffix
  · obtain ⟨rfl, rfl⟩ := List.cons.inj heq
    exact hmoment
  · exact h other before hsuffix

theorem Past.Fits.of_suffix {u : Setup P M} {made : Nat} {past before : Past M}
    (h : past.Fits u made) (hsuffix : before <:+ past) : before.Fits u made :=
  fun moment earlier hearlier => h moment earlier (hearlier.trans hsuffix)

theorem Past.Fits.of_cons {u : Setup P M} {made : Nat} {moment : Moment M} {past : Past M}
    (h : Past.Fits u made (moment :: past)) : moment.Fits u made past ∧ past.Fits u made :=
  ⟨h moment past List.suffix_rfl, h.of_suffix (List.suffix_cons _ _)⟩

namespace Past.Fits

variable {u : Setup P M} {made : Nat} {past : Past M}

/-- The next delay is measured from a reading between the making of the task and
the last that has happened. -/
theorem wake_mem (h : past.Fits u made) :
    made ≤ past.wake u.isPending made ∧ past.wake u.isPending made ≤ past.latest made := by
  induction past with
  | nil => exact ⟨Nat.le_refl _, Nat.le_refl _⟩
  | cons moment past ih =>
    obtain ⟨hmoment, hpast⟩ := h.of_cons
    obtain ⟨hmade, hlatest⟩ := ih hpast
    cases moment with
    | completed isDone reading =>
      have hafter : Past.latest made past ≤ reading := hmoment
      show made ≤ ite _ _ _ ∧ ite _ _ _ ≤ reading
      split <;> omega
    | step s =>
      have hfits : s.Fits u made past := hmoment
      have hafter := hfits.after
      have hleft := hfits.left
      show made ≤ Past.wake _ _ (.step s :: past) ∧ Past.wake _ _ (.step s :: past) ≤ s.left
      rw [wake_step]
      split
      · split <;> omega
      · omega

end Past.Fits

/-! ## Watching a task -/

/-- The setup whose metrics keep a note. -/
def Setup.noting (u : Setup P M) : Setup P (M × List Given) :=
  { u with metering := u.metering.noting }

/-- **The step in which a task answers a resumption**, seen from outside. -/
def Setup.completedStep (u : Setup P M) (x : Resumption) (t : Task)
    (b : SetupState P (M × List Given)) :
    CompletedStep M :=
  let stepped := t.step u.noting.surroundings x b
  let out := Task.poll u.noting.surroundings x t b
  { started := b.reading
    ended := stepped.2.reading
    left := out.2.2.reading
    metrics := b.metrics.1
    answer := stepped.1
    reply := out.1
    given := out.2.2.metrics.2.drop b.metrics.2.length }

/-- **A task that is watched.** -/
structure Watched (P M : Type) where
  /-- The task. -/
  task : Task
  /-- Its state, with metrics that keep a note. -/
  state : SetupState P (M × List Given)
  /-- All that has happened to it. -/
  past : Past M := []

namespace Setup

/-- A task of which nothing has been asked yet. -/
def watched (u : Setup P M) (form : TaskForm) (b : SetupState P M) : Watched P M where
  task := .new form (u.clock b.reading)
  state := ⟨b.process, (b.metrics, []), b.reading, b.awaited⟩

/-- **What happens to a watched task**, a moment later. -/
def advance (u : Setup P M) (w : Watched P M) : DriverAction → Watched P M
  | .ask r =>
    let b := w.state.pass
    let out := w.task.request u.noting.surroundings r b
    { task := out.2.1
      state := out.2.2
      past := match r.resumption? w.task.phase with
        | some x => .step (u.completedStep x w.task b) :: w.past
        | none => w.past }
  | .complete isDone =>
    let b := w.state.pass
    let out := u.noting.complete isDone w.task b
    { task := out.1, state := out.2, past := .completed isDone b.reading :: w.past }

/-- A request that does not resume the process is no step. -/
theorem advance_of_none (u : Setup P M) {w : Watched P M} {r : TaskRequest}
    (hnone : r.resumption? w.task.phase = none) :
    let out := w.task.request u.noting.surroundings r w.state.pass
    u.advance w (.ask r) = { task := out.2.1, state := out.2.2, past := w.past } := by
  simp only [advance, hnone]

/-- A request that resumes the process is a step. -/
theorem advance_of_some (u : Setup P M) {w : Watched P M} {r : TaskRequest} {x : Resumption}
    (hsome : r.resumption? w.task.phase = some x) :
    let out := Task.poll u.noting.surroundings x w.task w.state.pass
    u.advance w (.ask r)
      = { task := out.2.1
          state := out.2.2
          past := .step (u.completedStep x w.task w.state.pass) :: w.past } := by
  simp only [advance, hsome, Task.request_eq_poll _ hsome]

/-- **Watches a task** through whatever happens to it. -/
def watch (u : Setup P M) (form : TaskForm) (b : SetupState P M)
    (actions : List DriverAction) : Watched P M :=
  actions.foldl u.advance (u.watched form b)

end Setup

/-- **A watched task is told by its past.** -/
structure Watched.Told (u : Setup P M) (made : Nat) (w : Watched P M) : Prop where
  /-- The next delay is measured from where the past says. -/
  wokenAt : w.task.wokenAt = u.clock (w.past.wake u.isPending made)
  /-- It waits for what the past says. -/
  awaited : w.state.awaited = w.past.awaited u.isPending
  /-- Time has passed. -/
  latest : w.past.latest made ≤ w.state.reading
  /-- All that has happened fits. -/
  fits : w.past.Fits u made

namespace Watched.Told

variable {u : Setup P M} {made : Nat} {w : Watched P M}

/-- Completions move the time from which the next delay is measured. -/
theorem complete (h : w.Told u made) (isDone : Value → Bool) :
    (u.advance w (.complete isDone)).Told u made := by
  have hlatest : w.past.latest made ≤ w.state.reading + 1 := Nat.le_succ_of_le h.latest
  refine ⟨?_, ?_, Nat.le_succ _, h.fits.cons hlatest⟩
  · show (if w.state.awaited.any isDone then w.task.wake (u.clock (w.state.reading + 1))
      else w.task).wokenAt = u.clock (if (w.past.awaited u.isPending).any isDone then _ else _)
    rw [h.awaited]
    split
    · rfl
    · exact h.wokenAt
  · show w.state.awaited.filter _ = _
    rw [h.awaited]
    rfl

/-- A request that does not resume the process leaves no trace. -/
theorem ask_of_none (h : w.Told u made) {r : TaskRequest}
    (hnone : r.resumption? w.task.phase = none) : (u.advance w (.ask r)).Told u made := by
  have hwoken := Task.wokenAt_of_request u.noting.surroundings hnone w.state.pass
  rw [u.advance_of_none hnone]
  refine ⟨hwoken.trans h.wokenAt, ?_, ?_, h.fits⟩
  · show (w.task.request u.noting.surroundings r w.state.pass).2.2.awaited = _
    rcases Task.world_of_request u.noting.surroundings hnone w.state.pass with heq | heq
    · rw [heq]
      exact h.awaited
    · rw [heq]
      exact h.awaited
  · show _ ≤ (w.task.request u.noting.surroundings r w.state.pass).2.2.reading
    rcases Task.world_of_request u.noting.surroundings hnone w.state.pass with heq | heq
    · rw [heq]
      exact Nat.le_add_right_of_le h.latest
    · rw [heq]
      exact Nat.le_trans h.latest (Nat.le_add_right w.state.reading 2)

/-- The delay is what the past says. -/
theorem delay_completedStep (h : w.Told u made) (x : Resumption) :
    w.task.delay u.noting.surroundings w.state.pass
      = (u.completedStep x w.task w.state.pass).delay u made w.past := by
  show ((u.clock (w.state.reading + 1)).sub w.task.wokenAt).max 0 = _
  rw [h.wokenAt]
  rfl

/-- What is measured in a step is what its past says. -/
theorem measured_completedStep (h : w.Told u made) (x : Resumption) :
    let s := u.completedStep x w.task w.state.pass
    u.noting.measuredStep x w.task w.state.pass
      = ⟨(s.measured u made w.past).outcome,
        ((s.measured u made w.past).metrics, w.state.metrics.2 ++ (s.measured u made w.past).given),
        (s.measured u made w.past).given⟩ := by
  intro s
  unfold Setup.measuredStep
  rw [h.delay_completedStep x]
  exact u.metering.measure_noting _ _ w.state.metrics

/-- **A step fits the past.** -/
theorem fits_completedStep (h : w.Told u made) (x : Resumption) :
    (u.completedStep x w.task w.state.pass).Fits u made w.past := by
  have hpolled := u.noting.polled_poll x w.task w.state.pass
  have hmeasured := h.measured_completedStep x
  refine ⟨Nat.le_succ_of_le h.latest, u.noting.reading_le_step x w.task w.state.pass,
    hpolled.reading, fun htake => ?_, ?_, ?_⟩
  · rw [← h.delay_completedStep x] at htake
    exact hpolled.ended htake
  · show (Task.poll u.noting.surroundings x w.task w.state.pass).2.2.metrics.2.drop _ = _
    rw [hpolled.metrics, hmeasured]
    exact List.drop_left
  · have hreply := hpolled.reply
    rw [hmeasured] at hreply
    exact hreply

/-- A bare yield moves the time from which the next delay is measured, and
nothing else does in a step. -/
theorem wokenAt_completedStep (h : w.Told u made) (x : Resumption) :
    (Task.poll u.noting.surroundings x w.task w.state.pass).2.1.wokenAt
      = u.clock (Past.wake u.isPending made
          (.step (u.completedStep x w.task w.state.pass) :: w.past)) := by
  rw [(u.noting.polled_poll x w.task w.state.pass).wokenAt, h.wokenAt, Past.wake_step]
  have hreply : (u.completedStep x w.task w.state.pass).reply
    = (Task.poll u.noting.surroundings x w.task w.state.pass).1 := rfl
  rw [hreply]
  cases (Task.poll u.noting.surroundings x w.task w.state.pass).1 with
  | yielded v => exact (apply_ite u.clock (u.isPending v = true) _ _).symm
  | _ => rfl

/-- A pending result that is handed out is waited for, beside those before. -/
theorem awaited_completedStep (h : w.Told u made) (x : Resumption) :
    (Task.poll u.noting.surroundings x w.task w.state.pass).2.2.awaited
      = Past.awaited u.isPending (.step (u.completedStep x w.task w.state.pass) :: w.past) := by
  have hbefore : w.state.pass.awaited = w.past.awaited u.isPending := h.awaited
  rw [(u.noting.polled_poll x w.task w.state.pass).awaited, hbefore]
  rfl

/-- What happens to a watched task keeps it told by its past. -/
theorem advance (h : w.Told u made) (action : DriverAction) : (u.advance w action).Told u made := by
  cases action with
  | complete isDone => exact h.complete isDone
  | ask r =>
    cases hr : r.resumption? w.task.phase with
    | none => exact h.ask_of_none hr
    | some x =>
      rw [u.advance_of_some hr]
      exact ⟨h.wokenAt_completedStep x, h.awaited_completedStep x, Nat.le_refl _,
        h.fits.cons (h.fits_completedStep x)⟩

theorem advanceAll (h : w.Told u made) (actions : List DriverAction) :
    (actions.foldl u.advance w).Told u made := by
  induction actions generalizing w with
  | nil => exact h
  | cons action rest ih => exact ih (h.advance action)

end Watched.Told

namespace Setup

/-- **Every step of every run fits its past**, and so does every completion. -/
theorem told_watch (u : Setup P M) (form : TaskForm) {b : SetupState P M}
    (hawaited : b.awaited = [])
    (actions : List DriverAction) : (u.watch form b actions).Told u b.reading :=
  Watched.Told.advanceAll ⟨rfl, hawaited, Nat.le_refl _, Past.fits_nil u b.reading⟩ actions

end Setup

/-! ## Metrics that take what they are given -/

/-- **Metrics that take every delay and every duration**, and every whole number
of microseconds but one below zero, which they may refuse with an error of
their own. It is enough that they do as long as they are sound. -/
structure Metering.Takes (g : Metering M) (Sound : M → Prop) (refusal? : Option Fault) : Prop where
  /-- A delay. -/
  delay : ∀ x m, Sound m → (g.takeDelay x m).1 = .ok () ∧ Sound (g.takeDelay x m).2
  /-- A duration. -/
  duration : ∀ x m, Sound m → (g.takeDuration x m).1 = .ok () ∧ Sound (g.takeDuration x m).2
  /-- The whole microseconds of a duration. -/
  micros : ∀ x n m, Task.wholeMicros x = .ok n → Sound m →
    (g.addMicros n m).1 = (if n < 0 then refusal?.elim (.ok ()) .error else .ok ())
      ∧ Sound (g.addMicros n m).2

/-- The measurement that is lost in a step of some duration, if one is: its
microseconds cannot be counted, or they are below zero and refused. -/
def Task.lost? (refusal? : Option Fault) (duration : Binary64) : Option Fault :=
  match wholeMicros duration with
  | .error e => some e
  | .ok n => if n < 0 then refusal? else none

/-- **All of a step is measured** by metrics that take it. -/
theorem Metering.Takes.measure {g : Metering M} {Sound : M → Prop} {refusal? : Option Fault}
    (h : g.Takes Sound refusal?) (delay duration : Binary64) {m : M} (hm : Sound m) :
    (g.measure delay duration m).outcome = (Task.lost? refusal? duration).elim (.ok ()) .error
      ∧ Sound (g.measure delay duration m).metrics
      ∧ (g.measure delay duration m).given = .delay delay :: .duration duration
        :: ((Task.wholeMicros duration).toOption.map .micros).toList := by
  obtain ⟨hdelay, hm⟩ := h.delay delay m hm
  obtain ⟨hduration, hm⟩ := h.duration duration _ hm
  unfold Metering.measure Metering.measurePoll
  rw [← Prod.eta (g.takeDelay delay m), hdelay]
  dsimp only
  rw [← Prod.eta (g.takeDuration duration _), hduration]
  dsimp only
  cases hmicros : Task.wholeMicros duration with
  | error e => exact ⟨by rw [Task.lost?, hmicros]; rfl, hm, rfl⟩
  | ok n =>
    obtain ⟨hadd, hm⟩ := h.micros duration n _ hmicros hm
    refine ⟨?_, hm, rfl⟩
    rw [Task.lost?, hmicros]
    show (g.addMicros n _).1 = Option.elim (if n < 0 then refusal? else none) _ _
    rw [hadd]
    split <;> rfl

/-- The metrics of a watched task are sound, and were before every step. -/
def Watched.KeepsSound (Sound : M → Prop) (w : Watched P M) : Prop :=
  Sound w.state.metrics.1 ∧ ∀ s, Moment.step s ∈ w.past → Sound s.metrics

theorem Watched.KeepsSound.advance {u : Setup P M} {Sound : M → Prop} {refusal? : Option Fault}
    (htakes : u.metering.Takes Sound refusal?) {w : Watched P M} (h : w.KeepsSound Sound)
    (action : DriverAction) : (u.advance w action).KeepsSound Sound := by
  cases action with
  | complete isDone =>
    refine ⟨h.1, fun s hs => ?_⟩
    rcases List.mem_cons.mp hs with hs | hs
    · cases hs
    · exact h.2 s hs
  | ask r =>
    cases hr : r.resumption? w.task.phase with
    | none =>
      rw [u.advance_of_none hr]
      refine ⟨?_, h.2⟩
      show Sound (w.task.request u.noting.surroundings r w.state.pass).2.2.metrics.1
      rcases Task.world_of_request u.noting.surroundings hr w.state.pass with heq | heq
      · rw [heq]
        exact h.1
      · rw [heq]
        exact h.1
    | some x =>
      rw [u.advance_of_some hr]
      constructor
      · show Sound (Task.poll u.noting.surroundings x w.task w.state.pass).2.2.metrics.1
        rw [(u.noting.polled_poll x w.task w.state.pass).metrics]
        show Sound (u.metering.noting.measure _ _ w.state.metrics).metrics.1
        rw [Metering.measure_noting]
        exact (htakes.measure _ _ h.1).2.1
      · intro s hs
        rcases List.mem_cons.mp hs with hs | hs
        · cases hs
          exact h.1
        · exact h.2 s hs

theorem Watched.KeepsSound.advanceAll {u : Setup P M} {Sound : M → Prop} {refusal? : Option Fault}
    (htakes : u.metering.Takes Sound refusal?) {w : Watched P M} (h : w.KeepsSound Sound)
    (actions : List DriverAction) : (actions.foldl u.advance w).KeepsSound Sound := by
  induction actions generalizing w with
  | nil => exact h
  | cons action rest ih => exact ih (h.advance htakes action)

theorem Setup.keepsSound_watch {u : Setup P M} {Sound : M → Prop} {refusal? : Option Fault}
    (htakes : u.metering.Takes Sound refusal?) (form : TaskForm) {b : SetupState P M}
    (hsound : Sound b.metrics) (actions : List DriverAction) :
    (u.watch form b actions).KeepsSound Sound :=
  .advanceAll htakes ⟨hsound, fun _ hs => absurd hs List.not_mem_nil⟩ actions

/-- **A step of which all was measured**, but for microseconds that were lost. -/
structure CompletedStep.IsTaken (u : Setup P M) (refusal? : Option Fault) (made : Nat)
    (past : Past M)
    (s : CompletedStep M) : Prop where
  /-- It gives the metrics its delay, its duration and its microseconds if they
  can be counted. -/
  given : s.given = .delay (s.delay u made past) :: .duration (s.duration u)
    :: ((Task.wholeMicros (s.duration u)).toOption.map .micros).toList
  /-- The task answers as the process does, unless its microseconds are lost. -/
  reply : s.reply = match Task.lost? refusal? (s.duration u) with
    | none => s.answer.reply
    | some e => .raised e
  /-- The task answers after the process. -/
  answers : s.ended ≤ s.left

/-- Metrics that take what they are given take all of a step. -/
theorem CompletedStep.Fits.isTaken {u : Setup P M} {Sound : M → Prop} {refusal? : Option Fault}
    (htakes : u.metering.Takes Sound refusal?) {made : Nat} {past : Past M} {s : CompletedStep M}
    (h : s.Fits u made past) (hsound : Sound s.metrics) : s.IsTaken u refusal? made past := by
  obtain ⟨houtcome, -, hgiven⟩ := htakes.measure (s.delay u made past) (s.duration u) hsound
  refine ⟨h.given.trans hgiven, h.reply.trans ?_, h.answers (htakes.delay _ _ hsound).1⟩
  unfold CompletedStep.measured
  rw [houtcome]
  cases Task.lost? refusal? (s.duration u) <;> rfl

/-- **All of every step of a run is measured** by metrics that take what they are
given. -/
theorem Setup.isTaken_watch {u : Setup P M} {Sound : M → Prop} {refusal? : Option Fault}
    (htakes : u.metering.Takes Sound refusal?) (form : TaskForm) {b : SetupState P M}
    (hsound : Sound b.metrics) (hawaited : b.awaited = []) {actions : List DriverAction}
    {s : CompletedStep M}
    {before : Past M} (hsuffix : .step s :: before <:+ (u.watch form b actions).past) :
    s.IsTaken u refusal? b.reading before := by
  have hfits : s.Fits u b.reading before := (u.told_watch form hawaited actions).fits _ _ hsuffix
  have hkept := (keepsSound_watch htakes form hsound actions).2 s
    (hsuffix.subset List.mem_cons_self)
  exact hfits.isTaken htakes hkept

end QuicTelemetry
