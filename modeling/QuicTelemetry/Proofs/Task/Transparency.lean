import QuicTelemetry.Proofs.Number.Exact
import QuicTelemetry.Proofs.Task.Delegation

/-!
# A measured task is transparent

A driver should not be able to tell a measured task from the process behind
it, nor the process its driver. The main statement, `Setup.map_seen_measuredRun`,
compares a measured task with plain delegation, over every process, every
clock that is steady and within range, all metrics that refuse no amount and
every run of a driver. They agree answer by answer and resumption by resumption.

The range of the clock is what the microseconds of a step need: they are a
whole number only if they are finite, and on a clock that counts in 64 bits they
are (`Task.isCountable_sub`). With that nothing the task does by itself can fail.

The proof is a simulation. What a single request does is said twice, for those
that resume the process (`request_of_resumption`) and for those that do not
(`request_of_none`); the run follows by induction on the script.
-/

namespace QuicTelemetry

/-! ## Microseconds -/

namespace Task

/-- **Whether a duration can be counted** in whole microseconds: if they are
finite. -/
def isCountable (seconds : Binary64) : Bool := (seconds.mulNat 1000000).isFinite

/-- The microseconds of a countable duration are not negative if it is not. -/
theorem wholeMicros_of_isCountable {d : Binary64} (h0 : (0 : Binary64).le d = true)
    (h : isCountable d = true) : ∃ n, wholeMicros d = .ok n ∧ 0 ≤ n := by
  cases d with
  | finite s m hm =>
    have hle : (0 : Int) ≤ if s then -(m : Int) else m := by
      rw [Binary64.le_eq_decide (x := 0) (y := .finite s m hm) Binary64.units?_zero rfl,
        decide_eq_true_eq] at h0
      exact h0
    have hmul : (Binary64.finite s m hm).mulNat 1000000 = .ofUnits s (m * 1000000) 1 := rfl
    rw [isCountable, hmul] at h
    rw [wholeMicros, hmul]
    rcases Binary64.ofUnits_cases s (m * 1000000) 1 with ⟨hr, heq⟩ | heq
    · rw [heq]
      refine ⟨_, rfl, ?_⟩
      cases s with
      | false => exact Int.natCast_nonneg _
      | true =>
        have hm0 : m = 0 := by
          rw [if_pos rfl] at hle
          omega
        have hround : Binary64.round (m * 1000000) 1 = 0 := by
          rw [hm0, Nat.zero_mul]
          exact Binary64.round_of_representable Binary64.representable_zero
        rw [hround, Nat.zero_div]
        exact Int.le_refl _
    · rw [heq] at h
      exact absurd h Bool.false_ne_true
  | infinite s => exact absurd h Bool.false_ne_true
  | nan => exact absurd h Bool.false_ne_true

/-- A duration that cannot be counted is too large. -/
theorem wholeMicros_of_not_isCountable {d : Binary64} (h0 : (0 : Binary64).le d = true)
    (h : isCountable d = false) : wholeMicros d = .error .overflow := by
  unfold isCountable at h
  unfold wholeMicros
  cases hm : d.mulNat 1000000 with
  | finite s m hr =>
    rw [hm] at h
    exact absurd h.symm Bool.false_ne_true
  | infinite s => rfl
  | nan =>
    cases d with
    | finite s m hr => exact absurd hm (Binary64.ofUnits_ne_nan _ _ _)
    | infinite s => exact absurd hm Binary64.noConfusion
    | nan => exact absurd h0 Bool.false_ne_true

/-- The whole microseconds of a duration whose microseconds are finite. -/
theorem wholeMicros_of_finite {d : Binary64} {s : Bool} {m : Nat} {hm : Binary64.Representable m}
    (h : d.mulNat 1000000 = .finite s m hm) :
    wholeMicros d = .ok (if s then -((m / Binary64.unitsPerOne : Nat) : Int)
      else (m / Binary64.unitsPerOne : Nat)) := by
  unfold wholeMicros
  rw [h]
  rfl

/-- **The whole microseconds of a duration** of which nothing is rounded. -/
theorem wholeMicros_of_units? {d : Binary64} {k : Int} (hd : d.units? = some k) (hk : 0 ≤ k)
    (h : Binary64.Representable (k * 1000000).natAbs) :
    wholeMicros d = .ok (k * 1000000 / Binary64.unitsPerOne) := by
  cases d with
  | finite s m hm =>
    obtain rfl : (if s then -(m : Int) else m) = k := Option.some.inj hd
    have hnat : ((if s then -(m : Int) else m) * 1000000).natAbs = m * 1000000 := by
      cases s <;> simp [Int.natAbs_mul]
    rw [hnat] at h
    rw [wholeMicros_of_finite (Binary64.mulNat_of_representable hm h)]
    generalize Binary64.unitsPerOne = unit
    cases s with
    | false => simp
    | true =>
      -- the one number with a sign that is not below zero is zero
      obtain rfl : m = 0 := by
        simp only [if_true] at hk
        omega
      simp
  | infinite s => exact absurd hd (by simp [Binary64.units?])
  | nan => exact absurd hd (by simp [Binary64.units?])

/-- **A number of units is countable** well below a millionth of the limit. -/
theorem isCountable_ofSignedUnits (negativeZero : Bool) {k : Int}
    (h : 4000000 * k.natAbs < Binary64.limit) :
    isCountable (.ofSignedUnits negativeZero k) = true := by
  unfold Binary64.ofSignedUnits
  split
  · obtain ⟨hround, heq⟩ := Binary64.ofUnits_of_lt negativeZero (n := 0 * 1000000) (by omega)
    show (Binary64.ofUnits negativeZero (0 * 1000000) 1).isFinite = true
    rw [heq]
    rfl
  · have hle := Binary64.round_le_two_mul k.natAbs
    obtain ⟨hround, heq⟩ := Binary64.ofUnits_of_lt (decide (k < 0)) (n := k.natAbs) (by omega)
    obtain ⟨hmicros, hmul⟩ := Binary64.ofUnits_of_lt (decide (k < 0))
      (n := Binary64.round k.natAbs 1 * 1000000) (by omega)
    rw [heq]
    show (Binary64.ofUnits (decide (k < 0)) (Binary64.round k.natAbs 1 * 1000000) 1).isFinite = true
    rw [hmul]
    rfl

/-- **What passes between two readings can be counted** on a clock within range. -/
theorem isCountable_sub {clock : Nat → Binary64} (hrange : InRange clock) (i j : Nat) :
    isCountable ((clock i).sub (clock j)) = true := by
  obtain ⟨a, ha, hia⟩ := hrange i
  obtain ⟨b, hb, hjb⟩ := hrange j
  obtain ⟨s, hsub⟩ := Binary64.exists_sub_eq ha hb
  rw [hsub]
  refine isCountable_ofSignedUnits s ?_
  -- the range has room for a million of the difference and for the two roundings
  have hroom : 2 ^ 24 * (Nat.pow 2 64 * Binary64.unitsPerOne) ≤ Binary64.limit := by
    rw [← Nat.mul_assoc, show 2 ^ 24 * Nat.pow 2 64 = 2 ^ 88 by decide]
    exact Binary64.two_pow_mul_unitsPerOne_le (by decide)
  generalize Nat.pow 2 64 * Binary64.unitsPerOne = bound at hia hjb hroom
  omega

end Task

/-! ## Measuring -/

section Measuring

variable {P M : Type}

/-- The metrics after a duration. -/
def Metering.recorded (g : Metering M) (duration : Binary64) (m : M) : M :=
  match Task.wholeMicros duration with
  | .ok n => (g.addMicros n (g.takeDuration duration m).2).2
  | .error _ => (g.takeDuration duration m).2

/-- The metrics after a delay and a duration. -/
def Metering.measured (g : Metering M) (delay duration : Binary64) (m : M) : M :=
  g.recorded duration (g.takeDelay delay m).2

/-- **A request that only measures**: besides what the process did, metrics took
one delay and one duration at most, and a yielded pending result is awaited. -/
structure Setup.OnlyMeasures (u : Setup P M) (reply : TaskReply)
    (b b' : SetupState P M) : Prop where
  metrics : b'.metrics = b.metrics ∨ ∃ delay duration, (0 : Binary64).le delay = true
    ∧ (0 : Binary64).le duration = true
    ∧ b'.metrics = u.metering.measured delay duration b.metrics
  awaited : b'.awaited = b.awaited
    ∨ ∃ v, reply = .yielded v ∧ u.isPending v = true ∧ b'.awaited = b.awaited ++ [v]

namespace Setup

variable {u : Setup P M}

/-- **The record of a step** whose duration can be counted does not fail. -/
theorem record_surroundings (hmeter : u.metering.TakesAmounts) {d : Binary64}
    (h0 : (0 : Binary64).le d = true) (hcount : Task.isCountable d = true) (b : SetupState P M) :
    ∃ b', Task.record u.surroundings d b = (.ok (), b')
      ∧ b'.process = b.process ∧ b'.awaited = b.awaited
      ∧ b'.metrics = u.metering.recorded d b.metrics := by
  have hduration : (u.surroundings.takeDuration d b).1 = .ok () := hmeter.duration d b.metrics h0
  have htake : u.surroundings.takeDuration d b
      = (.ok (), (u.surroundings.takeDuration d b).2) := Prod.ext hduration rfl
  obtain ⟨n, hn, hpos⟩ := Task.wholeMicros_of_isCountable h0 hcount
  unfold Task.record Metering.recorded
  rw [htake]
  dsimp only
  rw [hn]
  refine ⟨(u.surroundings.addMicros n (u.surroundings.takeDuration d b).2).2, ?_, rfl, rfl, rfl⟩
  exact Prod.ext (hmeter.micros n _ hpos) rfl

end Setup

end Measuring

/-! ## One request -/

namespace Setup

variable {P M : Type} {u : Setup P M}

/-- **A request answered as by plain delegation.** -/
structure Answered (u : Setup P M) (t : Task) (b : SetupState P M)
    (plain : TaskReply × Phase × P) (out : TaskReply × Task × SetupState P M) : Prop where
  reply : out.1 = plain.1
  phase : out.2.1.phase = plain.2.1
  process : out.2.2.process = plain.2.2
  form : out.2.1.form = t.form
  wokenAt : out.2.1.wokenAt.isFinite = true
  effects : u.OnlyMeasures out.1 b out.2.2

/-- **A measured step** is the step of the process. -/
theorem request_of_resumption (hclock : Steady u.clock) (hrange : InRange u.clock)
    (hmeter : u.metering.TakesAmounts) {t : Task} (ht : t.wokenAt.isFinite = true)
    {r : TaskRequest} {x : Resumption} (h : r.resumption? t.phase = some x) (b : SetupState P M) :
    u.Answered t b ((delegating u.process).request t.form r t.phase b.process)
      (t.request u.surroundings r b) := by
  have hdelay : (0 : Binary64).le (t.delay u.surroundings b) = true :=
    Binary64.zero_le_max_zero (Binary64.sub_ne_nan (hclock.finite _) ht)
  have htake : (u.surroundings.takeDelay (t.delay u.surroundings b) b).1 = .ok () :=
    hmeter.delay _ b.metrics hdelay
  have hduration : (0 : Binary64).le (t.duration u.surroundings x b) = true :=
    Binary64.zero_le_sub (hclock.finite _) (hclock.finite _)
      (hclock.le b.reading (b.reading + 1 + 1) (by omega))
  have hcount : Task.isCountable (t.duration u.surroundings x b) = true :=
    Task.isCountable_sub hrange (b.reading + 1 + 1) b.reading
  obtain ⟨b', hrecord, hprocess, hawaited, hmetrics⟩ :=
    record_surroundings hmeter hduration hcount (t.step u.surroundings x b).2
  have hmeasured : b'.metrics = b.metrics ∨ ∃ delay duration, (0 : Binary64).le delay = true
      ∧ (0 : Binary64).le duration = true
      ∧ b'.metrics = u.metering.measured delay duration b.metrics :=
    .inr ⟨_, _, hdelay, hduration, hmetrics⟩
  rw [Task.request_eq_poll _ h, request_delegating _ _ h, Task.poll_eq htake, hrecord]
  -- the process moves on the same state, and its step decides the rest
  have hstep : (t.step u.surroundings x b).1 = (u.process.resume x b.process).1 := rfl
  have hp : b'.process = (u.process.resume x b.process).2 := hprocess
  rw [hstep]
  unfold Body.answer
  cases hs : (u.process.resume x b.process).1 with
  | returned v => exact ⟨rfl, rfl, hp, rfl, ht, hmeasured, .inl hawaited⟩
  | raised e => exact ⟨rfl, rfl, hp, rfl, ht, hmeasured, .inl hawaited⟩
  | yielded v =>
    simp only [Task.settle]
    cases hv : u.surroundings.isPending v with
    | true =>
      rw [if_pos rfl]
      refine ⟨rfl, rfl, hp, rfl, ht, hmeasured, .inr ⟨v, rfl, hv, ?_⟩⟩
      show b'.awaited ++ [v] = b.awaited ++ [v]
      rw [hawaited]
      rfl
    | false =>
      rw [if_neg Bool.false_ne_true]
      exact ⟨rfl, rfl, hp, rfl, hclock.finite _, hmeasured, .inl hawaited⟩

/-- An answer that the task gives by itself. -/
theorem answered_at_once {t : Task} (ht : t.wokenAt.isFinite = true) (b : SetupState P M)
    (reply : TaskReply) (t' : Task) (hform : t'.form = t.form) (hwoken : t'.wokenAt = t.wokenAt) :
    u.Answered t b (reply, t'.phase, b.process) (reply, t', b) := by
  refine ⟨rfl, rfl, rfl, hform, ?_, .inl rfl, .inl rfl⟩
  rw [hwoken]
  exact ht

/-- An answer after the process was closed. -/
theorem answered_of_close {t : Task} (ht : t.wokenAt.isFinite = true) (b : SetupState P M)
    (reply : TaskReply) :
    u.Answered t b (reply, .finished, (u.process.close b.process).2)
      (reply, t.finish, (u.surroundings.close b).2) :=
  ⟨rfl, rfl, rfl, rfl, ht, .inl rfl, .inl rfl⟩

/-- **A request that does not resume the process** is answered by plain
delegation in the same way. -/
theorem request_of_none {t : Task} (ht : t.wokenAt.isFinite = true) {r : TaskRequest}
    (h : r.resumption? t.phase = none) (b : SetupState P M) :
    u.Answered t b ((delegating u.process).request t.form r t.phase b.process)
      (t.request u.surroundings r b) := by
  obtain ⟨form, phase, wokenAt⟩ := t
  cases phase with
  | unstarted =>
    cases r with
    | send v =>
      cases v with
      | null => cases h
      | _ => exact answered_at_once ht b _ _ rfl rfl
    | throw e => exact answered_at_once ht b _ (Task.finish _) rfl rfl
    | close => exact answered_at_once ht b _ (Task.finish _) rfl rfl
  | suspended =>
    -- either way the process is closed, and the answers are what came of that
    cases r with
    | send v => cases h
    | throw e =>
      have he : e.signal = .exit := TaskRequest.signal_of_resumption? h
      rw [request_delegating_exit _ form he, Task.request_exit _ rfl he]
      exact answered_of_close ht b _
    | close =>
      rw [request_delegating_close, Task.request_close _ rfl]
      exact answered_of_close ht b _
  | finished =>
    -- nothing is left to close, and the two forms differ in their answers alone
    cases form with
    | coroutine => cases r <;> exact answered_at_once ht b _ _ rfl rfl
    | generator =>
      cases r with
      | send v => exact answered_at_once ht b _ _ rfl rfl
      | close => exact answered_at_once ht b _ _ rfl rfl
      | throw e =>
        simp only [Task.request, Body.request]
        cases e.signal <;> exact answered_at_once ht b _ ⟨.generator, .finished, wokenAt⟩ rfl rfl

/-- **A request is answered as by plain delegation.** -/
theorem answered_request (hclock : Steady u.clock) (hrange : InRange u.clock)
    (hmeter : u.metering.TakesAmounts) {t : Task} (ht : t.wokenAt.isFinite = true)
    (r : TaskRequest) (b : SetupState P M) :
    u.Answered t b ((delegating u.process).request t.form r t.phase b.process)
      (t.request u.surroundings r b) := by
  cases h : r.resumption? t.phase with
  | none => exact request_of_none ht h b
  | some x => exact request_of_resumption hclock hrange hmeter ht h b

end Setup

/-! ## Runs -/

/-- **A request that was answered**, with what there was before and after. -/
structure Row (P M : Type) where
  /-- The answer. -/
  reply : TaskReply
  /-- The state before. -/
  before : SetupState P M
  /-- The state after. -/
  after : SetupState P M

/-- What the driver and the process see of a request. -/
def Row.seen {P M : Type} (row : Row P M) : TaskReply × P := (row.reply, row.after.process)

/-- **A run of a measured task.** -/
def Setup.measuredRun {P M : Type} (u : Setup P M) :
    List DriverAction → Task → SetupState P M → List (Row P M)
  | [], _, _ => []
  | .ask r :: actions, t, b =>
    let (reply, t', b') := t.request u.surroundings r b.pass
    ⟨reply, b.pass, b'⟩ :: u.measuredRun actions t' b'
  | .complete isDone :: actions, t, b =>
    let (t', b') := u.complete isDone t b.pass
    u.measuredRun actions t' b'

/-- **The same run of plain delegation**: the answers, each with the process
after it. Completing a pending result is nothing to it. -/
def plainRun {P : Type} (p : Process P) (form : TaskForm) :
    List DriverAction → Phase → P → List (TaskReply × P)
  | [], _, _ => []
  | .ask r :: actions, phase, x =>
    let (reply, phase', x') := (delegating p).request form r phase x
    (reply, x') :: plainRun p form actions phase' x'
  | .complete _ :: actions, phase, x => plainRun p form actions phase x

namespace Setup

variable {P M : Type} {u : Setup P M}

/-- A completed result wakes the task at a time of the clock. -/
theorem wokenAt_complete (hclock : Steady u.clock) (isDone : Value → Bool) {t : Task}
    (ht : t.wokenAt.isFinite = true) (b : SetupState P M) :
    (u.complete isDone t b).1.wokenAt.isFinite = true := by
  unfold complete
  split
  · exact hclock.finite _
  · exact ht

/-- A run goes on as plain delegation does from where the task is. -/
theorem map_seen_of_task (hclock : Steady u.clock) (hrange : InRange u.clock)
    (hmeter : u.metering.TakesAmounts) (actions : List DriverAction) {t : Task}
    (ht : t.wokenAt.isFinite = true) (b : SetupState P M) :
    (u.measuredRun actions t b).map Row.seen
      = plainRun u.process t.form actions t.phase b.process := by
  induction actions generalizing t b with
  | nil => rfl
  | cons action actions ih =>
    cases action with
    | complete isDone =>
      have hform : (u.complete isDone t b.pass).1.form = t.form := by
        unfold complete
        split <;> rfl
      have hphase : (u.complete isDone t b.pass).1.phase = t.phase := by
        unfold complete
        split <;> rfl
      have hrest := ih (wokenAt_complete hclock isDone ht b.pass) (u.complete isDone t b.pass).2
      rw [hform, hphase] at hrest
      exact hrest
    | ask r =>
      have hanswer := answered_request hclock hrange hmeter ht r b.pass
      have hrest := ih hanswer.wokenAt (t.request u.surroundings r b.pass).2.2
      rw [hanswer.form, hanswer.phase, hanswer.process] at hrest
      have hseen : (t.request u.surroundings r b.pass).1
          = ((delegating u.process).request t.form r t.phase b.process).1 := hanswer.reply
      unfold measuredRun plainRun
      rw [List.map_cons, hrest]
      exact congrArg (· :: _) (Prod.ext hseen hanswer.process)

/-- **Every request only measures.** -/
theorem onlyMeasures_of_mem (hclock : Steady u.clock) (hrange : InRange u.clock)
    (hmeter : u.metering.TakesAmounts) (actions : List DriverAction) {t : Task}
    (ht : t.wokenAt.isFinite = true) (b : SetupState P M) :
    ∀ row ∈ u.measuredRun actions t b, u.OnlyMeasures row.reply row.before row.after := by
  induction actions generalizing t b with
  | nil =>
    intro row hrow
    exact absurd hrow List.not_mem_nil
  | cons action actions ih =>
    cases action with
    | complete isDone => exact ih (wokenAt_complete hclock isDone ht b.pass) _
    | ask r =>
      have hanswer := answered_request hclock hrange hmeter ht r b.pass
      intro row hrow
      rcases List.mem_cons.mp hrow with rfl | hrow
      · exact hanswer.effects
      · exact ih hanswer.wokenAt _ row hrow

/-- **A measured task is transparent.** Over every process, every steady clock
within range, all metrics that refuse no amount and every script, it gives the
answers of plain delegation and moves the process as plain delegation does. All
it does besides is to measure and to await what is pending. -/
theorem map_seen_measuredRun (u : Setup P M) (hclock : Steady u.clock) (hrange : InRange u.clock)
    (hmeter : u.metering.TakesAmounts) (form : TaskForm) (actions : List DriverAction)
    (b : SetupState P M) :
    let rows := u.measuredRun actions (.new form (u.clock b.reading)) b
    rows.map Row.seen = plainRun u.process form actions .unstarted b.process
      ∧ ∀ row ∈ rows, u.OnlyMeasures row.reply row.before row.after :=
  ⟨map_seen_of_task hclock hrange hmeter actions (hclock.finite _) b,
    onlyMeasures_of_mem hclock hrange hmeter actions (hclock.finite _) b⟩

/-- A clock that shows one time before the reading `k` and another from there on. -/
def stepClock (k : Nat) (x y : Binary64) (i : Nat) : Binary64 := if i < k then x else y

theorem steady_stepClock (k : Nat) {x y : Binary64} (hx : x.isFinite = true)
    (hy : y.isFinite = true) (h : x.le y = true) : Steady (stepClock k x y) where
  finite i := by
    unfold stepClock
    split
    · exact hx
    · exact hy
  le i j hij := by
    unfold stepClock
    split
    · split
      · exact Binary64.le_self hx
      · exact h
    · rw [if_neg (by omega)]
      exact Binary64.le_self hy

theorem inRange_stepClock (k : Nat) {x y : Binary64} {i j : Int}
    (hx : x.units? = some (i * Binary64.unitsPerOne)) (hi : i.natAbs < Nat.pow 2 64)
    (hy : y.units? = some (j * Binary64.unitsPerOne)) (hj : j.natAbs < Nat.pow 2 64) :
    InRange (stepClock k x y) := by
  have hwhole {n : Int} (hn : n.natAbs < Nat.pow 2 64) :
      (n * (Binary64.unitsPerOne : Int)).natAbs < Nat.pow 2 64 * Binary64.unitsPerOne := by
    rw [Int.natAbs_mul, Int.natAbs_natCast]
    exact Nat.mul_lt_mul_of_pos_right hn Binary64.unitsPerOne_pos
  intro reading
  unfold stepClock
  split
  · exact ⟨_, hx, hwhole hi⟩
  · exact ⟨_, hy, hwhole hj⟩

/-- The process that always answers in one way and counts how often it is
resumed, on a clock, with metrics that keep nothing. -/
def answering (step : Step) (clock : Nat → Binary64) : Setup Nat Unit where
  process := ⟨fun _ n => (step, n + 1), fun n => (.returned .null, n + 1)⟩
  metering := ⟨fun _ m => (.ok (), m), fun _ m => (.ok (), m), fun _ m => (.ok (), m)⟩
  clock := clock
  isPending _ := false

theorem takesAmounts_answering (step : Step) (clock : Nat → Binary64) :
    (answering step clock).metering.TakesAmounts :=
  ⟨fun _ _ _ => rfl, fun _ _ _ => rfl, fun _ _ _ => rfl⟩

/-- A task of one second, closed after its first answer. -/
theorem measuredRun_oneSecond :
    let u := answering (.yielded (.int 1)) (stepClock 3 0 1)
    let actions := [.ask (.send .null), .ask .close]
    Steady u.clock ∧ InRange u.clock ∧ u.metering.TakesAmounts
      ∧ (u.measuredRun actions (.new .coroutine (u.clock 0)) { process := 0, metrics := () }).map
          Row.seen = [(.yielded (.int 1), 1), (.closed, 2)] := by
  intro u actions
  have hclock : Steady u.clock :=
    steady_stepClock 3 rfl (by decide +kernel) (by decide +kernel)
  have hrange : InRange u.clock :=
    inRange_stepClock 3 (i := 0) (j := 1) (by decide +kernel) (by decide) (by decide +kernel)
      (by decide)
  have hmeter : u.metering.TakesAmounts := takesAmounts_answering _ _
  have hrun := map_seen_measuredRun u hclock hrange hmeter .coroutine actions
    { process := 0, metrics := () }
  exact ⟨hclock, hrange, hmeter, hrun.1⟩

end Setup

end QuicTelemetry
