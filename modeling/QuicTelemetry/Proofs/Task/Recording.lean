import QuicTelemetry.Proofs.Task.Accounting
import QuicTelemetry.Proofs.Task.Release

/-!
# Recording on any clock

A clock may go back. Delays and the times of timers are cut off at zero, so what
is observed of those is not below zero on any clock. The duration of a step is
not cut off: it is below zero where the clock went back in the step, and the
counter of microseconds may refuse what is below zero. Then the task is answered
with that refusal in the place of what the process did.

`Setup.measures_watch` says for every step of every run what is recorded and what
is answered, and `Setup.measures_watch_backwards` is a step that loses its result.
Both are about metrics that take what they are given (`Metering.Takes`); that the
handles over a memory store are such metrics is `Metering.takes_overMemory`.
-/

namespace QuicTelemetry

/-! ## Whole microseconds -/

namespace Task

/-- Only finite microseconds can be counted, and they are cut off. -/
theorem exists_of_wholeMicros {d : Binary64} {n : Int} (h : wholeMicros d = .ok n) :
    ∃ s m hm, d.mulNat 1000000 = .finite s m hm
      ∧ n = if s then -((m / Binary64.unitsPerOne : Nat) : Int)
        else (m / Binary64.unitsPerOne : Nat) := by
  cases hmicros : d.mulNat 1000000 with
  | finite s m hm =>
    rw [wholeMicros_of_finite hmicros] at h
    exact ⟨s, m, hm, rfl, (Except.ok.inj h).symm⟩
  | infinite s =>
    unfold wholeMicros at h
    rw [hmicros] at h
    cases h
  | nan =>
    unfold wholeMicros at h
    rw [hmicros] at h
    cases h

/-- The whole microseconds of a duration, by evaluation. -/
theorem wholeMicros_of_truncate? {d : Binary64} {n : Int}
    (h : (d.mulNat 1000000).truncate? = some n) : wholeMicros d = .ok n := by
  cases hmicros : d.mulNat 1000000 with
  | finite s m hm =>
    rw [hmicros] at h
    rw [wholeMicros_of_finite hmicros]
    exact congrArg Except.ok (Option.some.inj h)
  | infinite s =>
    rw [hmicros] at h
    cases h
  | nan =>
    rw [hmicros] at h
    cases h

/-- **The whole microseconds of a duration are below zero** exactly if it is below
zero by at least one of them. -/
theorem wholeMicros_neg_iff {d : Binary64} {n : Int} (h : wholeMicros d = .ok n) :
    n < 0 ↔ (d.mulNat 1000000).le (Binary64.neg 1) = true := by
  obtain ⟨s, m, hm, hmicros, rfl⟩ := exists_of_wholeMicros h
  have hone : (Binary64.neg 1).units? = some (-(Binary64.unitsPerOne : Int)) := by decide +kernel
  rw [hmicros, Binary64.le_eq_decide (x := .finite s m hm) rfl hone, decide_eq_true_eq]
  have hpos := Binary64.unitsPerOne_pos
  have hdiv : 0 < m / Binary64.unitsPerOne ↔ Binary64.unitsPerOne ≤ m :=
    Nat.div_pos_iff.trans (and_iff_right hpos)
  generalize m / Binary64.unitsPerOne = whole at *
  generalize Binary64.unitsPerOne = unit at *
  cases s with
  | false =>
    rw [if_neg Bool.false_ne_true, if_neg Bool.false_ne_true]
    omega
  | true =>
    rw [if_pos rfl, if_pos rfl]
    omega

/-- Whole microseconds are a number that is not rounded. -/
theorem ofInt?_of_wholeMicros {d : Binary64} {n : Int} (h : wholeMicros d = .ok n) :
    ∃ x, Binary64.ofInt? n = some x := by
  obtain ⟨s, m, hm, -, rfl⟩ := exists_of_wholeMicros h
  refine Binary64.exists_ofInt? ?_
  have hwhole := Binary64.representable_div_mul hm
  rw [Int.natAbs_mul, Int.natAbs_natCast]
  generalize m / Binary64.unitsPerOne = whole at hwhole ⊢
  cases s <;> simpa using hwhole

end Task

/-! ## The memory store as the metrics of a task -/

namespace Memory

/-- A histogram takes every number. -/
theorem observe_changed {bounds : List Binary64} (h : Ascending bounds) (us : List Mutation)
    (x : Binary64) :
    (change (.histogram bounds) (changed (.histogram bounds) us) .observe (.real x)).1
      = .ok () := by
  rw [changed_histogram h]
  rfl

/-- A counter takes every whole number that is not rounded and not below zero. -/
theorem inc_changed (us : List Mutation) {n : Int} {real : Binary64}
    (hreal : Binary64.ofInt? n = some real) :
    (change .counter (changed .counter us) .inc (.int n)).1
      = if n < 0 then .error .negativeIncrement else .ok () := by
  rw [changed_counter]
  generalize (us.filterMap (Mutation.amountOf? .inc)).foldl Binary64.increase 0 = x
  have hadd : (Amount.whole n).addTo x = .ok (x.add real) := by
    unfold Amount.addTo
    rw [Amount.toReal_whole hreal]
    rfl
  show (if decide (n < 0) = true then _ else _ : Except Fault Unit × MemoryCell).1 = _
  rw [hadd]
  by_cases hn : n < 0
  · rw [if_pos (decide_eq_true hn), if_pos hn]
  · rw [if_neg (by simpa using hn), if_neg hn]

/-- **A memory store that has the series of a task.** -/
structure HoldsTask (flags : Flags) (space : Option String) (name : String) (m : Memory) : Prop where
  /-- The metrics that are switched on. -/
  serves : m.Serves flags space
  /-- The series were asked for. -/
  asked : ∃ us : Chronicle, m.Replays us
    ∧ ∀ k : Measurement, (us (k.series space name)).isSome = true

/-- There is such a store: one of the metrics that are switched on, in which the
series were asked for. -/
theorem exists_holdsTask (flags : Flags) (space : Option String) (name : String) :
    ∃ m, HoldsTask flags space name m := by
  have hresolve : ∀ ks : List Measurement, ∃ (m : Memory) (us : Chronicle), m.Serves flags space
      ∧ m.Replays us ∧ ∀ k ∈ ks, (us (k.series space name)).isSome = true := by
    intro ks
    induction ks with
    | nil =>
      exact ⟨_, _, Facade.serves_families flags space, replays_families flags space,
        fun k hk => absurd hk List.not_mem_nil⟩
    | cons k ks ih =>
      obtain ⟨m, us, hserves, hreplays, hasked⟩ := ih
      have hlength : [name].length = k.metric.labels.length := by
        rw [k.labels_metric]
        rfl
      obtain ⟨m', -, halters⟩ := hserves.resolve (k.metric_mem_permitted flags) hlength
      refine ⟨m', _, hserves.alter halters, hreplays.ensured (k.series space name) halters,
        fun k' hk' => us.isSome_ask _ ?_⟩
      rcases List.mem_cons.mp hk' with rfl | hk'
      · exact .inr rfl
      · exact .inl (hasked k' hk')
  obtain ⟨m, us, hserves, hreplays, hasked⟩ := hresolve [.delay, .duration, .micros]
  exact ⟨m, hserves, us, hreplays, fun k => hasked k (by cases k <;> decide)⟩

variable {flags : Flags} {space : Option String} {name : String} {m : Memory}

/-- A measurement is taken as the cell of its series says. -/
theorem HoldsTask.call (h : m.HoldsTask flags space name) (k : Measurement) (v : Value) :
    (∃ us, (m.call (k.series space name) k.verb [v]).1
        = (change (Facade.shapeOf k.metric) (changed (Facade.shapeOf k.metric) us) k.verb v).1)
      ∧ (m.call (k.series space name) k.verb [v]).2.HoldsTask flags space name := by
  obtain ⟨hserves, us, hreplays, hasked⟩ := h
  obtain ⟨houtcome, hserves, hreplays⟩ := hreplays.call_series hserves k (hasked k) v
  exact ⟨⟨_, houtcome⟩, hserves, _, hreplays, fun k' => us.isSome_add _ _ (hasked k')⟩

end Memory

/-- **The handles of a task over a memory store.** -/
def Metering.overMemory (space : Option String) (name : String) : Metering Memory where
  takeDelay x m := m.call (Measurement.delay.series space name) .observe [.real x]
  takeDuration x m := m.call (Measurement.duration.series space name) .observe [.real x]
  addMicros n m := m.call (Measurement.micros.series space name) .inc [.int n]

/-- **The handles over a memory store take** every delay, every duration and all
whole microseconds that are not below zero, and refuse others. -/
theorem Metering.takes_overMemory (flags : Flags) (space : Option String) (name : String) :
    (overMemory space name).Takes (Memory.HoldsTask flags space name)
      (some .negativeIncrement) := by
  refine ⟨fun x m hm => ?_, fun x m hm => ?_, fun x n m hn hm => ?_⟩
  · obtain ⟨⟨us, houtcome⟩, hafter⟩ := hm.call .delay (.real x)
    exact ⟨houtcome.trans (Memory.observe_changed (Measurement.delay.ascending_bounds rfl) us x),
      hafter⟩
  · obtain ⟨⟨us, houtcome⟩, hafter⟩ := hm.call .duration (.real x)
    exact ⟨houtcome.trans (Memory.observe_changed (Measurement.duration.ascending_bounds rfl) us x),
      hafter⟩
  · obtain ⟨⟨us, houtcome⟩, hafter⟩ := hm.call .micros (.int n)
    obtain ⟨real, hreal⟩ := Task.ofInt?_of_wholeMicros hn
    exact ⟨houtcome.trans (Memory.inc_changed us hreal), hafter⟩

/-! ## Timers -/

/-- A use of a timer, at a reading of the clock. -/
inductive TimerUse where
  /-- Its block is entered. -/
  | enter (reading : Nat)
  /-- Its block is left. -/
  | exit (reading : Nat)

namespace Timer

/-- **What a timer reports** to its handle in the course of some uses. -/
def reported (clock : Nat → Binary64) : Timer → List TimerUse → List Binary64
  | _, [] => []
  | timer, .enter reading :: uses => reported clock (timer.enter (clock reading)) uses
  | timer, .exit reading :: uses =>
    match timer.elapsed (clock reading) with
    | .ok seconds => seconds :: reported clock timer uses
    | .error _ => reported clock timer uses

/-- **A timer reports nothing below zero**, whatever the clock does. -/
theorem zero_le_of_mem_reported {clock : Nat → Binary64}
    (hclock : ∀ i, (clock i).isFinite = true) {timer : Timer}
    (hstart : ∀ start, timer.start = some start → start.isFinite = true) {uses : List TimerUse} :
    ∀ seconds ∈ timer.reported clock uses, (0 : Binary64).le seconds = true := by
  induction uses generalizing timer with
  | nil => exact fun seconds hmem => absurd hmem List.not_mem_nil
  | cons use uses ih =>
    cases use with
    | enter reading =>
      have hentered : ∀ start, (timer.enter (clock reading)).start = some start →
          start.isFinite = true :=
        fun start heq => Option.some.inj heq ▸ hclock reading
      exact ih hentered
    | exit reading =>
      intro seconds hmem
      unfold reported at hmem
      split at hmem
      · next elapsed helapsed =>
        rcases List.mem_cons.mp hmem with rfl | hmem
        · unfold elapsed at helapsed
          split at helapsed
          · next start heq =>
            cases helapsed
            exact Binary64.zero_le_max_zero (Binary64.sub_ne_nan (hclock reading) (hstart _ heq))
          · cases helapsed
        · exact ih hstart seconds hmem
      · exact ih hstart seconds hmem

/-- A new timer was not entered, or starts at zero. -/
theorem isFinite_of_new {store : Store} {handle : Handle} {timer : Timer}
    (hnew : new store handle = .ok timer) :
    ∀ start, timer.start = some start → start.isFinite = true := by
  intro start heq
  unfold new at hnew
  split at hnew
  · cases hnew
  · cases hnew
    dsimp only at heq
    split at heq
    · cases heq
    · rw [← Option.some.inj heq]
      rfl

end Timer

/-! ## Any clock -/

/-- A step that does not end before it starts, and whose microseconds are finite,
loses no measurement. -/
theorem Task.lost?_of_zero_le {d : Binary64} (h0 : (0 : Binary64).le d = true)
    (hcount : isCountable d = true) (refusal? : Option Fault) : lost? refusal? d = none := by
  obtain ⟨n, hn, hpos⟩ := wholeMicros_of_isCountable h0 hcount
  unfold lost?
  rw [hn]
  exact if_neg (by omega)

namespace Setup

variable {P M : Type}

/-- **What is recorded on any clock**, steady or not, with metrics that take what
they are given, but may refuse microseconds below zero.

* A step gives the metrics a delay that is not below zero, its duration, and its
  microseconds if they can be counted.
* Its duration is below zero exactly if the clock went back in it, and its
  microseconds are exactly if it went back by at least one.
* It is answered as the process answers, unless its microseconds cannot be
  counted, or are below zero and refused: then with that error. So it is
  answered as the process answers if the clock did not go back in it and its
  microseconds are finite.
* Whatever a timer reports is not below zero. -/
theorem measures_watch (u : Setup P M) (hclock : ∀ i, (u.clock i).isFinite = true)
    {Sound : M → Prop} {refusal? : Option Fault} (htakes : u.metering.Takes Sound refusal?)
    (form : TaskForm) {b : SetupState P M} (hsound : Sound b.metrics) (hawaited : b.awaited = [])
    (actions : List DriverAction) :
    (∀ (s : CompletedStep M) (before : Past M),
      .step s :: before <:+ (u.watch form b actions).past →
      ∃ delay, s.given = .delay delay :: .duration (s.duration u)
          :: ((Task.wholeMicros (s.duration u)).toOption.map .micros).toList
        ∧ (0 : Binary64).le delay = true
        ∧ (0 : Binary64).le (s.duration u) = (u.clock s.started).le (u.clock s.ended)
        ∧ (∀ n, Task.wholeMicros (s.duration u) = .ok n →
          (n < 0 ↔ ((s.duration u).mulNat 1000000).le (Binary64.neg 1) = true))
        ∧ s.reply = (match Task.lost? refusal? (s.duration u) with
          | none => s.answer.reply
          | some e => .raised e)
        ∧ ((u.clock s.started).le (u.clock s.ended) = true →
          Task.isCountable (s.duration u) = true → s.reply = s.answer.reply))
      ∧ ∀ (store : Store) (handle : Handle) (timer : Timer), Timer.new store handle = .ok timer →
        ∀ uses, ∀ seconds ∈ timer.reported u.clock uses, (0 : Binary64).le seconds = true := by
  refine ⟨fun s before hsuffix => ?_, fun store handle timer hnew uses =>
    Timer.zero_le_of_mem_reported hclock (Timer.isFinite_of_new hnew)⟩
  obtain ⟨hgiven, hreply, -⟩ := isTaken_watch htakes form hsound hawaited hsuffix
  have hduration : (0 : Binary64).le (s.duration u) = (u.clock s.started).le (u.clock s.ended) :=
    Binary64.zero_le_sub_eq (hclock _) (hclock _)
  refine ⟨_, hgiven, Binary64.zero_le_max_zero (Binary64.sub_ne_nan (hclock _) (hclock _)),
    hduration, fun n hn => Task.wholeMicros_neg_iff hn, hreply, fun hle hcount => ?_⟩
  rw [hreply, Task.lost?_of_zero_le (hduration.trans hle) hcount]

/-- The process that recites its steps, measured by the handles over a memory
store. -/
def recitingOver (clock : Nat → Binary64) : Setup (List Step) Memory where
  process := (reciting clock).process
  metering := .overMemory none "conn"
  clock := clock
  isPending := Script.isPending

/-- The first step of the process that recites. -/
def firstStep (u : Setup (List Step) Memory) (steps : List Step)
    (m : Memory) : CompletedStep Memory :=
  u.completedStep (.send .null) (.new .generator (u.clock 0))
    { process := steps, metrics := (m, []), reading := 1 }

/-- A step of one second is recorded and answered. -/
theorem measures_watch_oneSecond :
    let u := recitingOver (stepClock 3 0 1)
    let steps : List Step := [.returned (.int 1)]
    (∀ i, (u.clock i).isFinite = true) ∧ ∃ (m : Memory) (s : CompletedStep Memory)
    (delay : Binary64),
      m.HoldsTask .on none "conn"
        ∧ (u.watch .generator { process := steps, metrics := m } [.ask (.send .null)]).past
          = [.step s]
        ∧ s.given = [.delay delay, .duration 1, .micros 1000000]
        ∧ (0 : Binary64).le delay = true
        ∧ s.reply = .returned (.int 1) := by
  intro u steps
  have hclock : ∀ i, (u.clock i).isFinite = true := (steady_zeroOne 3).finite
  obtain ⟨m, hm⟩ := Memory.exists_holdsTask .on none "conn"
  have hduration : (u.firstStep steps m).duration u = 1 := by
    show (stepClock 3 0 1 3).sub (stepClock 3 0 1 1) = 1
    decide +kernel
  have hmicros : Task.wholeMicros 1 = .ok 1000000 :=
    Task.wholeMicros_of_truncate? (by decide +kernel)
  have hpast : (u.watch .generator { process := steps, metrics := m } [.ask (.send .null)]).past
      = [.step (u.firstStep steps m)] := rfl
  have hmeasures := (u.measures_watch hclock (Metering.takes_overMemory .on none "conn") .generator
    (b := { process := steps, metrics := m }) hm rfl [.ask (.send .null)]).1
  rw [hpast] at hmeasures
  obtain ⟨delay, hgiven, hdelay, -, -, -, hreply⟩ := hmeasures _ [] List.suffix_rfl
  rw [hduration] at hgiven hreply
  rw [hmicros] at hgiven
  have hforwards : (stepClock 3 0 1 1).le (stepClock 3 0 1 3) = true := by decide +kernel
  exact ⟨hclock, m, _, delay, hm, hpast, hgiven, hdelay, hreply hforwards (by decide +kernel)⟩

/-- **A step in which the clock goes back by a second** loses the result of its
process: the counter refuses its microseconds, and the task is answered with
that. The histogram is given a duration below zero. -/
theorem measures_watch_backwards :
    let u := recitingOver (stepClock 3 1 0)
    let steps : List Step := [.returned (.int 1)]
    (∀ i, (u.clock i).isFinite = true) ∧ ∃ (m : Memory) (s : CompletedStep Memory),
      m.HoldsTask .on none "conn"
        ∧ (u.watch .generator { process := steps, metrics := m } [.ask (.send .null)]).past
          = [.step s]
        ∧ .duration (Binary64.neg 1) ∈ s.given ∧ .micros (-1000000) ∈ s.given
        ∧ s.answer = .returned (.int 1)
        ∧ s.reply = .raised .negativeIncrement := by
  intro u steps
  have hclock : ∀ i, (u.clock i).isFinite = true := fun i => by
    show (if i < 3 then (1 : Binary64) else 0).isFinite = true
    split <;> decide +kernel
  obtain ⟨m, hm⟩ := Memory.exists_holdsTask .on none "conn"
  have hduration : (u.firstStep steps m).duration u = Binary64.neg 1 := by
    show (stepClock 3 1 0 3).sub (stepClock 3 1 0 1) = Binary64.neg 1
    decide +kernel
  have hmicros : Task.wholeMicros (Binary64.neg 1) = .ok (-1000000) :=
    Task.wholeMicros_of_truncate? (by decide +kernel)
  have hpast : (u.watch .generator { process := steps, metrics := m } [.ask (.send .null)]).past
      = [.step (u.firstStep steps m)] := rfl
  have hsuffix : Moment.step (u.firstStep steps m) :: []
      <:+ (u.watch .generator { process := steps, metrics := m } [.ask (.send .null)]).past :=
    hpast ▸ List.suffix_rfl
  obtain ⟨hgiven, hreply, -⟩ := isTaken_watch (Metering.takes_overMemory .on none "conn") .generator
    hm rfl hsuffix
  rw [hduration, hmicros] at hgiven
  rw [hduration, Task.lost?, hmicros] at hreply
  refine ⟨hclock, m, _, hm, hpast, ?_, ?_, rfl, hreply⟩
  · rw [hgiven]
    exact List.mem_cons_of_mem _ List.mem_cons_self
  · rw [hgiven]
    exact List.mem_cons_of_mem _ (List.mem_cons_of_mem _ List.mem_cons_self)

end Setup

end QuicTelemetry
