import QuicTelemetry.Proofs.Task.Accounting
import QuicTelemetry.Proofs.Task.Release

/-!
# The intervals that are measured

A driver is *paced* if it resumes a task only after the task was released: after
the pending result that it handed out was completed, or at any time after it
yielded anything else. An event loop drives its tasks in this way.

Under a paced driver nothing is ever completed that the task no longer waits for
(`Past.IsPaced.quiet`). So each delay is the time since the release, and **the
intervals that are measured follow one another** (`Setup.intervals_watch`): the
making of the task, the start and the end of the first step, the next release,
the start and the end of the next step, and so on. What they come to is at most
the time from the making of the task to the end of its last step. Each number
that the metrics are given is rounded once, which is all that can be added.
-/

namespace QuicTelemetry

variable {P M : Type}

namespace Past

variable {isPending : Value → Bool} {made : Nat}

/-! ## Paced drivers -/

/-- **A past under a paced driver**: before every step, the task was released. -/
def IsPaced (isPending : Value → Bool) (made : Nat) (past : Past M) : Prop :=
  ∀ (s : CompletedStep M) (before : Past M), .step s :: before <:+ past →
    (released? isPending made before).isSome = true

theorem IsPaced.of_suffix {before past : Past M} (h : past.IsPaced isPending made)
    (hsuffix : before <:+ past) : before.IsPaced isPending made :=
  fun s earlier hearlier => h s earlier (hearlier.trans hsuffix)

/-- Whether a driver was paced, by looking at every step. -/
def wasPaced (isPending : Value → Bool) (made : Nat) : Past M → Bool
  | [] => true
  | .completed _ _ :: past => wasPaced isPending made past
  | .step _ :: past => (released? isPending made past).isSome && wasPaced isPending made past

theorem isPaced_of_wasPaced {past : Past M} (h : wasPaced isPending made past = true) :
    past.IsPaced isPending made := by
  induction past with
  | nil =>
    intro s before hsuffix
    exact absurd (List.suffix_nil.mp hsuffix) (List.cons_ne_nil _ _)
  | cons moment past ih =>
    intro s before hsuffix
    cases moment with
    | completed isDone reading =>
      rcases List.suffix_cons_iff.mp hsuffix with heq | hsuffix
      · cases heq
      · exact ih h s before hsuffix
    | step latest =>
      obtain ⟨hreleased, hpast⟩ := Bool.and_eq_true_iff.mp h
      rcases List.suffix_cons_iff.mp hsuffix with heq | hsuffix
      · cases heq
        exact hreleased
      · exact ih hpast s before hsuffix

/-- Under a paced driver, the task waits for what it is suspended on and for
nothing else, so that nothing is completed that it no longer waits for. -/
theorem IsPaced.quiet {past : Past M} (h : past.IsPaced isPending made) :
    stale? isPending made past = none
      ∧ ∀ v ∈ awaited isPending past,
        suspendedOn? isPending past = some v ∧ released? isPending made past = none := by
  induction past with
  | nil => exact ⟨rfl, fun v hv => absurd hv List.not_mem_nil⟩
  | cons moment past ih =>
    obtain ⟨hstale, hawaited⟩ := ih (h.of_suffix (List.suffix_cons _ _))
    cases moment with
    | completed isDone reading =>
      constructor
      · simp only [stale?]
        split
        · rfl
        · next hrelease =>
          refine (if_neg fun hany => hrelease ?_).trans hstale
          obtain ⟨v, hv, hdone⟩ := List.any_eq_true.mp hany
          obtain ⟨hsuspended, hreleased⟩ := hawaited v hv
          simp [hsuspended, hreleased, hdone]
      · intro v hv
        obtain ⟨hv, hundone⟩ := List.mem_filter.mp hv
        obtain ⟨hsuspended, hreleased⟩ := hawaited v hv
        refine ⟨hsuspended, ?_⟩
        simp only [released?, hreleased, hsuspended]
        exact if_neg (by simpa using hundone)
    | step s =>
      have hnone : awaited isPending past = [] := by
        refine List.eq_nil_iff_forall_not_mem.mpr fun v hv => ?_
        have hsome := h s past List.suffix_rfl
        rw [(hawaited v hv).2] at hsome
        cases hsome
      refine ⟨rfl, fun v hv => ?_⟩
      simp only [awaited, suspendedOn?, released?, hnone] at hv ⊢
      cases hreply : s.reply with
      | yielded w => cases hw : isPending w <;> simp_all
      | _ => simp_all

/-- Under a paced driver, the delay of a step is measured from the release. -/
theorem IsPaced.wake {past : Past M} (h : past.IsPaced isPending made) {n : Nat}
    (hn : released? isPending made past = some n) : wake isPending made past = n := by
  rw [wake_eq, h.quiet.1, hn]
  rfl

/-! ## Marks and intervals -/

/-- **The readings that intervals begin and end at**, the latest first: of each
step its end, its start, and the reading that its delay is measured from. -/
def marks (isPending : Value → Bool) (made : Nat) : Past M → List Nat
  | [] => []
  | .completed _ _ :: past => marks isPending made past
  | .step s :: past =>
    s.ended :: s.started :: wake isPending made past :: marks isPending made past

/-- **The intervals that are measured**, those of the latest step first: the
delay of a step and the step itself. -/
def intervals (isPending : Value → Bool) (made : Nat) : Past M → List (Nat × Nat)
  | [] => []
  | .completed _ _ :: past => intervals isPending made past
  | .step s :: past =>
    (wake isPending made past, s.started) :: (s.started, s.ended) :: intervals isPending made past

/-- **A past under a paced driver in which everything was measured.** -/
structure Orderly (u : Setup P M) (refusal? : Option Fault) (made : Nat) (past : Past M) : Prop where
  /-- Everything fits. -/
  fits : past.Fits u made
  /-- The driver is paced. -/
  paced : past.IsPaced u.isPending made
  /-- All of every step was measured. -/
  taken : ∀ (s : CompletedStep M) (before : Past M), .step s :: before <:+ past →
    s.IsTaken u refusal? made before

namespace Orderly

variable {u : Setup P M} {refusal? : Option Fault} {past : Past M}

theorem of_suffix {before : Past M} (h : past.Orderly u refusal? made) (hsuffix : before <:+ past) :
    before.Orderly u refusal? made :=
  ⟨h.fits.of_suffix hsuffix, h.paced.of_suffix hsuffix,
    fun s earlier hearlier => h.taken s earlier (hearlier.trans hsuffix)⟩

theorem of_cons {moment : Moment M} (h : Orderly u refusal? made (moment :: past)) :
    Orderly u refusal? made past :=
  h.of_suffix (List.suffix_cons _ _)

/-- **One step**: it starts after its release, which is after the suspension
before it, and is over before its own. -/
theorem of_completedStep {s : CompletedStep M} (h : Orderly u refusal? made (.step s :: past)) :
    suspendedAt made past ≤ past.wake u.isPending made
      ∧ past.wake u.isPending made ≤ s.started ∧ s.started ≤ s.ended ∧ s.ended ≤ s.left := by
  have hfits : s.Fits u made past := h.fits.of_cons.1
  have hpast : past.Fits u made := h.fits.of_cons.2
  obtain ⟨n, hn⟩ := Option.isSome_iff_exists.mp (h.paced s past List.suffix_rfl)
  rw [h.of_cons.paced.wake hn]
  obtain ⟨hsuspended, hlatest⟩ := hpast.released_mem hn
  exact ⟨hsuspended, Nat.le_trans hlatest hfits.after, hfits.lasts,
    (h.taken s past List.suffix_rfl).answers⟩

/-- All marks are before the last suspension. -/
theorem marks_le (h : Orderly u refusal? made past) :
    ∀ mark ∈ past.marks u.isPending made, mark ≤ suspendedAt made past := by
  induction past with
  | nil => exact fun mark hmark => absurd hmark List.not_mem_nil
  | cons moment past ih =>
    cases moment with
    | completed isDone reading => exact ih h.of_cons
    | step s =>
      have hbefore := ih h.of_cons
      obtain ⟨hsuspended, hwake, hlasts, hleft⟩ := h.of_completedStep
      intro mark hmark
      show mark ≤ s.left
      simp only [marks, List.mem_cons] at hmark
      rcases hmark with rfl | rfl | rfl | hmark
      · exact hleft
      · omega
      · omega
      · have hle := hbefore mark hmark
        omega

/-- **The marks follow one another.** -/
theorem pairwise_marks (h : Orderly u refusal? made past) :
    (past.marks u.isPending made).Pairwise fun later earlier => earlier ≤ later := by
  induction past with
  | nil => exact List.Pairwise.nil
  | cons moment past ih =>
    cases moment with
    | completed isDone reading => exact ih h.of_cons
    | step s =>
      have hbefore := h.of_cons.marks_le
      obtain ⟨hsuspended, hwake, hlasts, hleft⟩ := h.of_completedStep
      simp only [marks, List.pairwise_cons, List.mem_cons, forall_eq_or_imp]
      refine ⟨⟨hlasts, by omega, fun mark hmark => ?_⟩, ⟨hwake, fun mark hmark => ?_⟩,
        fun mark hmark => ?_, ih h.of_cons⟩ <;>
        · have hle := hbefore mark hmark
          omega

end Orderly

/-- Without a step, the next delay is measured from the making of the task. -/
theorem wake_of_marks_eq_nil {past : Past M} (h : past.marks isPending made = []) :
    past.wake isPending made = made ∧ past.awaited isPending = [] := by
  induction past with
  | nil => exact ⟨rfl, rfl⟩
  | cons moment past ih =>
    cases moment with
    | completed isDone reading =>
      obtain ⟨hwake, hawaited⟩ := ih h
      simp only [Past.wake, awaited, hwake, hawaited]
      exact ⟨rfl, rfl⟩
    | step s => cases h

/-- **The first mark is the making of the task.** -/
theorem getLast?_marks {past : Past M} {mark : Nat}
    (h : (past.marks isPending made).getLast? = some mark) : mark = made := by
  induction past with
  | nil => cases h
  | cons moment past ih =>
    cases moment with
    | completed isDone reading => exact ih h
    | step s =>
      simp only [marks, List.getLast?_cons_cons] at h
      cases hmarks : marks isPending made past with
      | nil =>
        rw [hmarks] at h
        rw [← Option.some.inj h]
        exact (wake_of_marks_eq_nil hmarks).1
      | cons first rest =>
        rw [hmarks, List.getLast?_cons_cons, ← hmarks] at h
        exact ih h

end Past

/-! ## What the intervals come to -/

/-- The time between the two readings of an interval, in units. -/
def Setup.length (u : Setup P M) (interval : Nat × Nat) : Int :=
  (u.clock interval.2).units - (u.clock interval.1).units

namespace Past.Orderly

variable {u : Setup P M} {refusal? : Option Fault} {made : Nat} {past : Past M}

/-- The intervals come to no more than the time from the making of the task to its
last suspension. -/
theorem sum_length_le (h : past.Orderly u refusal? made) (hclock : Steady u.clock) :
    ((past.intervals u.isPending made).map u.length).sum
      ≤ (u.clock (suspendedAt made past)).units - (u.clock made).units := by
  induction past with
  | nil => exact Int.le_of_eq (Int.sub_self _).symm
  | cons moment past ih =>
    cases moment with
    | completed isDone reading => exact ih h.of_cons
    | step s =>
      have hbefore := ih h.of_cons
      obtain ⟨hsuspended, hwake, hlasts, hleft⟩ := h.of_completedStep
      have hwaited := hclock.units_le hsuspended
      have hanswered := hclock.units_le hleft
      simp only [intervals, List.map_cons, List.sum_cons, Setup.length, suspendedAt] at hbefore ⊢
      omega

/-- **Up to the end of a step** they come to no more than the time from the making
of the task to that end. -/
theorem sum_length_step_le {s : CompletedStep M} (h : Orderly u refusal? made (.step s :: past))
    (hclock : Steady u.clock) :
    ((intervals u.isPending made (.step s :: past)).map u.length).sum
      ≤ (u.clock s.ended).units - (u.clock made).units := by
  have hbefore := h.of_cons.sum_length_le hclock
  obtain ⟨hsuspended, -, -, -⟩ := h.of_completedStep
  have hwaited := hclock.units_le hsuspended
  simp only [intervals, List.map_cons, List.sum_cons, Setup.length] at hbefore ⊢
  omega

/-- No interval ends before it begins. -/
theorem zero_le_length (h : past.Orderly u refusal? made) (hclock : Steady u.clock) :
    ∀ interval ∈ past.intervals u.isPending made, 0 ≤ u.length interval := by
  induction past with
  | nil => exact fun interval hmem => absurd hmem List.not_mem_nil
  | cons moment past ih =>
    cases moment with
    | completed isDone reading => exact ih h.of_cons
    | step s =>
      obtain ⟨-, hwake, hlasts, -⟩ := h.of_completedStep
      intro interval hmem
      rcases List.mem_cons.mp hmem with rfl | hmem
      · exact Int.sub_nonneg_of_le (hclock.units_le hwake)
      · rcases List.mem_cons.mp hmem with rfl | hmem
        · exact Int.sub_nonneg_of_le (hclock.units_le hlasts)
        · exact ih h.of_cons interval hmem

end Past.Orderly

/-! ## What is recorded of them -/

/-- The time that the metrics were given, if it was one. -/
def Given.time? : Given → Option Binary64
  | .delay x | .duration x => some x
  | .micros _ => none

/-- **All delays and durations that the metrics were given**, those of the latest
step first. -/
def Past.times : Past M → List Binary64
  | [] => []
  | .completed _ _ :: past => times past
  | .step s :: past => s.given.filterMap Given.time? ++ times past

/-- The number recorded for an interval: the difference of the two readings. -/
def Setup.recorded (u : Setup P M) (interval : Nat × Nat) : Binary64 :=
  (u.clock interval.2).sub (u.clock interval.1)

/-- The metrics were given one number for each interval. -/
theorem Past.Orderly.times_eq {u : Setup P M} {refusal? : Option Fault} {made : Nat}
    {past : Past M} (h : past.Orderly u refusal? made) (hclock : Steady u.clock) :
    past.times = (past.intervals u.isPending made).map u.recorded := by
  induction past with
  | nil => rfl
  | cons moment past ih =>
    cases moment with
    | completed isDone reading => exact ih h.of_cons
    | step s =>
      have hdelay := CompletedStep.Fits.delay_eq hclock h.of_cons.fits h.fits.of_cons.1
      have hgiven := (h.taken s past List.suffix_rfl).given
      have hmicros : ((Task.wholeMicros (s.duration u)).toOption.map Given.micros).toList.filterMap
          Given.time? = [] := by
        cases (Task.wholeMicros (s.duration u)).toOption <;> rfl
      rw [hdelay] at hgiven
      simp only [times, intervals, List.map_cons, hgiven, List.filterMap_cons, Given.time?,
        List.cons_append, hmicros, List.nil_append, ih h.of_cons]
      rfl

namespace Setup

variable {u : Setup P M}

/-- Where nothing is rounded, the lengths are recorded. -/
theorem units?_recorded (hclock : Steady u.clock) {interval : Nat × Nat}
    (h : Binary64.Representable (u.length interval).natAbs) :
    (u.recorded interval).units? = some (u.length interval) :=
  Binary64.units?_sub (hclock.units?_eq _) (hclock.units?_eq _) h

/-- Recorded numbers are rounded once each, by no more than one part in 2⁵³. -/
theorem sum_recorded_le (hclock : Steady u.clock) {intervals : List (Nat × Nat)}
    (hlength : ∀ interval ∈ intervals, 0 ≤ u.length interval) {ks : List Int}
    (hks : (intervals.map u.recorded).map Binary64.units? = ks.map some) :
    2 ^ 53 * ks.sum ≤ (2 ^ 53 + 1) * (intervals.map u.length).sum := by
  induction intervals generalizing ks with
  | nil =>
    obtain rfl : ks = [] := List.map_eq_nil_iff.mp hks.symm
    exact Int.le_refl 0
  | cons interval rest ih =>
    cases ks with
    | nil => cases hks
    | cons k ks =>
      obtain ⟨hk, hrest⟩ := List.cons.inj hks
      obtain ⟨s, hs⟩ := Binary64.exists_sub_eq (hclock.units?_eq interval.2)
        (hclock.units?_eq interval.1)
      have hk : (Binary64.ofSignedUnits s (u.length interval)).units? = some k :=
        (congrArg Binary64.units? hs).symm.trans hk
      have hfirst := Binary64.units?_ofSignedUnits_le (hlength interval List.mem_cons_self) hk
      have hothers := ih (fun i hi => hlength i (List.mem_cons_of_mem _ hi)) hrest
      simp only [List.map_cons, List.sum_cons]
      omega

/-- A watched task under a paced driver has an orderly past. -/
theorem orderly_watch (u : Setup P M) {Sound : M → Prop} {refusal? : Option Fault}
    (htakes : u.metering.Takes Sound refusal?) (form : TaskForm) {b : SetupState P M}
    (hsound : Sound b.metrics) (hawaited : b.awaited = []) {actions : List DriverAction}
    (hpaced : (u.watch form b actions).past.IsPaced u.isPending b.reading) :
    (u.watch form b actions).past.Orderly u refusal? b.reading := by
  exact ⟨(u.told_watch form hawaited actions).fits, hpaced,
    fun s before hsuffix => isTaken_watch htakes form hsound hawaited hsuffix⟩

/-- **The intervals that are measured follow one another.** On a steady clock,
with metrics that take what they are given, and under a driver that resumes the
task only after it was released:

* each step gives the metrics the time from the release to its start, the time
  from its start to its end, and its microseconds if they can be counted;
* the making of the task, the start and the end of the first step, the next
  release, the start and the end of the next step and so on are in this order;
* up to the end of any step, the intervals come to no more than the time from the
  making of the task to that end. Where nothing is rounded, the lengths of the
  intervals are what was recorded, and in any case what was recorded is at most
  one part in 2⁵³ above that time. -/
theorem intervals_watch (u : Setup P M) (hclock : Steady u.clock) {Sound : M → Prop}
    {refusal? : Option Fault} (htakes : u.metering.Takes Sound refusal?) (form : TaskForm)
    {b : SetupState P M} (hsound : Sound b.metrics) (hawaited : b.awaited = [])
    {actions : List DriverAction}
    (hpaced : (u.watch form b actions).past.IsPaced u.isPending b.reading) :
    let past := (u.watch form b actions).past
    (∀ (s : CompletedStep M) (before : Past M), .step s :: before <:+ past →
      ∃ wake, before.released? u.isPending b.reading = some wake
        ∧ before.wake u.isPending b.reading = wake
        ∧ s.given = .delay (s.since u wake) :: .duration (s.duration u)
          :: ((Task.wholeMicros (s.duration u)).toOption.map .micros).toList)
      ∧ (∀ mark, (past.marks u.isPending b.reading).getLast? = some mark → mark = b.reading)
      ∧ ((past.marks u.isPending b.reading).Pairwise fun later earlier =>
        (u.clock earlier).le (u.clock later) = true)
      ∧ ∀ (s : CompletedStep M) (before : Past M), .step s :: before <:+ past →
        let intervals := Past.intervals u.isPending b.reading (.step s :: before)
        let times := Past.times (.step s :: before)
        let total := (u.clock s.ended).units - (u.clock b.reading).units
        (intervals.map u.length).sum ≤ total
          ∧ ((∀ interval ∈ intervals, Binary64.Representable (u.length interval).natAbs) →
            times.map Binary64.units? = (intervals.map u.length).map some)
          ∧ ∀ ks : List Int, times.map Binary64.units? = ks.map some →
            2 ^ 53 * ks.sum ≤ (2 ^ 53 + 1) * total := by
  intro past
  have horderly : past.Orderly u refusal? b.reading :=
    u.orderly_watch htakes form hsound hawaited hpaced
  refine ⟨fun s before hsuffix => ?_, fun mark hmark => Past.getLast?_marks hmark,
    horderly.pairwise_marks.imp fun hle => hclock.le _ _ hle, fun s before hsuffix => ?_⟩
  · obtain ⟨wake, hwake⟩ := Option.isSome_iff_exists.mp (horderly.paced s before hsuffix)
    have hbefore := (horderly.of_suffix hsuffix).of_cons
    have hdelay := CompletedStep.Fits.delay_eq hclock hbefore.fits
      (horderly.fits (.step s) before hsuffix)
    have hmeasured := hbefore.paced.wake hwake
    rw [hmeasured] at hdelay
    refine ⟨wake, hwake, hmeasured, ?_⟩
    rw [(horderly.taken s before hsuffix).given, hdelay]
  · have hstep := horderly.of_suffix hsuffix
    have hsum := hstep.sum_length_step_le hclock
    have htimes := hstep.times_eq hclock
    intro intervals times total
    have htimes : times = intervals.map u.recorded := htimes
    refine ⟨hsum, fun hexact => ?_, fun ks hks => ?_⟩
    · rw [htimes, List.map_map, List.map_map]
      exact List.map_congr_left fun i hi => units?_recorded hclock (hexact i hi)
    · rw [htimes] at hks
      have hrecorded := sum_recorded_le hclock (hstep.zero_le_length hclock) hks
      exact Int.le_trans hrecorded (Int.mul_le_mul_of_nonneg_left hsum (by decide))

/-- The metrics of the process that recites take everything. -/
theorem takes_reciting (clock : Nat → Binary64) :
    (reciting clock).metering.Takes (fun _ => True) none :=
  ⟨fun _ _ _ => ⟨rfl, trivial⟩, fun _ _ _ => ⟨rfl, trivial⟩,
    fun _ n _ _ _ => ⟨(ite_self (c := n < 0) _).symm, trivial⟩⟩

/-- A task that waits a second for its second step: the intervals come to that
second. -/
theorem intervals_watch_oneSecond :
    let u := reciting (stepClock 9 0 1)
    let steps : List Step := [.yielded (.future "a"), .returned (.int 1)]
    let actions := [.ask (.send .null), .complete (isFuture "a"), .ask (.send .null)]
    Steady u.clock ∧ u.metering.Takes (fun _ => True) none
      ∧ (recited u.clock steps actions).IsPaced u.isPending 0
      ∧ ∃ (s : CompletedStep Unit) (before : Past Unit) (rest : List Given),
        recited u.clock steps actions = .step s :: before
          ∧ s.given = .delay 1 :: rest
          ∧ ((Past.intervals u.isPending 0 (.step s :: before)).map u.length).sum
            ≤ (u.clock s.ended).units - (u.clock 0).units := by
  intro u steps actions
  have hclock : Steady u.clock := steady_zeroOne 9
  have htakes := takes_reciting u.clock
  have hpaced : (recited u.clock steps actions).IsPaced u.isPending 0 :=
    Past.isPaced_of_wasPaced (by decide +kernel)
  obtain ⟨s, before, hpast, hends⟩ := (recited u.clock steps actions).exists_of_endsIn
    (fun s before => decide (before.released? u.isPending 0 = some 7 ∧ s.since u 7 = 1))
    (by decide +kernel)
  obtain ⟨hreleased, hsince⟩ := of_decide_eq_true hends
  obtain ⟨hgiven, -, -, hsums⟩ := u.intervals_watch hclock htakes .generator
    (b := { process := steps, metrics := () }) trivial rfl hpaced
  have hsuffix : Moment.step s :: before <:+ recited u.clock steps actions :=
    hpast ▸ List.suffix_rfl
  obtain ⟨wake, hwake, -, hgiven⟩ := hgiven s before hsuffix
  obtain rfl : 7 = wake := Option.some.inj (hreleased.symm.trans hwake)
  rw [hsince] at hgiven
  exact ⟨hclock, htakes, hpaced, s, before, _, hpast, hgiven, (hsums s before hsuffix).1⟩

end Setup

end QuicTelemetry
