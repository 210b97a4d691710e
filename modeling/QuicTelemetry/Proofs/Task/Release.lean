import QuicTelemetry.Proofs.Task.Timeline
import QuicTelemetry.Proofs.Task.Transparency
import QuicTelemetry.Task.Script

/-!
# What a task was released by

A task that was suspended on a pending result is released when that result is
completed, and one that yielded anything else is released at once. The delay of
a step should be the time since then.

It is, as long as nothing else has moved the time that it is measured from
(`Setup.delays_watch`). Two things do. A result that the task handed out in an
earlier step, and no longer waits for, still moves it when it is completed
(`Past.stale?`), so that a delay comes out too short. And an exception may be
thrown in before the task was released: then the delay is measured from where
the one before was, and counts again what was counted already. Both happen in
`Setup.delays_misled`.
-/

namespace QuicTelemetry

variable {P M : Type}

namespace Past

variable (isPending : Value → Bool) (made : Nat)

/-- The pending result that the task was last suspended on, if it was on one. -/
def suspendedOn? : Past M → Option Value
  | [] => none
  | .completed _ _ :: past => suspendedOn? past
  | .step s :: _ =>
    match s.reply with
    | .yielded v => if isPending v then some v else none
    | _ => none

/-- The reading at which the task was last suspended, or made. -/
def suspendedAt : Past M → Nat
  | [] => made
  | .completed _ _ :: past => suspendedAt past
  | .step s :: _ => s.left

/-- **The reading at which the task was released** by what it was last suspended
on, if it was: that of the completion of a pending result, and that of the
suspension itself for anything else. A new task is released by its making. -/
def released? : Past M → Option Nat
  | [] => some made
  | .completed isDone reading :: past =>
    match released? past with
    | some n => some n
    | none => if (suspendedOn? isPending past).any isDone then some reading else none
  | .step s :: _ =>
    match s.reply with
    | .yielded v => if isPending v then none else some s.left
    | _ => none

/-- **The reading at which a result was last completed that the task no longer
waited for**: handed out in an earlier step, and completed after the task was
released, or after it was suspended if it is not released. -/
def stale? : Past M → Option Nat
  | [] => none
  | .completed isDone reading :: past =>
    if (released? isPending made past).isNone ∧ (suspendedOn? isPending past).any isDone then none
    else if (awaited isPending past).any isDone then some reading
    else stale? past
  | .step _ :: _ => none

/-- The reading that the delay of the last step was measured from; that at which
the task was made if there was no step. -/
def lastWake : Past M → Nat
  | [] => made
  | .completed _ _ :: past => lastWake past
  | .step _ :: past => wake isPending made past

variable {isPending made}

/-- A result that the task is suspended on is waited for until it is
completed. -/
theorem mem_awaited {past : Past M} {v : Value} (hsuspended : suspendedOn? isPending past = some v)
    (hreleased : released? isPending made past = none) : v ∈ awaited isPending past := by
  induction past with
  | nil => cases hsuspended
  | cons moment past ih =>
    cases moment with
    | completed isDone reading =>
      have hsuspended : suspendedOn? isPending past = some v := hsuspended
      have hbefore : released? isPending made past = none := by
        cases hn : released? isPending made past with
        | none => rfl
        | some n => simp [released?, hn] at hreleased
      have hundone : isDone v = false := by
        cases hv : isDone v with
        | false => rfl
        | true => simp [released?, hbefore, hsuspended, hv] at hreleased
      refine List.mem_filter.mpr ⟨ih hsuspended hbefore, ?_⟩
      rw [hundone]
      rfl
    | step s =>
      unfold suspendedOn? at hsuspended
      unfold awaited
      split at hsuspended
      · split at hsuspended
        · next hpending =>
          cases hsuspended
          simp [*]
        · cases hsuspended
      · cases hsuspended

/-- **What the next delay is measured from**: the last completion that no longer
mattered, else the release, else whatever the last delay was measured from. -/
theorem wake_eq (past : Past M) :
    wake isPending made past = ((stale? isPending made past).or (released? isPending made past)).getD
      (lastWake isPending made past) := by
  induction past with
  | nil => rfl
  | cons moment past ih =>
    cases moment with
    | completed isDone reading =>
      simp only [wake, stale?, released?, lastWake]
      cases hreleased : released? isPending made past with
      | some n =>
        -- whatever is completed after the release no longer matters
        rw [hreleased] at ih
        by_cases hany : (awaited isPending past).any isDone = true
        · simp [hany]
        · simp [hany, ih]
      | none =>
        rw [hreleased] at ih
        by_cases hdone : (suspendedOn? isPending past).any isDone = true
        · -- what the task waited for is completed
          obtain ⟨v, hsuspended, hv⟩ := (Option.any_eq_true _ _).mp hdone
          have hmem := mem_awaited hsuspended hreleased
          have hany : (awaited isPending past).any isDone = true :=
            List.any_eq_true.mpr ⟨v, hmem, hv⟩
          simp [hdone, hany]
        · by_cases hany : (awaited isPending past).any isDone = true
          · simp [hdone, hany]
          · simp [hdone, hany, ih]
    | step s =>
      simp only [wake, stale?, released?, lastWake]
      cases s.reply with
      | yielded v => cases hv : isPending v <;> simp [hv]
      | _ => rfl

/-! ## The order of things -/

namespace Fits

variable {u : Setup P M} {past : Past M}

/-- The last delay was measured from a reading before the task was last
suspended. -/
theorem lastWake_le (h : past.Fits u made) :
    lastWake u.isPending made past ≤ suspendedAt made past := by
  induction past with
  | nil => exact Nat.le_refl _
  | cons moment past ih =>
    obtain ⟨hmoment, hpast⟩ := h.of_cons
    cases moment with
    | completed isDone reading => exact ih hpast
    | step s =>
      have hfits : s.Fits u made past := hmoment
      exact Nat.le_trans hpast.wake_mem.2 (Nat.le_trans hfits.after hfits.left)

theorem suspendedAt_le (h : past.Fits u made) : suspendedAt made past ≤ latest made past := by
  induction past with
  | nil => exact Nat.le_refl _
  | cons moment past ih =>
    obtain ⟨hmoment, hpast⟩ := h.of_cons
    cases moment with
    | completed isDone reading => exact Nat.le_trans (ih hpast) hmoment
    | step s => exact Nat.le_refl _

/-- A task is released between its suspension and now. -/
theorem released_mem (h : past.Fits u made) {n : Nat}
    (hn : released? u.isPending made past = some n) :
    suspendedAt made past ≤ n ∧ n ≤ latest made past := by
  induction past with
  | nil =>
    cases hn
    exact ⟨Nat.le_refl _, Nat.le_refl _⟩
  | cons moment past ih =>
    obtain ⟨hmoment, hpast⟩ := h.of_cons
    cases moment with
    | completed isDone reading =>
      have hafter : Past.latest made past ≤ reading := hmoment
      show suspendedAt made past ≤ n ∧ n ≤ reading
      unfold released? at hn
      split at hn
      · next m hm =>
        cases hn
        obtain ⟨hle, hlatest⟩ := ih hpast hm
        exact ⟨hle, Nat.le_trans hlatest hafter⟩
      · split at hn
        · cases hn
          exact ⟨Nat.le_trans hpast.suspendedAt_le hafter, Nat.le_refl _⟩
        · cases hn
    | step s =>
      unfold released? at hn
      split at hn
      · split at hn
        · cases hn
        · cases hn
          exact ⟨Nat.le_refl _, Nat.le_refl _⟩
      · cases hn

/-- What the task no longer waited for is completed after it was suspended, and
after it was released. -/
theorem stale_mem (h : past.Fits u made) {n : Nat} (hn : stale? u.isPending made past = some n) :
    suspendedAt made past ≤ n ∧ ∀ m, released? u.isPending made past = some m → m ≤ n := by
  induction past with
  | nil => cases hn
  | cons moment past ih =>
    obtain ⟨hmoment, hpast⟩ := h.of_cons
    cases moment with
    | completed isDone reading =>
      have hafter : Past.latest made past ≤ reading := hmoment
      simp only [stale?, released?] at hn ⊢
      split at hn
      · cases hn
      · next hfirst =>
        split at hn
        · cases hn
          refine ⟨Nat.le_trans hpast.suspendedAt_le hafter, fun m hm => ?_⟩
          have hlast : released? u.isPending made (.completed isDone n :: past) = some m := hm
          exact (h.released_mem hlast).2
        · obtain ⟨hle, hall⟩ := ih hpast hn
          refine ⟨hle, fun m hm => ?_⟩
          split at hm
          · next k hk =>
            cases hm
            exact hall _ hk
          · next hnone =>
            simp_all
    | step s => cases hn

end Fits

end Past

/-! ## Delays -/

/-- The time from a reading of the clock to the start of a step. -/
def CompletedStep.since (u : Setup P M) (s : CompletedStep M) (n : Nat) : Binary64 :=
  (u.clock s.started).sub (u.clock n)

/-- On a steady clock, a delay is the time since what it is measured from. -/
theorem CompletedStep.Fits.delay_eq {u : Setup P M} (hclock : Steady u.clock) {made : Nat}
    {past : Past M}
    (hpast : past.Fits u made) {s : CompletedStep M} (h : s.Fits u made past) :
    s.delay u made past = s.since u (past.wake u.isPending made) := by
  refine Binary64.max_zero_of_zero_le (Binary64.zero_le_sub (hclock.finite _) (hclock.finite _) ?_)
  exact hclock.le _ _ (Nat.le_trans hpast.wake_mem.2 h.after)

namespace Setup

/-- **What delays are measured from**, on a steady clock, whatever the process,
the metrics and the driver do. A step gives the metrics one delay.

* It is the time since the task was released by what it was last suspended on,
  if nothing was completed since that it no longer waited for.
* If something was, it is the time since then, which is less.
* If the task was not released, and nothing of that kind was completed since it
  was suspended, it is measured from where the delay before was, which is
  before the suspension. -/
theorem delays_watch (u : Setup P M) (hclock : Steady u.clock) (form : TaskForm)
    {b : SetupState P M}
    (hawaited : b.awaited = []) (actions : List DriverAction) :
    ∀ (s : CompletedStep M) (before : Past M), .step s :: before <:+ (u.watch form b actions).past →
      let released? := before.released? u.isPending b.reading
      let stale? := before.stale? u.isPending b.reading
      ∃ d rest, s.given = .delay d :: rest
        ∧ (∀ given ∈ rest, ∀ x, given ≠ .delay x)
        ∧ (stale? = none → ∀ n, released? = some n → d = s.since u n)
        ∧ (∀ n, stale? = some n → d = s.since u n
          ∧ before.suspendedAt b.reading ≤ n ∧ ∀ m, released? = some m → m ≤ n)
        ∧ (stale? = none → released? = none →
          d = s.since u (before.lastWake u.isPending b.reading)
            ∧ before.lastWake u.isPending b.reading ≤ before.suspendedAt b.reading) := by
  intro s before hsuffix released? stale?
  have htold := u.told_watch form hawaited actions
  have hbefore : before.Fits u b.reading :=
    htold.fits.of_suffix ((List.suffix_cons _ _).trans hsuffix)
  have hfits : s.Fits u b.reading before := htold.fits _ _ hsuffix
  obtain ⟨rest, hgiven, hrest⟩ := u.metering.given_measure (s.delay u b.reading before)
    (s.duration u) s.metrics
  have hdelay := hfits.delay_eq hclock hbefore
  have hwake : before.wake u.isPending b.reading
      = (stale?.or released?).getD (before.lastWake u.isPending b.reading) := before.wake_eq
  refine ⟨_, rest, hfits.given.trans hgiven, fun given hmem x heq => ?_, fun hstale n hn => ?_,
    fun n hn => ⟨?_, hbefore.stale_mem hn⟩, fun hstale hreleased => ⟨?_, hbefore.lastWake_le⟩⟩
  · subst heq
    have hin := hrest.subset hmem
    cases hmicros : Task.wholeMicros (s.duration u) <;> simp [hmicros, Except.toOption] at hin
  · rw [hdelay, hwake, hstale, hn]
    rfl
  · rw [hdelay, hwake, hn]
    rfl
  · rw [hdelay, hwake, hstale, hreleased]
    rfl

end Setup

/-! ## Runs -/

/-- Whether the last that happened is a step, and something holds of it and of
what was before it. -/
def Past.endsIn (P : CompletedStep M → Past M → Bool) : Past M → Bool
  | .step s :: before => P s before
  | _ => false

theorem Past.exists_of_endsIn (past : Past M) (P : CompletedStep M → Past M → Bool)
    (h : past.endsIn P = true) : ∃ s before, past = .step s :: before ∧ P s before = true := by
  unfold endsIn at h
  split at h
  · exact ⟨_, _, rfl, h⟩
  · cases h

namespace Setup

/-- **The process that recites its steps**, on a clock, with metrics that take
everything and keep nothing. -/
def reciting (clock : Nat → Binary64) : Setup (List Step) Unit where
  process :=
    ⟨fun _ steps => (steps.headD (.returned .null), steps.tail),
      fun steps => (.returned .null, steps)⟩
  metering := ⟨fun _ m => (.ok (), m), fun _ m => (.ok (), m), fun _ m => (.ok (), m)⟩
  clock := clock
  isPending := Script.isPending

/-- A run of the process that recites. -/
def recited (clock : Nat → Binary64) (steps : List Step)
    (actions : List DriverAction) : Past Unit :=
  ((reciting clock).watch .generator { process := steps, metrics := () } actions).past

/-- The clock that goes from zero to one at a reading. -/
theorem steady_zeroOne (k : Nat) : Steady (stepClock k 0 1) :=
  steady_stepClock k rfl (by decide +kernel) (by decide +kernel)

/-- Whether a value is the pending result of a name. -/
def isFuture (id : String) : Value → Bool
  | .future other => other == id
  | _ => false

/-- A task that waits for a result is resumed a second after that is
completed. -/
theorem delays_watch_oneSecond :
    let u := reciting (stepClock 9 0 1)
    let actions := [.ask (.send .null), .complete (isFuture "a"), .ask (.send .null)]
    Steady u.clock ∧ ∃ (s : CompletedStep Unit) (before : Past Unit) (rest : List Given),
      recited u.clock [.yielded (.future "a"), .returned (.int 1)] actions = .step s :: before
        ∧ before.released? u.isPending 0 = some 7
        ∧ s.given = .delay 1 :: rest := by
  intro u actions
  have hclock : Steady u.clock := steady_zeroOne 9
  obtain ⟨s, before, hpast, hends⟩ := (recited u.clock
      [.yielded (.future "a"), .returned (.int 1)] actions).exists_of_endsIn
    (fun s before => decide (before.released? u.isPending 0 = some 7
      ∧ before.stale? u.isPending 0 = none ∧ s.since u 7 = 1)) (by decide +kernel)
  obtain ⟨hreleased, hstale, hsince⟩ := of_decide_eq_true hends
  obtain ⟨d, rest, hgiven, -, hd, -⟩ := delays_watch u hclock .generator
    (b := { process := [.yielded (.future "a"), .returned (.int 1)], metrics := () }) rfl actions
    s before (hpast ▸ List.suffix_rfl)
  rw [hd hstale 7 hreleased, hsince] at hgiven
  exact ⟨hclock, s, before, rest, hpast, hreleased, hgiven⟩

/-- **Two delays that are not the time since the release.** A task that was
released a second ago has no delay, as a result that it no longer waited for is
completed meanwhile. And a task has a second of delay at the moment it was
suspended, as an exception is thrown in before it was released. -/
theorem delays_misled :
    let steps : List Step := [.yielded (.future "a"), .yielded .null, .returned (.int 1)]
    let early := stepClock 12 0 1
    let late := stepClock 2 0 1
    Steady early ∧ Steady late
      ∧ (∃ (s : CompletedStep Unit) (before : Past Unit), recited early steps [.ask (.send .null),
            .ask (.throw .broken), .complete (isFuture "a"), .ask (.send .null)] = .step s :: before
          ∧ before.released? Script.isPending 0 = some 11 ∧ s.since (reciting early) 11 = 1
          ∧ s.given.head? = some (.delay 0))
      ∧ ∃ (s : CompletedStep Unit) (before : Past Unit),
        recited late steps [.complete fun _ => false,
            .ask (.send .null), .ask (.throw .broken)] = .step s :: before
          ∧ before.released? Script.isPending 0 = none
          ∧ s.since (reciting late) (before.suspendedAt 0) = 0
          ∧ s.given.head? = some (.delay 1) := by
  intro steps early late
  refine ⟨steady_zeroOne 12, steady_zeroOne 2, ?_, ?_⟩
  · obtain ⟨s, before, hpast, hends⟩ := (recited early steps [.ask (.send .null),
        .ask (.throw .broken), .complete (isFuture "a"), .ask (.send .null)]).exists_of_endsIn
      (fun s before => decide (before.released? Script.isPending 0 = some 11
        ∧ s.since (reciting early) 11 = 1 ∧ s.given.head? = some (.delay 0))) (by decide +kernel)
    exact ⟨s, before, hpast, of_decide_eq_true hends⟩
  · obtain ⟨s, before, hpast, hends⟩ := (recited late steps [.complete fun _ => false,
        .ask (.send .null), .ask (.throw .broken)]).exists_of_endsIn
      (fun s before => decide (before.released? Script.isPending 0 = none
        ∧ s.since (reciting late) (before.suspendedAt 0) = 0
        ∧ s.given.head? = some (.delay 1))) (by decide +kernel)
    exact ⟨s, before, hpast, of_decide_eq_true hends⟩

end Setup

end QuicTelemetry
