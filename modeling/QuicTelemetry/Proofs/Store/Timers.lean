import QuicTelemetry.Handle
import QuicTelemetry.Proofs.Number.Exact
import QuicTelemetry.Proofs.Store.Observing
import QuicTelemetry.Proofs.Task.Transparency

/-!
# Timing blocks

A caller has stores, makes timers of the handles it was given, and enters and leaves their
blocks as it likes: blocks of several timers overlap, several timers belong to one handle, a
block is entered again before it is left or after, and is left by a fault or by none. A
timer knows its handle and when its block was entered last, and nothing of other timers
(`Timing.getElem?_step`). What a caller does to a session is what some actions would do
(`Timing.leads_step`), so a store stays one in which numbers can be observed.

**Whenever a block that was entered is left, the series of its timer takes one observation,
the time since it was entered last** (`Timing.leave_observes`). No other series is changed,
no timer is, and the block ends as it would have ended without a timer.
-/

namespace QuicTelemetry

/-- A number from zero on is not below zero. -/
theorem Amount.isNegative_real {x : Binary64} (h : (0 : Binary64).le x = true) :
    (Amount.real x).isNegative = false := by
  cases x with
  | finite s m hm =>
    rw [Binary64.le_eq_decide Binary64.units?_zero rfl, decide_eq_true_eq] at h
    refine decide_eq_false ?_
    rw [Int.zero_mul]
    exact Int.not_lt.mpr h
  | infinite s =>
    cases s with
    | false => rfl
    | true => exact absurd h (by decide)
  | nan => rfl

/-! ## Timers -/

namespace Timer

/-- **Leaves the block**, however it ended. To leave it gives nothing that would stop a
fault on its way, so it ends as it did, unless the time is not taken. -/
def leave (store : Store) (timer : Timer) (now : Binary64) (ending : Except Fault Unit) :
    Except Fault Unit × Store :=
  match timer.exit store now with
  | (.ok (), store) => (ending, store)
  | (.error fault, store) => (.error fault, store)

variable {store : Store} {timer : Timer} {id : SeriesId}

/-- A new timer is of its handle. -/
theorem handle_of_new {handle : Handle} (h : Timer.new store handle = .ok timer) :
    timer.handle = handle := by
  unfold Timer.new at h
  split at h <;> cases h
  rfl

/-- **To leave a block** does to the store what the operation of the timer does, or
nothing. -/
theorem leave_cases (store : Store) (hlive : timer.handle = .live id) (now : Binary64)
    (ending : Except Fault Unit) :
    (timer.leave store now ending).2 = store
      ∨ ∃ seconds, (timer.leave store now ending).2
        = (store.call id timer.verb [.real seconds]).2 := by
  unfold leave exit
  cases timer.elapsed now with
  | error fault => exact .inl rfl
  | ok seconds =>
    refine .inr ⟨seconds, ?_⟩
    dsimp only
    rw [hlive]
    show _ = ((Handle.live id).call store timer.verb [.real seconds]).2
    split <;> next heq => rw [heq]

/-- A block is left as it ended if the store takes its time. -/
theorem leave_of_taken (hlive : timer.handle = .live id) {now x : Binary64}
    (helapsed : timer.elapsed now = .ok x)
    (hok : (store.call id timer.verb [.real x]).1 = .ok ()) (ending : Except Fault Unit) :
    timer.leave store now ending = (ending, (store.call id timer.verb [.real x]).2) := by
  have hcall : timer.exit store now = (.ok (), (store.call id timer.verb [.real x]).2) := by
    unfold exit
    rw [helapsed]
    dsimp only
    rw [hlive, ← hok]
    rfl
  unfold leave
  rw [hcall]

/-- The time since an earlier reading of a steady clock is not cut off. -/
theorem elapsed_of_steady {clock : Nat → Binary64} (hclock : Steady clock) {i j : Nat} (hij : i ≤ j)
    (hstart : timer.start = some (clock i)) :
    timer.elapsed (clock j) = .ok ((clock j).sub (clock i))
      ∧ (Amount.real ((clock j).sub (clock i))).isNegative = false := by
  have hzero : (0 : Binary64).le ((clock j).sub (clock i)) = true :=
    Binary64.zero_le_sub (hclock.finite i) (hclock.finite j) (hclock.le i j hij)
  refine ⟨?_, Amount.isNegative_real hzero⟩
  unfold elapsed
  rw [hstart]
  exact congrArg Except.ok (Binary64.max_zero_of_zero_le hzero)

/-- A timer of a histogram observes. -/
theorem new_of_observable {s : Session} (h : s.Observable) {bounds : List Binary64}
    (hshape : s.store.shape? id.family = some (.histogram bounds)) :
    Timer.new s.store (.live id) = .ok ⟨.live id, .observe, some 0⟩ := by
  unfold Session.Observable at h
  unfold Timer.new Handle.timeVerb?
  dsimp only
  rw [hshape]
  cases hstore : s.store with
  | exposition e =>
    rw [hstore] at h
    exact h.elim
  | memory | recorder | pipeline => rfl

end Timer

/-! ## Actions -/

/-- **An action of a caller that times blocks.** Stores and timers are numbered, and so are the
handles that each store gave out. -/
inductive TimerAction where
  /-- An action with a store: a family is registered, a series resolved or a handle operated
  on. -/
  | action (store : Nat) (action : SessionAction)
  /-- A timer is made of a handle of a store. -/
  | time (store handle : Nat)
  /-- The block of a timer is entered. -/
  | enter (timer : Nat)
  /-- The block of a timer is left, after it ended somehow. -/
  | leave (timer : Nat) (ending : Except Fault Unit)

/-- An action that observes no whole number. -/
def TimerAction.ObservesReals : TimerAction → Prop
  | .action _ a => a.ObservesReals
  | _ => True

/-- **Sessions and the timers that were made of their handles.** -/
structure Timing where
  /-- The sessions, one for each store. -/
  sessions : Nat → Session
  /-- The timers, oldest first, with the numbers of their stores. -/
  timers : List (Nat × Timer) := []

namespace Timing

/-- One session is replaced. -/
def put (s : Timing) (i : Nat) (session : Session) : Timing :=
  { s with sessions := Function.update s.sessions i session }

@[simp] theorem sessions_put (s : Timing) (i : Nat) (session : Session) (j : Nat) :
    (s.put i session).sessions j = if j = i then session else s.sessions j :=
  Function.update_apply ..

/-- **One action**, at some time. What was not made stands for nothing. -/
def step (s : Timing) (now : Binary64) : TimerAction → Except Fault Unit × Timing
  | .action i action =>
    (((s.sessions i).step action).1.map fun _ => (), s.put i ((s.sessions i).step action).2)
  | .time i handle =>
    match (s.sessions i).handles[handle]? with
    | none => (.error .missingKey, s)
    | some id =>
      match Timer.new (s.sessions i).store (.live id) with
      | .error fault => (.error fault, s)
      | .ok timer => (.ok (), { s with timers := s.timers ++ [(i, timer)] })
  | .enter t =>
    match s.timers[t]? with
    | none => (.error .missingKey, s)
    | some (i, timer) => (.ok (), { s with timers := s.timers.set t (i, timer.enter now) })
  | .leave t ending =>
    match s.timers[t]? with
    | none => (.error .missingKey, s)
    | some (i, timer) =>
      let left := timer.leave (s.sessions i).store now ending
      (left.1, s.put i { s.sessions i with store := left.2 })

/-- **Some actions**, by the readings of a clock from one on. -/
def after (clock : Nat → Binary64) (s : Timing) : Nat → List TimerAction → Timing
  | _, [] => s
  | reading, action :: actions =>
    after clock (s.step (clock reading) action).2 (reading + 1) actions

/-- **A whole program** over stores, with a reading of the clock for each action. -/
def run (stores : Nat → Store) (clock : Nat → Binary64) (actions : List TimerAction) : Timing :=
  after clock ⟨fun i => ⟨stores i, []⟩, []⟩ 0 actions

theorem after_append (clock : Nat → Binary64) (s : Timing) (reading : Nat)
    (actions actions' : List TimerAction) :
    after clock s reading (actions ++ actions')
      = after clock (after clock s reading actions) (reading + actions.length) actions' := by
  induction actions generalizing s reading with
  | nil => rfl
  | cons action actions ih =>
    have hlength : reading + (actions.length + 1) = reading + 1 + actions.length := by omega
    show after clock (s.step (clock reading) action).2 (reading + 1) (actions ++ actions') = _
    rw [ih, List.length_cons, hlength]
    rfl

theorem run_append_cons (stores : Nat → Store) (clock : Nat → Binary64) (actions : List TimerAction)
    (action : TimerAction) (actions' : List TimerAction) :
    run stores clock (actions ++ action :: actions')
      = after clock ((run stores clock actions).step (clock actions.length) action).2
        (actions.length + 1)
        actions' := by
  unfold run
  rw [after_append, Nat.zero_add]
  rfl

/-! ## Timers know nothing of each other -/

variable {s : Timing} {t i : Nat} {timer : Timer}

/-- **An action leaves every timer** but the one whose block it enters. -/
theorem getElem?_step (h : s.timers[t]? = some (i, timer)) (now : Binary64) {action : TimerAction}
    (haction : action ≠ .enter t) : (s.step now action).2.timers[t]? = some (i, timer) := by
  cases action with
  | action j action => exact h
  | time j handle =>
    unfold step
    dsimp only
    split
    · exact h
    · split
      · exact h
      · exact List.getElem?_append_left (List.getElem?_eq_some_iff.mp h).1 ▸ h
  | enter other =>
    have hother : other ≠ t := fun heq => haction (heq ▸ rfl)
    unfold step
    dsimp only
    split
    · exact h
    · rw [List.getElem?_set_ne hother]
      exact h
  | leave other ending =>
    unfold step
    dsimp only
    split <;> exact h

theorem getElem?_after (clock : Nat → Binary64) (reading : Nat) {actions : List TimerAction}
    (h : s.timers[t]? = some (i, timer)) (hactions : .enter t ∉ actions) :
    (after clock s reading actions).timers[t]? = some (i, timer) := by
  induction actions generalizing s reading with
  | nil => exact h
  | cons action actions ih =>
    rw [List.mem_cons, not_or] at hactions
    exact ih _ (getElem?_step h _ (Ne.symm hactions.1)) hactions.2

/-- To enter a block changes no more of its timer than the start. -/
theorem getElem?_enter (h : s.timers[t]? = some (i, timer)) (now : Binary64) :
    (s.step now (.enter t)).2.timers[t]? = some (i, timer.enter now) := by
  unfold step
  dsimp only
  rw [h]
  exact List.getElem?_set_self (List.getElem?_eq_some_iff.mp h).1

/-- **A timer keeps its handle and its operation** in the course of any actions. -/
theorem exists_start_after (clock : Nat → Binary64) (reading : Nat) {actions : List TimerAction}
    (h : s.timers[t]? = some (i, timer)) :
    ∃ start, (after clock s reading actions).timers[t]? = some (i, { timer with start }) := by
  induction actions generalizing s reading timer with
  | nil => exact ⟨timer.start, h⟩
  | cons action actions ih =>
    by_cases haction : action = .enter t
    · subst haction
      obtain ⟨start, hstart⟩ := ih _ (getElem?_enter h (clock reading))
      exact ⟨start, hstart⟩
    · exact ih _ (getElem?_step h _ haction)

/-- **A timer is made** of the handle of a histogram. -/
theorem getElem?_time (hobservable : (s.sessions i).Observable) {handle : Nat} {id : SeriesId}
    (hid : (s.sessions i).handles[handle]? = some id) {bounds : List Binary64}
    (hshape : (s.sessions i).store.shape? id.family = some (.histogram bounds)) (now : Binary64) :
    (s.step now (.time i handle)).2.timers[s.timers.length]?
      = some (i, ⟨.live id, .observe, some 0⟩) := by
  unfold step
  dsimp only
  rw [hid]
  dsimp only
  rw [Timer.new_of_observable hobservable hshape]
  exact List.getElem?_concat_length

/-! ## What actions do to a session -/

/-- **A caller whose timers are of handles** that were given out. -/
def IsBound (s : Timing) : Prop :=
  ∀ i timer, (i, timer) ∈ s.timers → ∃ id ∈ (s.sessions i).handles, timer.handle = .live id

/-- **A session that some actions lead to**, none of which observes a whole number. -/
def Leads (session session' : Session) : Prop :=
  ∃ actions, session' = session.after actions ∧ ∀ action ∈ actions, action.ObservesReals

theorem Leads.refl (session : Session) : Leads session session :=
  ⟨[], rfl, fun _ haction => absurd haction List.not_mem_nil⟩

theorem Leads.trans {session session' session'' : Session} (h : Leads session session')
    (h' : Leads session' session'') : Leads session session'' := by
  obtain ⟨actions, rfl, hactions⟩ := h
  obtain ⟨actions', rfl, hactions'⟩ := h'
  refine ⟨actions ++ actions', ?_, List.forall_mem_append.mpr ⟨hactions, hactions'⟩⟩
  unfold Session.after
  rw [List.foldl_append]

theorem Leads.step (session : Session) {action : SessionAction} (haction : action.ObservesReals) :
    Leads session (session.step action).2 :=
  ⟨[action], rfl, List.forall_mem_singleton.mpr haction⟩

theorem Leads.continues {session session' : Session} (h : Leads session session') :
    session.Continues session' := by
  obtain ⟨actions, rfl, -⟩ := h
  exact session.continues_after actions

/-- **To leave a block** is to operate on the handle of its timer, if it is anything. -/
theorem Leads.leave {session : Session} {timer : Timer} {id : SeriesId} (hid : id ∈ session.handles)
    (hlive : timer.handle = .live id) (now : Binary64) (ending : Except Fault Unit) :
    Leads session { session with store := (timer.leave session.store now ending).2 } := by
  rcases Timer.leave_cases session.store hlive now ending with hsame | ⟨seconds, hcall⟩
  · rw [hsame]
    exact .refl _
  · obtain ⟨k, hk⟩ := List.mem_iff_getElem?.mp hid
    have hstep : (session.step (.operate k timer.verb (some (.real seconds)))).2
        = { session with store := (timer.leave session.store now ending).2 } := by
      rw [hcall]
      unfold Session.step
      dsimp only
      rw [hk]
      rfl
    rw [← hstep]
    exact .step _ (SessionAction.observesReals_real ..)

theorem leads_put {j : Nat} {session : Session} (h : Leads (s.sessions j) session) (i : Nat) :
    Leads (s.sessions i) ((s.put j session).sessions i) := by
  rw [sessions_put]
  split
  · next hi => exact hi ▸ h
  · exact .refl _

/-- **An action leads every session on.** Timers observe no whole number. -/
theorem leads_step (h : s.IsBound) (now : Binary64) {action : TimerAction}
    (haction : action.ObservesReals)
    (i : Nat) : Leads (s.sessions i) ((s.step now action).2.sessions i) := by
  cases action with
  | action j action => exact leads_put (.step _ haction) i
  | time j handle =>
    unfold step
    dsimp only
    split
    · exact .refl _
    · split <;> exact .refl _
  | enter t =>
    unfold step
    dsimp only
    split <;> exact .refl _
  | leave t ending =>
    unfold step
    dsimp only
    split
    · exact .refl _
    · next j timer htimer =>
      obtain ⟨id, hid, hlive⟩ := h j timer (List.mem_of_getElem? htimer)
      exact leads_put (.leave hid hlive now ending) i

/-- A timer after an action was there before, with its handle, or is a new one of a handle
that was given out. -/
theorem exists_handle_step (h : s.IsBound) (now : Binary64) (action : TimerAction)
    (htimer : (i, timer) ∈ (s.step now action).2.timers) :
    ∃ id ∈ (s.sessions i).handles, timer.handle = .live id := by
  cases action with
  | action j action => exact h i timer htimer
  | time j handle =>
    unfold step at htimer
    dsimp only at htimer
    split at htimer
    · exact h i timer htimer
    · next id hid =>
      split at htimer
      · exact h i timer htimer
      · next made hmade =>
        rcases List.mem_append.mp htimer with hold | hnew
        · exact h i timer hold
        · obtain ⟨rfl, rfl⟩ := Prod.mk.inj (List.mem_singleton.mp hnew)
          exact ⟨id, List.mem_of_getElem? hid, Timer.handle_of_new hmade⟩
  | enter t =>
    unfold step at htimer
    dsimp only at htimer
    split at htimer
    · exact h i timer htimer
    · next j entered hentered =>
      rcases List.mem_or_eq_of_mem_set htimer with hold | hnew
      · exact h i timer hold
      · obtain ⟨rfl, rfl⟩ := Prod.mk.inj hnew
        exact h i entered (List.mem_of_getElem? hentered)
  | leave t ending =>
    unfold step at htimer
    dsimp only at htimer
    split at htimer <;> exact h i timer htimer

theorem isBound_step (h : s.IsBound) (now : Binary64) {action : TimerAction}
    (haction : action.ObservesReals) : (s.step now action).2.IsBound := by
  intro i timer htimer
  obtain ⟨id, hid, hlive⟩ := exists_handle_step h now action htimer
  exact ⟨id, (leads_step h now haction i).continues.handles.subset hid, hlive⟩

theorem isBound_after (clock : Nat → Binary64) (reading : Nat) {actions : List TimerAction}
    (h : s.IsBound) (hactions : ∀ action ∈ actions, action.ObservesReals) :
    (after clock s reading actions).IsBound := by
  induction actions generalizing s reading with
  | nil => exact h
  | cons action actions ih =>
    rw [List.forall_mem_cons] at hactions
    exact ih _ (isBound_step h _ hactions.1) hactions.2

/-- **Any actions lead every session on.** -/
theorem leads_after (clock : Nat → Binary64) (reading : Nat) {actions : List TimerAction}
    (h : s.IsBound) (hactions : ∀ action ∈ actions, action.ObservesReals) (i : Nat) :
    Leads (s.sessions i) ((after clock s reading actions).sessions i) := by
  induction actions generalizing s reading with
  | nil => exact .refl _
  | cons action actions ih =>
    rw [List.forall_mem_cons] at hactions
    exact (leads_step h _ hactions.1 i).trans (ih _ (isBound_step h _ hactions.1) hactions.2)

/-! ## Programs -/

variable {stores : Nat → Store} {clock : Nat → Binary64}

/-- At first there is no timer. -/
theorem isBound_start (stores : Nat → Store) : IsBound ⟨fun i => ⟨stores i, []⟩, []⟩ :=
  fun _ _ htimer => absurd htimer List.not_mem_nil

theorem isBound_run {actions : List TimerAction}
    (hactions : ∀ action ∈ actions, action.ObservesReals) :
    (run stores clock actions).IsBound :=
  isBound_after clock 0 (isBound_start stores) hactions

/-- **A session goes on** with a program that goes on. -/
theorem continues_run {actions actions' : List TimerAction}
    (hactions : ∀ action ∈ actions ++ actions', action.ObservesReals) (i : Nat) :
    ((run stores clock actions).sessions i).Continues
      ((run stores clock (actions ++ actions')).sessions i) := by
  rw [List.forall_mem_append] at hactions
  unfold run
  rw [after_append]
  exact (leads_after clock _ (isBound_run hactions.1) hactions.2 i).continues

/-- **In every program** numbers can be observed in what was a new store. -/
theorem observable_run (hnew : (stores i).IsNew) {actions : List TimerAction}
    (hactions : ∀ action ∈ actions, action.ObservesReals) :
    ((run stores clock actions).sessions i).Observable := by
  obtain ⟨actions, hsession, hactions⟩ := leads_after clock 0 (isBound_start stores) hactions i
  unfold run
  rw [hsession]
  exact (Session.observable_of_isNew hnew).after hactions

variable {first before amid : List TimerAction} {handle : Nat} {id : SeriesId}
  {bounds : List Binary64}

/-- **The timer of a handle after its block was entered**, whatever else was done before,
between and since. -/
theorem getElem?_run (hnew : (stores i).IsNew) (hreal : ∀ action ∈ first, action.ObservesReals)
    (hid : ((run stores clock first).sessions i).handles[handle]? = some id)
    (hshape : ((run stores clock first).sessions i).store.shape? id.family
      = some (.histogram bounds))
    (ht : (run stores clock first).timers.length = t) (hlatest : .enter t ∉ amid) :
    (run stores clock ((first ++ .time i handle :: before) ++ .enter t :: amid)).timers[t]?
      = some (i, ⟨.live id, .observe, some (clock (first ++ .time i handle :: before).length)⟩) := by
  have htime := getElem?_time (observable_run hnew hreal) hid hshape (clock first.length)
  rw [ht] at htime
  obtain ⟨start, hstart⟩ : ∃ start, (run stores clock (first ++ .time i handle :: before)).timers[t]?
      = some (i, ⟨.live id, .observe, start⟩) := by
    rw [run_append_cons]
    exact exists_start_after clock _ htime
  rw [run_append_cons]
  exact getElem?_after clock _ (getElem?_enter hstart _) hlatest

/-- **Leaving a block observes its time.** A program is any actions of a caller over new
stores, in memory, over meters that write down or over pipelines with any views, with a
clock that never steps back. At some point a timer is made of the handle of a histogram; its
block is entered, once or more often, and left after that. Whatever else the caller did,
before, between and since,

* the block ends as it ended: with its fault, or without one;
* the series of the timer's handle has one observation more, the time of the clock now less
  the time when the block was entered last, and no other series is changed, of this store or
  of another one;
* all timers stay as they are, this one too.

Only whole numbers may not be observed otherwise. -/
theorem leave_observes (hnew : (stores i).IsNew) (hclock : Steady clock)
    (hreal : ∀ action ∈ (first ++ .time i handle :: before) ++ .enter t :: amid,
      action.ObservesReals)
    (hid : ((run stores clock first).sessions i).handles[handle]? = some id)
    (hshape : ((run stores clock first).sessions i).store.shape? id.family
      = some (.histogram bounds))
    (ht : (run stores clock first).timers.length = t) (hlatest : .enter t ∉ amid)
    (ending : Except Fault Unit) :
    let entered := first ++ .time i handle :: before
    let actions := entered ++ .enter t :: amid
    let s := run stores clock actions
    let left := s.step (clock actions.length) (.leave t ending)
    left.1 = ending
    ∧ (∃ key, (s.sessions i).store.key? id = some key
      ∧ (s.sessions i).store.Observes key ((clock actions.length).sub (clock entered.length))
        (left.2.sessions i).store)
    ∧ (∀ j, j ≠ i → left.2.sessions j = s.sessions j)
    ∧ left.2.timers = s.timers := by
  intro entered actions s left
  let timer : Timer := ⟨.live id, .observe, some (clock entered.length)⟩
  have htimer : s.timers[t]? = some (i, timer) :=
    getElem?_run hnew (fun action haction => hreal action (by simp [haction])) hid hshape ht hlatest
  have hle : entered.length ≤ actions.length := by simp [actions]
  obtain ⟨helapsed, hpositive⟩ := timer.elapsed_of_steady hclock hle rfl
  -- the handle was given out, and still is of a histogram
  have hcontinues : ((run stores clock first).sessions i).Continues (s.sessions i) := by
    have hsplit : actions = first ++ (.time i handle :: before ++ .enter t :: amid) :=
      List.append_assoc ..
    have hall : ∀ action ∈ actions, action.ObservesReals := hreal
    show ((run stores clock first).sessions i).Continues ((run stores clock actions).sessions i)
    rw [hsplit] at hall ⊢
    exact continues_run hall i
  obtain ⟨key, hkey, hok, hobserves⟩ := (observable_run hnew hreal).call
    (hcontinues.handles.subset (List.mem_of_getElem? hid)) (hcontinues.shapes _ _ hshape) hpositive
  have hleft : left = (ending, s.put i { s.sessions i with
      store := ((s.sessions i).store.call id .observe
        [.real ((clock actions.length).sub (clock entered.length))]).2 }) := by
    show s.step _ _ = _
    unfold step
    dsimp only
    rw [htimer]
    dsimp only
    rw [timer.leave_of_taken rfl helapsed hok]
  rw [hleft]
  refine ⟨rfl, ⟨key, hkey, ?_⟩, fun j hj => (sessions_put ..).trans (if_neg hj), rfl⟩
  rw [sessions_put, if_pos rfl]
  exact hobserves

/-- A block over a pipeline that is entered twice, overlaps one over a memory store, and is
left by a fault a second after it was entered for the second time. -/
theorem leave_observes_oneSecond :
    let stores (i : Nat) : Store :=
      if i = 0 then .ofMemory else .pipeline { meter := { service := .null, views := [] } }
    let clock := Setup.stepClock 9 0 1
    let register := SessionAction.register "latency" "Seconds." (.histogram [1, 2]) []
    let resolve := SessionAction.resolve "latency" []
    let first := [.action 0 register, .action 0 resolve, .action 1 register, .action 1 resolve,
      .time 0 0]
    let fault := Fault.stated "ValueError" []
    let entered := first ++ .time 1 0 :: [.enter 1, .enter 0]
    let actions := entered ++ .enter 1 :: [.leave 0 (.error fault)]
    let s := run stores clock actions
    let left := s.step (clock actions.length) (.leave 1 (.error fault))
    left.1 = .error fault
      ∧ (∃ key, (s.sessions 1).store.key? ⟨"latency", []⟩ = some key
        ∧ (s.sessions 1).store.Observes key 1 (left.2.sessions 1).store)
      ∧ left.2.sessions 0 = s.sessions 0 := by
  intro stores clock register resolve first fault entered actions
  have hnew : (stores 1).IsNew := .pipeline .null []
  have hclock : Steady clock := Setup.steady_stepClock 9 rfl (by decide +kernel) (by decide +kernel)
  have hid : ((run stores clock first).sessions 1).handles[0]? = some ⟨"latency", []⟩ := by
    decide +kernel
  have hshape : ((run stores clock first).sessions 1).store.shape? "latency"
      = some (.histogram [1, 2]) := by
    decide +kernel
  have hreal : ∀ action ∈ actions, action.ObservesReals := by
    simp [actions, entered, first, register, resolve, TimerAction.ObservesReals,
      SessionAction.ObservesReals]
  have hmade : (run stores clock first).timers.length = 1 := by decide +kernel
  have hlatest : .enter 1 ∉ [TimerAction.leave 0 (.error fault)] := by simp
  have hsecond : (clock actions.length).sub (clock entered.length) = 1 := by decide +kernel
  have hleave := leave_observes hnew hclock hreal hid hshape hmade hlatest (.error fault)
  rw [← hsecond]
  dsimp only [actions, entered] at hleave ⊢
  exact ⟨hleave.1, hleave.2.1, hleave.2.2.1 0 (by decide)⟩

end Timing
end QuicTelemetry
