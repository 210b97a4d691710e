import QuicTelemetry.Proofs.Facade.Replay
import QuicTelemetry.Proofs.Lists
import QuicTelemetry.Proofs.Task.TaskPool
import QuicTelemetry.Proofs.Task.Transparency

/-!
# The metrics of a pool add up

A step is measured in three places, and only together do they account for it: its
delay is taken before the process is resumed, its duration and its microseconds
after it has answered. In between anything may happen, steps of tasks of the same
name included. So what holds throughout is said with the steps that are running
(`TaskPool.Accounts`): the chronicle of the store has *one delay for each step that
is over and one for each that is running*, and the duration and the microseconds
of each that is over. A step that starts moves its delay in
(`TaskPool.Accounts.start`), and one that is over leaves the running ones with its
record (`TaskPool.Accounts.record`). Whatever a request comes to, it does nothing
else, so the induction on the scenario has nothing to say about answers, failures
and closings (`TaskPool.Accounts.request`).

Once no step is running, the metrics are the polls (`TaskPool.metrics_add_up`).
-/

namespace QuicTelemetry

/-! ## Measurements of a series -/

namespace Measurement

/-- Measurements have series of their own. -/
theorem series_inj {space : Option String} {k k' : Measurement} {name name' : String} :
    k.series space name = k'.series space name' ↔ k = k' ∧ name = name' := by
  constructor
  · intro h
    obtain ⟨hfamily, hvalues⟩ := SeriesId.mk.inj h
    refine ⟨?_, (List.cons.inj hvalues).1⟩
    have hnames : k.metric.name = k'.metric.name := qualify_inj hfamily
    cases k <;> cases k' <;> first | rfl | exact absurd hnames (by decide)
  · rintro ⟨rfl, rfl⟩
    rfl

end Measurement

/-- The chronicle in which a step was recorded: its duration is observed, then
its microseconds are added if they can be counted. -/
def Chronicle.record (clock : Nat → Binary64) (space : Option String) (p : Poll) (us : Chronicle) :
    Chronicle :=
  let us := us.add (Measurement.duration.series space p.name) (.observed (p.duration clock))
  match p.micros? clock with
  | some n => us.add (Measurement.micros.series space p.name) (.increased n)
  | none => us

/-- What a series has seen once a step was recorded. -/
theorem Chronicle.seen_record (clock : Nat → Binary64) (space : Option String) (p : Poll)
    (us : Chronicle) (k : Measurement) (name : String) :
    (us.record clock space p).seen (k.series space name)
      = us.seen (k.series space name) ++ if p.name = name then match k with
          | .delay => []
          | .duration => [.observed (p.duration clock)]
          | .micros => ((p.micros? clock).map Mutation.increased).toList
        else [] := by
  unfold record
  by_cases hname : p.name = name
  · subst hname
    cases p.micros? clock <;> cases k <;> simp [seen_add, Measurement.series_inj]
  · cases p.micros? clock <;> simp [seen_add, Measurement.series_inj, hname, Ne.symm hname]

/-- A series that was asked for stays so. -/
theorem Chronicle.isSome_record (clock : Nat → Binary64) (space : Option String) (p : Poll)
    (us : Chronicle) {id : SeriesId} (h : (us id).isSome = true) :
    (us.record clock space p id).isSome = true := by
  unfold record
  cases p.micros? clock with
  | some n => exact Chronicle.isSome_add _ _ _ (us.isSome_add _ _ h)
  | none => exact us.isSome_add _ _ h

/-- **A chronicle that balances**: for the tasks of each name there is one delay
for each step that is over and for each that is running, and for each step that
is over its duration and its microseconds. -/
structure Chronicle.Balances (clock : Nat → Binary64) (space : Option String)
    (running : List (String × Nat)) (polls : List Poll) (us : Chronicle) : Prop where
  /-- The delays. -/
  delays : ∀ name, ∃ xs : List Binary64,
    us.seen (Measurement.delay.series space name) = xs.map .observed
      ∧ xs.length = (Poll.named name polls).length + running.countP (·.1 = name)
  /-- The durations. -/
  durations : ∀ name, us.seen (Measurement.duration.series space name)
    = ((Poll.named name polls).map (Poll.duration clock)).map .observed
  /-- The microseconds. -/
  micros : ∀ name, us.seen (Measurement.micros.series space name)
    = ((Poll.named name polls).filterMap (Poll.micros? clock)).map .increased

namespace Chronicle.Balances

variable {clock : Nat → Binary64} {space : Option String} {running : List (String × Nat)}
  {polls : List Poll} {us : Chronicle}

/-- Asking for a series moves no balance. -/
theorem ask (h : us.Balances clock space running polls) (id : SeriesId) :
    (us.ask id).Balances clock space running polls := by
  refine ⟨fun name => ?_, fun name => ?_, fun name => ?_⟩
  · rw [seen_ask]
    exact h.delays name
  · rw [seen_ask]
    exact h.durations name
  · rw [seen_ask]
    exact h.micros name

/-- **A step that starts** has its delay. -/
theorem start (h : us.Balances clock space running polls) (name : String) (started : Nat)
    (x : Binary64) :
    (us.add (Measurement.delay.series space name) (.observed x)).Balances clock space
      ((name, started) :: running) polls := by
  refine ⟨fun name' => ?_, fun name' => ?_, fun name' => ?_⟩
  · obtain ⟨xs, hxs, hlength⟩ := h.delays name'
    rw [seen_add]
    by_cases hname : name' = name
    · subst hname
      refine ⟨xs ++ [x], by rw [if_pos rfl, hxs, List.map_append, List.map_singleton], ?_⟩
      rw [List.length_append, hlength, List.countP_cons_of_pos (by simp)]
      rfl
    · refine ⟨xs, by rw [if_neg (by simp [Measurement.series_inj, hname]), hxs], ?_⟩
      rw [hlength, List.countP_cons_of_neg (by simp [Ne.symm hname])]
  · rw [seen_add, if_neg (by simp [Measurement.series_inj])]
    exact h.durations name'
  · rw [seen_add, if_neg (by simp [Measurement.series_inj])]
    exact h.micros name'

/-- **A step that is over** has its duration and its microseconds. -/
theorem finish {p : Poll} (h : us.Balances clock space ((p.name, p.started) :: running) polls) :
    (us.record clock space p).Balances clock space running (polls ++ [p]) := by
  refine ⟨fun name => ?_, fun name => ?_, fun name => ?_⟩
  · obtain ⟨xs, hxs, hlength⟩ := h.delays name
    refine ⟨xs, by rw [seen_record, hxs]; simp, ?_⟩
    rw [hlength, Poll.named_append, List.countP_cons]
    by_cases hname : p.name = name
    · simp [hname]
      omega
    · simp [hname]
  · rw [seen_record, h.durations name, Poll.named_append]
    by_cases hname : p.name = name <;> simp [hname]
  · rw [seen_record, h.micros name, Poll.named_append]
    by_cases hname : p.name = name
    · cases hmicros : p.micros? clock <;> simp [hname, hmicros]
    · simp [hname]

end Chronicle.Balances

/-- The bounds of the delays and of the durations are in order. -/
theorem Measurement.ascending_bounds (k : Measurement) (h : k.metric.kind.isHistogram = true) :
    Ascending (k.metric.bounds.getD []) :=
  Catalogue.ascending_bounds k.metric_mem_all h

/-- **The series of a measurement is operated on**: it sees what it is given, and
the outcome is what its cell says. -/
theorem Memory.Replays.call_series {m : Memory} {us : Chronicle} (hreplays : m.Replays us)
    {flags : Flags} {space : Option String} (hserves : m.Serves flags space) (k : Measurement)
    {name : String} (hasked : (us (k.series space name)).isSome = true) (v : Value) :
    (m.call (k.series space name) k.verb [v]).1
        = (Memory.change (Facade.shapeOf k.metric)
            (Memory.changed (Facade.shapeOf k.metric) (us.seen (k.series space name))) k.verb v).1
      ∧ (m.call (k.series space name) k.verb [v]).2.Serves flags space
      ∧ (m.call (k.series space name) k.verb [v]).2.Replays
          (us.add (k.series space name) ⟨k.verb, v⟩) := by
  obtain ⟨f, hf, hshape, -⟩ := hserves.families k.metric (k.metric_mem_permitted _)
  have hfamily : m.families.get? (k.series space name).family = some f := hf
  have hargument : Memory.argumentOf f.shape k.verb [v] = .ok v := by
    rw [hshape]
    cases k <;> rfl
  have hcall := hreplays.call hfamily hasked hargument
  rw [hshape] at hcall
  exact ⟨hcall.1, hserves.alter (m.alters_call _ k.verb [v]), hcall.2⟩

/-! ## Pools of tasks -/

/-- **A pool whose store is told by a chronicle.** -/
structure TaskPool.Keeps (flags : Flags) (space : Option String) (us : Chronicle) (w : TaskPool) :
    Prop where
  /-- The flags of the facade. -/
  flags_eq : w.facade.flags = flags
  /-- The namespace of the facade. -/
  space_eq : w.facade.space = space
  /-- The store. -/
  store : ∃ m, w.store = .memory m ∧ m.Serves flags space ∧ m.Replays us

/-- **A worker with the handles of its name.** -/
def Worker.Holds (space : Option String) (worker : Worker) : Prop :=
  ∀ k, worker.handle k = .live (k.series space worker.name)

namespace TaskPool.Keeps

variable {flags : Flags} {space : Option String} {us : Chronicle} {w w' : TaskPool}

theorem congr (h : w.Keeps flags space us) (hfacade : w'.facade = w.facade)
    (hstore : w'.store = w.store) : w'.Keeps flags space us :=
  ⟨hfacade ▸ h.flags_eq, hfacade ▸ h.space_eq, hstore ▸ h.store⟩

/-- **A handle is there for the asking**, if the name can be written. -/
theorem resolve (h : w.Keeps flags space us) (k : Measurement) {name : Value}
    (hmisfit : Facade.misfit? (k.event name).sources = none) :
    (w.resolve k name).1 = .ok (.live (k.series space name.toText))
      ∧ (w.resolve k name).2.Keeps flags space (us.ask (k.series space name.toText)) := by
  obtain ⟨rfl, rfl, m, hm, hserves, hreplays⟩ := h
  have hmetric := k.metric_mem_permitted w.facade.flags
  have hlength : [name.toText].length = k.metric.labels.length := by
    rw [k.labels_metric]
    rfl
  obtain ⟨m', hresolve, halters⟩ := hserves.resolve hmetric hlength
  have hlabelling : Facade.labelling (k.event name).sources
      = .ok (.of k.metric.labels [name.toText]) := by
    rw [k.sources_event, k.labels_metric]
    rfl
  have hreport : w.facade.report w.store w.logging "" (k.event name)
      = (.ok ⟨.live (k.series w.facade.space name.toText), []⟩, w.facade, .memory m') := by
    have hcovers : w.facade.covers (k.event name) = true := by
      rw [Facade.covers, k.metric_event]
      exact (List.mem_filter.mp hmetric).2
    unfold Facade.report
    rw [hmisfit, hcovers, hlabelling, k.metric_event, hm]
    dsimp only
    rw [hresolve]
    rfl
  unfold TaskPool.resolve
  rw [hreport]
  exact ⟨rfl, rfl, rfl, m', rfl, hserves.alter halters,
    hreplays.ensured (k.series w.facade.space name.toText) halters⟩

/-- **A measurement that is taken** is seen by its series, and its outcome is what
the cell says. -/
theorem take (h : w.Keeps flags space us) {worker : Worker} (hholds : worker.Holds space)
    (k : Measurement) (hasked : (us (k.series space worker.name)).isSome = true) (v : Value) :
    (take worker k v w).1
        = (Memory.change (Facade.shapeOf k.metric)
            (Memory.changed (Facade.shapeOf k.metric) (us.seen (k.series space worker.name)))
            k.verb v).1
      ∧ (take worker k v w).2.Keeps flags space
          (us.add (k.series space worker.name) ⟨k.verb, v⟩) := by
  obtain ⟨rfl, rfl, m, hm, hserves, hreplays⟩ := h
  obtain ⟨houtcome, hserves, hreplays⟩ := hreplays.call_series hserves k hasked v
  unfold TaskPool.take
  rw [hholds k, hm]
  exact ⟨houtcome, rfl, rfl, _, rfl, hserves, hreplays⟩

end TaskPool.Keeps

/-- **A pool whose metrics add up**, while some steps are running: each is
given with the name of its task and the reading at which it was asked for. -/
structure TaskPool.Accounts (clock : Nat → Binary64) (flags : Flags) (space : Option String)
    (running : List (String × Nat)) (us : Chronicle) (w : TaskPool) : Prop where
  /-- The store is told by the chronicle. -/
  keeps : w.Keeps flags space us
  /-- The chronicle balances. -/
  balances : us.Balances clock space running w.polls
  /-- The workers have the handles of their names. -/
  holds : ∀ worker ∈ w.workers, worker.Holds space
  /-- Their series were asked for. -/
  known : ∀ name, (∃ worker ∈ w.workers, worker.name = name) ∨ name ∈ running.map Prod.fst →
    ∀ k, (us (Measurement.series space k name)).isSome = true
  /-- The running steps were asked for before. -/
  begun : ∀ step ∈ running, step.2 ≤ w.reading
  /-- Steps end after they were asked for. -/
  ended : ∀ p ∈ w.polls, p.started ≤ p.ended

namespace TaskPool.Accounts

variable {clock : Nat → Binary64} {flags : Flags} {space : Option String}
  {running : List (String × Nat)} {us : Chronicle} {w : TaskPool}

/-- Time passes. -/
theorem pass (h : w.Accounts clock flags space running us) :
    w.pass.Accounts clock flags space running us :=
  ⟨h.keeps.congr rfl rfl, h.balances, h.holds, h.known,
    fun step hstep => Nat.le_succ_of_le (h.begun step hstep), h.ended⟩

/-- A task changes in anything but its name and its handles. -/
theorem change (h : w.Accounts clock flags space running us) (i : Nat) {f : Worker → Worker}
    (hf : ∀ worker, (f worker).name = worker.name ∧ (f worker).handle = worker.handle) :
    (w.change i f).Accounts clock flags space running us := by
  refine ⟨h.keeps.congr rfl rfl, h.balances, fun worker hworker => ?_, fun name hname => ?_,
    h.begun, h.ended⟩
  · obtain ⟨before, hbefore, rfl | rfl⟩ := exists_of_mem_modify hworker
    · exact h.holds _ hbefore
    · intro k
      rw [(hf before).1, (hf before).2]
      exact h.holds _ hbefore k
  · refine h.known name (hname.imp_left ?_)
    rintro ⟨worker, hworker, rfl⟩
    obtain ⟨before, hbefore, rfl | rfl⟩ := exists_of_mem_modify hworker
    · exact ⟨_, hbefore, rfl⟩
    · exact ⟨before, hbefore, (hf before).1.symm⟩

/-- A task is woken up. -/
theorem wake (h : w.Accounts clock flags space running us) (i : Nat) :
    (w.wake clock i).Accounts clock flags space running us := by
  refine pass (h.change i fun worker => ?_)
  exact ⟨rfl, rfl⟩

/-- A handle is asked for. -/
theorem resolve (h : w.Accounts clock flags space running us) (k : Measurement) {name : Value}
    (hmisfit : Facade.misfit? (k.event name).sources = none) :
    ∃ w', w.resolve k name = (.ok (.live (k.series space name.toText)), w')
      ∧ w'.Accounts clock flags space running (us.ask (k.series space name.toText)) := by
  obtain ⟨hhandle, hkeeps⟩ := h.keeps.resolve k hmisfit
  refine ⟨_, Prod.ext hhandle rfl, hkeeps, h.balances.ask _, h.holds, fun name' hname k' => ?_,
    fun step hstep => Nat.le_succ_of_le (h.begun step hstep), h.ended⟩
  exact us.isSome_ask _ (.inl (h.known name' hname k'))

/-- Without a name that can be written there is no task. -/
theorem wrap_of_misfit {name : Value} {fault : Fault}
    (hmisfit : Facade.misfit? (Measurement.delay.event name).sources = some fault)
    (form : TaskForm) : w.wrap clock form name = w.pass := by
  have hrefused : w.resolve .delay name = (.error fault, w.pass) := by
    unfold TaskPool.resolve Facade.report
    rw [hmisfit]
    rfl
  unfold TaskPool.wrap
  rw [hrefused]

/-- **A new task** has its three series. -/
theorem wrap (h : w.Accounts clock flags space running us) (form : TaskForm) (name : Value) :
    ∃ us', (w.wrap clock form name).Accounts clock flags space running us' := by
  -- the three measurements ask for the same of the name
  have hall (k : Measurement) : Facade.misfit? (k.event name).sources
      = Facade.misfit? (Measurement.delay.event name).sources := by
    rw [k.sources_event, Measurement.delay.sources_event]
  cases hmisfit : Facade.misfit? (Measurement.delay.event name).sources with
  | some fault => exact ⟨us, (wrap_of_misfit hmisfit form).symm ▸ h.pass⟩
  | none =>
    obtain ⟨w₁, hdelay, h₁⟩ := h.resolve .delay hmisfit
    obtain ⟨w₂, hduration, h₂⟩ := h₁.resolve .duration ((hall _).trans hmisfit)
    obtain ⟨w₃, hmicros, h₃⟩ := h₂.resolve .micros ((hall _).trans hmisfit)
    unfold TaskPool.wrap
    rw [hdelay]
    dsimp only
    rw [hduration]
    dsimp only
    rw [hmicros]
    refine ⟨_, h₃.keeps.congr rfl rfl, h₃.balances, fun worker hworker => ?_, fun name' hname => ?_,
      fun step hstep => Nat.le_succ_of_le (h₃.begun step hstep), h₃.ended⟩
    · rcases List.mem_append.mp hworker with hold | hnew
      · exact h₃.holds worker hold
      · rw [List.mem_singleton.mp hnew]
        intro k
        cases k <;> rfl
    · by_cases hnew : name' = name.toText
      · subst hnew
        intro k
        cases k with
        | delay =>
          exact Chronicle.isSome_ask _ _ (.inl (Chronicle.isSome_ask _ _ (.inl
            (us.isSome_ask _ (.inr rfl)))))
        | duration => exact Chronicle.isSome_ask _ _ (.inl (Chronicle.isSome_ask _ _ (.inr rfl)))
        | micros => exact Chronicle.isSome_ask _ _ (.inr rfl)
      · refine h₃.known name' (hname.imp_left ?_)
        rintro ⟨worker, hworker, rfl⟩
        rcases List.mem_append.mp hworker with hold | hlast
        · exact ⟨worker, hold, rfl⟩
        · rw [List.mem_singleton.mp hlast] at hnew
          exact absurd rfl hnew

/-- **A step starts** with its delay, which is taken. -/
theorem start (h : w.Accounts clock flags space running us) {worker : Worker}
    (hholds : worker.Holds space)
    (hasked : ∀ k, (us (Measurement.series space k worker.name)).isSome = true) (x : Binary64) :
    (take worker .delay (.real x) w).1 = .ok ()
      ∧ (take worker .delay (.real x) w).2.Accounts clock flags space
          ((worker.name, w.reading) :: running)
          (us.add (Measurement.delay.series space worker.name) (.observed x)) := by
  obtain ⟨houtcome, hkeeps⟩ := h.keeps.take hholds .delay (hasked .delay) (.real x)
  obtain ⟨xs, hxs, -⟩ := h.balances.delays worker.name
  refine ⟨?_, hkeeps, h.balances.start worker.name w.reading x, h.holds, fun name hname k => ?_, ?_,
    h.ended⟩
  · rw [houtcome, hxs, Facade.shapeOf_of_isHistogram rfl,
      Memory.changed_observed (Measurement.delay.ascending_bounds rfl)]
    rfl
  · refine us.isSome_add _ _ ?_
    rcases hname with hname | hname
    · exact h.known name (.inl hname) k
    · rcases List.mem_cons.mp hname with rfl | hname
      · exact hasked k
      · exact h.known name (.inr hname) k
  · intro step hstep
    rcases List.mem_cons.mp hstep with rfl | hstep
    · exact Nat.le_succ _
    · exact Nat.le_succ_of_le (h.begun step hstep)

/-- **A step is over** where the store has its record. -/
theorem finish {p : Poll} (h : w.Accounts clock flags space ((p.name, p.started) :: running) us)
    (hended : p.started ≤ p.ended) {w' : TaskPool}
    (hkeeps : w'.Keeps flags space (us.record clock space p)) (hpolls : w'.polls = w.polls ++ [p])
    (hworkers : w'.workers = w.workers) (hreading : w.reading ≤ w'.reading) :
    w'.Accounts clock flags space running (us.record clock space p) := by
  refine ⟨hkeeps, hpolls ▸ h.balances.finish, hworkers ▸ h.holds, fun name hname k => ?_,
    fun step hstep => ?_, fun p' hp' => ?_⟩
  · refine us.isSome_record clock space p (h.known name ?_ k)
    rw [hworkers] at hname
    exact hname.imp_right (List.mem_cons_of_mem _)
  · exact Nat.le_trans (h.begun step (List.mem_cons_of_mem _ hstep)) hreading
  · rw [hpolls] at hp'
    rcases List.mem_append.mp hp' with hold | hnew
    · exact h.ended p' hold
    · rw [List.mem_singleton.mp hnew]
      exact hended

/-- **The record of a step** is taken once its process has answered. -/
theorem record {worker : Worker} {started : Nat}
    (h : w.Accounts clock flags space ((worker.name, started) :: running) us)
    (hholds : worker.Holds space) (during : TaskPool → TaskPool) (step : Step)
    (closing : Except Fault Unit) :
    let p : Poll := ⟨worker.name, started, w.reading⟩
    (Task.record (surroundings clock worker started during step closing) (p.duration clock)
      (w.note p)).2.Accounts clock flags space running (us.record clock space p) := by
  intro p
  have hasked := h.known worker.name (.inr List.mem_cons_self)
  have hkeeps : (w.note p).Keeps flags space us := h.keeps.congr rfl rfl
  obtain ⟨houtcome, htaken⟩ :=
    hkeeps.take hholds .duration (hasked .duration) (.real (p.duration clock))
  rw [h.balances.durations, Facade.shapeOf_of_isHistogram rfl,
    Memory.changed_observed (Measurement.duration.ascending_bounds rfl)] at houtcome
  obtain ⟨after, hafter⟩ :
      ∃ after, after = (take worker .duration (.real (p.duration clock)) (w.note p)).2 := ⟨_, rfl⟩
  have htake : (surroundings clock worker started during step closing).takeDuration
      (p.duration clock) (w.note p) = (.ok (), after) := Prod.ext houtcome hafter.symm
  rw [← hafter] at htaken
  have hpolls : after.polls = w.polls ++ [p] := by rw [hafter]; rfl
  have hworkers : after.workers = w.workers := by rw [hafter]; rfl
  have hreading : w.reading ≤ after.reading := by rw [hafter]; exact Nat.le_succ _
  unfold Task.record
  rw [htake]
  dsimp only
  cases hmicros : Task.wholeMicros (p.duration clock) with
  | error fault =>
    refine h.finish (h.begun _ List.mem_cons_self) ?_ hpolls hworkers hreading
    unfold Chronicle.record Poll.micros?
    rw [hmicros]
    exact htaken
  | ok n =>
    have hadded := (htaken.take hholds .micros (us.isSome_add _ _ (hasked .micros)) (.int n)).2
    refine h.finish (h.begun _ List.mem_cons_self) ?_ hpolls hworkers (Nat.le_succ_of_le hreading)
    unfold Chronicle.record Poll.micros?
    rw [hmicros]
    exact hadded

/-- **Serving a request** leaves the metrics adding up, if what happens meanwhile
does. -/
theorem request (h : w.Accounts clock flags space running us) {worker : Worker}
    (hholds : worker.Holds space)
    (hasked : ∀ k, (us (Measurement.series space k worker.name)).isSome = true)
    {during : TaskPool → TaskPool}
    (hduring : ∀ running us w, w.Accounts clock flags space running us →
      ∃ us', (during w).Accounts clock flags space running us')
    (r : TaskRequest) (step : Step) (closing : Except Fault Unit) :
    ∃ us', (worker.task.request (surroundings clock worker w.reading during step closing) r
      w).2.2.Accounts clock flags space running us' := by
  let s := surroundings clock worker w.reading during step closing
  cases hresumes : r.resumption? worker.task.phase with
  | none =>
    rcases Task.world_of_request s hresumes w with hworld | hworld
    · rw [hworld]
      exact ⟨us, h⟩
    · obtain ⟨us', hclosed⟩ := hduring running us w h
      rw [hworld]
      exact ⟨us', hclosed.pass⟩
  | some x =>
    -- what happens during the step finds it among those that are running
    obtain ⟨houtcome, hstarted⟩ := h.start hholds hasked (worker.task.delay s w)
    have htake : (s.takeDelay (worker.task.delay s w) w).1 = .ok () := houtcome
    obtain ⟨us', hanswered⟩ := hduring _ _ _ hstarted
    have hrecorded := hanswered.pass.record hholds during step closing
    rw [Task.request_eq_poll s hresumes]
    rcases Task.world_of_poll (r := x) htake with hworld | ⟨v, hworld⟩
    · rw [hworld]
      exact ⟨_, hrecorded⟩
    · rw [hworld]
      exact ⟨_, hrecorded.pass⟩

/-- **Asking a task for something** leaves the metrics adding up. -/
theorem ask (h : w.Accounts clock flags space running us) (i : Nat) (r : TaskRequest)
    {during : TaskPool → TaskPool}
    (hduring : ∀ running us w, w.Accounts clock flags space running us →
      ∃ us', (during w).Accounts clock flags space running us')
    (step : Step) (closing : Except Fault Unit) :
    ∃ us', (w.ask clock i r during step closing).Accounts clock flags space running us' := by
  unfold TaskPool.ask
  cases hfound : w.workers[i]? with
  | none => exact ⟨us, h⟩
  | some worker =>
    dsimp only
    split
    · exact ⟨us, h⟩
    · have hworker := List.mem_of_getElem? hfound
      have hbusy := h.change i (f := fun worker => { worker with busy := true })
        fun _ => ⟨rfl, rfl⟩
      obtain ⟨us', hserved⟩ := hbusy.request (h.holds worker hworker)
        (h.known worker.name (.inl ⟨worker, hworker, rfl⟩)) hduring r step closing
      exact ⟨us', hserved.change i fun _ => ⟨rfl, rfl⟩⟩

/-- **A scenario** leaves the metrics adding up, whatever is running already. -/
theorem run (scenario : Scenario) (running : List (String × Nat)) (us : Chronicle) (w : TaskPool)
    (h : w.Accounts clock flags space running us) :
    ∃ us', (scenario.run clock w).Accounts clock flags space running us' := by
  induction scenario generalizing running us w with
  | done => exact ⟨us, h⟩
  | wrap form name rest ih =>
    obtain ⟨us', hmade⟩ := h.wrap form name
    exact ih running us' _ hmade
  | wake i rest ih => exact ih running us _ (h.wake i)
  | ask i r during step closing rest ihduring ih =>
    obtain ⟨us', hserved⟩ := h.ask i r ihduring step closing
    exact ih running us' _ hserved

end TaskPool.Accounts

/-- **A pool without tasks** adds up. -/
theorem TaskPool.accounts_start (clock : Nat → Binary64) (flags : Flags) (space : Value)
    (logging : Logging) (stamp : String) (logger : Logger) :
    ∃ w us, start flags space logging stamp logger = .ok w
      ∧ w.Accounts clock flags space.space? [] us := by
  -- the series without labels have been asked for, and no series has seen anything
  have hensured : ∀ metric ∈ Catalogue.permitted flags, metric.labels = [] → ∀ m m' : Memory,
      m.Alters (qualify space.space? metric.name) (Memory.ensured []) m' →
      (∃ us : Chronicle, m.Replays us ∧ ∀ id, us.seen id = []) →
      ∃ us : Chronicle, m'.Replays us ∧ ∀ id, us.seen id = [] := by
    intro metric _ _ m m' halters ⟨us, hreplays, hnothing⟩
    refine ⟨_, hreplays.ensured ⟨qualify space.space? metric.name, []⟩ halters, fun id => ?_⟩
    rw [us.seen_ask, hnothing]
  obtain ⟨_, m, hbuild, hserves, us, hreplays, hnothing⟩ :=
    Facade.build_keeps flags space logging stamp logger
      (P := fun m => ∃ us : Chronicle, m.Replays us ∧ ∀ id, us.seen id = [])
      ⟨_, Memory.replays_families flags space.space?, fun _ => rfl⟩ hensured
  let facade : Facade := ⟨flags, space.space?, Catalogue.permitted flags, logger, 0, 0⟩
  have hstart : start flags space logging stamp logger
      = .ok { facade, store := .memory m, logging } := by
    unfold start
    rw [hbuild]
  refine ⟨_, us, hstart, ⟨rfl, rfl, m, rfl, hserves, hreplays⟩,
    ⟨fun name => ⟨[], hnothing _, rfl⟩, fun name => hnothing _, fun name => hnothing _⟩,
    fun worker hworker => absurd hworker List.not_mem_nil, ?_, ?_, ?_⟩
  · rintro name (⟨worker, hworker, -⟩ | hname)
    · exact absurd hworker List.not_mem_nil
    · exact absurd hname List.not_mem_nil
  · exact fun step hstep => absurd hstep List.not_mem_nil
  · exact fun p hp => absurd hp List.not_mem_nil

/-! ## What a step took -/

namespace Steady

variable {clock : Nat → Binary64}

/-- A steady clock has a value at every reading. -/
theorem units?_eq (h : Steady clock) (i : Nat) : (clock i).units? = some (clock i).units := by
  obtain ⟨k, hk⟩ := Binary64.isFinite_iff.mp (h.finite i)
  unfold Binary64.units
  rw [hk]
  rfl

theorem units_le (h : Steady clock) {i j : Nat} (hij : i ≤ j) :
    (clock i).units ≤ (clock j).units := by
  have hle := h.le i j hij
  rwa [Binary64.le_eq_decide (h.units?_eq i) (h.units?_eq j), decide_eq_true_eq] at hle

end Steady

open Binary64 (Representable)

namespace Poll

variable {clock : Nat → Binary64} {p : Poll}

/-- The time between the two readings of a step, in units. -/
def span (clock : Nat → Binary64) (p : Poll) : Int :=
  (clock p.ended).units - (clock p.started).units

/-- **The duration of a step** is the time it took, unless it is rounded. -/
theorem units?_duration (hclock : Steady clock) (h : Representable (p.span clock).natAbs) :
    (p.duration clock).units? = some (p.span clock) :=
  Binary64.units?_sub (hclock.units?_eq p.ended) (hclock.units?_eq p.started) h

/-- No step takes less than no time. -/
theorem zero_le_duration (hclock : Steady clock) (hended : p.started ≤ p.ended) :
    (0 : Binary64).le (p.duration clock) = true :=
  Binary64.zero_le_sub (hclock.finite p.started) (hclock.finite p.ended) (hclock.le _ _ hended)

/-- **The whole microseconds of a step** are those of the time it took, unless it
is rounded. -/
theorem micros?_eq (hclock : Steady clock) (hended : p.started ≤ p.ended)
    (h : Representable (p.span clock).natAbs)
    (hmicros : Representable (p.span clock * 1000000).natAbs) :
    p.micros? clock = some (p.span clock * 1000000 / Binary64.unitsPerOne) := by
  have hduration := units?_duration hclock h
  have hnonneg := zero_le_duration hclock hended
  rw [Binary64.le_eq_decide Binary64.units?_zero hduration, decide_eq_true_eq] at hnonneg
  unfold micros?
  rw [Task.wholeMicros_of_units? hduration hnonneg hmicros]
  rfl

/-- The whole microseconds of a step are not negative. -/
theorem micros?_nonneg (hclock : Steady clock) (hended : p.started ≤ p.ended) {n : Int}
    (h : p.micros? clock = some n) : 0 ≤ n := by
  have hnonneg := zero_le_duration hclock hended
  unfold micros? at h
  cases hcountable : Task.isCountable (p.duration clock) with
  | false =>
    rw [Task.wholeMicros_of_not_isCountable hnonneg hcountable] at h
    cases h
  | true =>
    obtain ⟨n', hn', hpos⟩ := Task.wholeMicros_of_isCountable hnonneg hcountable
    rw [hn'] at h
    obtain rfl := Option.some.inj h
    exact hpos

end Poll

/-! ## The metrics add up -/

namespace TaskPool

/-- **The metrics of a pool add up** whenever no step is running: after any
scenario, that is, on a clock that never steps backwards. For the tasks of each
name

* the delays and the durations that were observed are as many as the steps, those
  that failed or were nested included;
* the sum of the durations is the sum of what the steps took, and if none of the
  partial sums is rounded, it is their total;
* if nothing is rounded, the counter is the total of the whole microseconds of
  the steps, as far as they can be counted.

What a step took is itself rounded, and so are its microseconds. Where they are
not, they are those of the time between the two readings. -/
theorem metrics_add_up {clock : Nat → Binary64} (hclock : Steady clock) (flags : Flags)
    (space : Value) (logging : Logging) (stamp : String) (logger : Logger) (scenario : Scenario) :
    ∃ w m, start flags space logging stamp logger = .ok w
      ∧ (scenario.run clock w).store = .memory m
      ∧ ∀ name,
        let polls := Poll.named name (scenario.run clock w).polls
        let reading (metric : Metric) : Labelling → Except Fault (Option Snapshot) :=
          m.histogram (qualify space.space? metric.name)
        ∃ delays durations micros,
          reading Catalogue.taskScheduleDelaySeconds [("task", .text name)] = .ok delays
          ∧ reading Catalogue.taskPollDurationSeconds [("task", .text name)] = .ok durations
          ∧ m.value (qualify space.space? Catalogue.taskTotalPollTimeMicros.name)
              [("task", .text name)] = .ok micros
          ∧ delays.elim 0 Snapshot.count = polls.length
          ∧ durations.elim 0 Snapshot.count = polls.length
          ∧ durations.elim 0 Snapshot.sum = Binary64.sum (polls.map (Poll.duration clock))
          ∧ (Exact ((polls.map (Poll.duration clock)).map .observed) →
            (durations.elim 0 Snapshot.sum).units?
              = some ((polls.map (Poll.duration clock)).map Binary64.units).sum)
          ∧ (Exact ((polls.filterMap (Poll.micros? clock)).map .increased) →
            micros.units? = some ((polls.filterMap (Poll.micros? clock)).sum * Binary64.unitsPerOne))
          ∧ ∀ p ∈ polls, Representable (p.span clock).natAbs →
            (p.duration clock).units? = some (p.span clock)
              ∧ (Representable (p.span clock * 1000000).natAbs →
                p.micros? clock = some (p.span clock * 1000000 / Binary64.unitsPerOne)) := by
  obtain ⟨w, us, hstart, haccounts⟩ := accounts_start clock flags space logging stamp logger
  obtain ⟨us', hend⟩ := haccounts.run scenario
  obtain ⟨-, -, m, hm, hserves, hreplays⟩ := hend.keeps
  refine ⟨w, m, hstart, hm, fun name => ?_⟩
  intro polls reading
  have hpolls : ∀ p ∈ polls, p.started ≤ p.ended := fun p hp =>
    hend.ended p (List.mem_of_mem_filter hp)
  obtain ⟨xs, hdelays, hlength⟩ := hend.balances.delays name
  have hmicros := hend.balances.micros name
  have hpermitted := Measurement.metric_mem_permitted flags
  have hlabels (k : Measurement) : [name].length = k.metric.labels.length := by
    rw [k.labels_metric]
    rfl
  obtain ⟨delays, hdelaysRead, hdelaysCount, -⟩ :=
    hreplays.histogram_observed hserves (hpermitted .delay) rfl (hlabels .delay) hdelays
  obtain ⟨durations, hdurationsRead, hdurationsCount, hdurationsSum⟩ :=
    hreplays.histogram_observed hserves (hpermitted .duration) rfl (hlabels .duration)
      (hend.balances.durations name)
  have hmicrosRead := hreplays.value hserves (hpermitted .micros) rfl (hlabels .micros)
  refine ⟨delays, durations, _, hdelaysRead, hdurationsRead, hmicrosRead,
    hdelaysCount.trans hlength, hdurationsCount.trans (List.length_map _), hdurationsSum,
    fun hexact => ?_, fun hexact => ?_, fun p hp hspan => ⟨Poll.units?_duration hclock hspan,
      Poll.micros?_eq hclock (hpolls p hp) hspan⟩⟩
  · rw [hdurationsSum]
    exact Binary64.units?_sum hexact
  · rw [show us'.seen ⟨_, [name]⟩ = _ from hmicros]
    refine Memory.units?_changed_increased (fun n hn => ?_) hexact
    obtain ⟨p, hp, hn⟩ := List.mem_filterMap.mp hn
    exact Poll.micros?_nonneg hclock (hpolls p hp) hn

/-- Two tasks of one name. The second is asked while a step of the first is running
and fails; then an exception is thrown into the first, and it is closed. -/
def nested : Scenario :=
  .wrap .coroutine (.text "conn") <|
  .wrap .generator (.text "conn") <|
  .ask 0 (.send .null)
    (.ask 1 (.send .null) .done (.raised .broken) (.ok ()) .done) (.yielded .null) (.ok ()) <|
  .ask 0 (.throw .mistyped) .done (.yielded .null) (.ok ()) <|
  .ask 0 .close .done (.returned .null) (.ok ()) .done

/-- The closing is no step, and the step within comes first. -/
theorem polls_nested :
    (start .on (.text "edge") {} "" ⟨Facade.loggerName, true, .empty⟩).toOption.map
        (fun w => (nested.run (Setup.stepClock 10 0 1) w).polls)
      = some [⟨"conn", 9, 11⟩, ⟨"conn", 8, 14⟩, ⟨"conn", 16, 18⟩] := by
  decide +kernel

/-- **Three steps of one second, one second and no time.** -/
theorem metrics_add_up_nested :
    Steady (Setup.stepClock 10 0 1)
      ∧ ∃ w m delays durations micros,
        start .on (.text "edge") {} "" ⟨Facade.loggerName, true, .empty⟩ = .ok w
        ∧ (nested.run (Setup.stepClock 10 0 1) w).store = .memory m
        ∧ m.histogram (qualify (some "edge") Catalogue.taskScheduleDelaySeconds.name)
          [("task", .text "conn")] = .ok delays
        ∧ m.histogram (qualify (some "edge") Catalogue.taskPollDurationSeconds.name)
          [("task", .text "conn")] = .ok durations
        ∧ m.value (qualify (some "edge") Catalogue.taskTotalPollTimeMicros.name)
          [("task", .text "conn")] = .ok micros
        ∧ delays.elim 0 Snapshot.count = 3
        ∧ durations.elim 0 Snapshot.count = 3
        ∧ durations.elim 0 Snapshot.sum = 2
        ∧ micros.units? = some ((2000000 : Int) * Binary64.unitsPerOne) := by
  have hclock : Steady (Setup.stepClock 10 0 1) :=
    Setup.steady_stepClock 10 rfl (by decide +kernel) (by decide +kernel)
  obtain ⟨w, m, hstart, hm, hnames⟩ := metrics_add_up hclock .on (.text "edge") {} ""
    ⟨Facade.loggerName, true, .empty⟩ nested
  have hstarted := polls_nested
  rw [hstart] at hstarted
  have hpolls : (nested.run (Setup.stepClock 10 0 1) w).polls = _ := Option.some.inj hstarted
  have hnamed : Poll.named "conn" (nested.run (Setup.stepClock 10 0 1) w).polls
      = [⟨"conn", 9, 11⟩, ⟨"conn", 8, 14⟩, ⟨"conn", 16, 18⟩] := by
    rw [hpolls]
    rfl
  obtain ⟨delays, durations, micros, hdelays, hdurations, hmicros, hdelaysCount, hdurationsCount,
    hsum, -, hvalue, -⟩ := hnames "conn"
  rw [hnamed] at hdelaysCount hdurationsCount hsum hvalue
  refine ⟨hclock, w, m, delays, durations, micros, hstart, hm, hdelays, hdurations, hmicros,
    hdelaysCount, hdurationsCount, hsum.trans (by decide +kernel), ?_⟩
  have hcounted : ([⟨"conn", 9, 11⟩, ⟨"conn", 8, 14⟩, ⟨"conn", 16, 18⟩] : List Poll).filterMap
      (Poll.micros? (Setup.stepClock 10 0 1)) = [1000000, 1000000, 0] := by
    decide +kernel
  have htotal : ([1000000, 1000000, 0] : List Int).sum = 2000000 := by decide
  rw [hcounted, htotal] at hvalue
  have hwhole : ∀ u ∈ ([1000000, 1000000, 0] : List Int).map Mutation.increased,
      u.isWhole 1000000 = true := by
    decide
  exact hvalue (.of_isWhole hwhole (by decide))

end TaskPool

end QuicTelemetry
