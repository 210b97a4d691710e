import Mathlib.Data.List.Induction
import Mathlib.Logic.Function.Basic
import QuicTelemetry.Proofs.Store.Identity
import QuicTelemetry.Proofs.Store.Tally

/-!
# Stores told by what their series have seen

A cell of the memory store depends on the mutations of its series alone, in
order, those that failed included. So a store can be told by a *chronicle*: which
series were asked for, and what each of them has seen. Nothing is assumed of
sums here, so nothing need be exact. Resolving and operating reach no further
than one family (`Memory.Alters`) and each write one entry of the chronicle
(`Memory.Replays.ensured`, `Memory.Replays.call`).

A session writes its own chronicle as it goes (`Session.chronicle`), whatever it
does and whether or not that fails, and **the memory store of a session is told
by it** (`Session.Told.after`). What a handle shows is then a replay of one entry
(`Session.Told.shown?_eq`): of the observations of a histogram, of the increments
of a counter.
-/

namespace QuicTelemetry

/-! ## One family at a time -/

/-- **A store in which one family is changed**, but for its shape and its labels.
All other families stay. -/
structure Memory.Alters (m : Memory) (name : String)
    (change : Family MemoryCell → Family MemoryCell) (m' : Memory) : Prop where
  names : m'.names = m.names
  get? : ∀ name', m'.families.get? name'
    = if name' = name then (m.families.get? name').map change else m.families.get? name'
  keeps : ∀ f, (change f).shape = f.shape ∧ (change f).labels = f.labels

namespace Memory.Alters

variable {m : Memory} {name : String} {change : Family MemoryCell → Family MemoryCell}

/-- A change that does nothing to a family. -/
theorem refl (hkeeps : ∀ f, (change f).shape = f.shape ∧ (change f).labels = f.labels)
    (h : ∀ f, m.families.get? name = some f → change f = f) : m.Alters name change m := by
  refine ⟨rfl, fun name' => ?_, hkeeps⟩
  split
  · next heq =>
    subst heq
    cases hf : m.families.get? name' with
    | none => rfl
    | some f => rw [Option.map_some, h f hf]
  · rfl

/-- No change. -/
theorem id (m : Memory) (name : String) : m.Alters name (fun f => f) m :=
  refl (fun _ => ⟨rfl, rfl⟩) fun _ _ => rfl

/-- A family that is adjusted, in the way the change tells. -/
theorem adjust (hkeeps : ∀ f, (change f).shape = f.shape ∧ (change f).labels = f.labels)
    {adjustment : Family MemoryCell → Family MemoryCell}
    (h : ∀ f, m.families.get? name = some f → adjustment f = change f) :
    m.Alters name change ⟨m.families.adjust name adjustment⟩ := by
  refine ⟨Table.keys_adjust _ _ _, fun name' => ?_, hkeeps⟩
  rw [Table.get?_adjust]
  split
  · next heq =>
    subst heq
    cases hf : m.families.get? name' with
    | none => rfl
    | some f => exact congrArg some (h f hf)
  · rfl

end Memory.Alters

/-- **A family after an operation** on one of its series. -/
def Family.operated (values : List String) (verb : Verb) (args : List Value)
    (f : Family MemoryCell) : Family MemoryCell :=
  match f.cell? values, Memory.argumentOf f.shape verb args with
  | some cell, .ok argument => f.adjust values fun _ => (Memory.change f.shape cell verb argument).2
  | _, _ => f

theorem Family.operated_keeps (values : List String) (verb : Verb) (args : List Value)
    (f : Family MemoryCell) :
    (f.operated values verb args).shape = f.shape
      ∧ (f.operated values verb args).labels = f.labels := by
  unfold operated
  split <;> exact ⟨rfl, rfl⟩

/-- **An operation** reaches no further than the family of its series. -/
theorem Memory.alters_call (m : Memory) (id : SeriesId) (verb : Verb) (args : List Value) :
    m.Alters id.family (Family.operated id.values verb args) (m.call id verb args).2 := by
  have hkeeps := Family.operated_keeps id.values verb args
  unfold call cell?
  cases hf : m.families.get? id.family with
  | none =>
    refine .refl hkeeps fun f hf' => ?_
    rw [hf] at hf'
    cases hf'
  | some f =>
    have hone (f' : Family MemoryCell) (hf' : m.families.get? id.family = some f') : f' = f :=
      Option.some.inj (hf'.symm.trans hf)
    simp only [bind, Option.bind]
    cases hcell : f.cell? id.values with
    | none =>
      refine .refl hkeeps fun f' hf' => ?_
      rw [hone f' hf', Family.operated, hcell]
    | some cell =>
      dsimp only
      cases hargument : argumentOf f.shape verb args with
      | error fault =>
        refine .refl hkeeps fun f' hf' => ?_
        rw [hone f' hf', Family.operated, hcell, hargument]
      | ok argument =>
        refine .adjust hkeeps fun f' hf' => ?_
        rw [hone f' hf', Family.operated, hcell, hargument]

namespace Memory

/-- A series that was asked for. -/
def ensured (values : List String) (f : Family MemoryCell) : Family MemoryCell :=
  f.ensure values (.fresh f.shape)

end Memory

/-! ## Chronicles -/

/-- **What the series of a store have seen**, of those that were asked for. -/
abbrev Chronicle := SeriesId → Option (List Mutation)

namespace Chronicle

variable (us : Chronicle) (id : SeriesId) (u : Mutation)

/-- The mutations of a series, none if it was not asked for. -/
def seen : List Mutation := (us id).getD []

/-- The chronicle in which a series was asked for. -/
def ask : Chronicle := Function.update us id (some (us.seen id))

/-- The chronicle in which a series has seen one mutation more. -/
def add : Chronicle := Function.update us id (some (us.seen id ++ [u]))

@[simp] theorem seen_ask (id' : SeriesId) : (us.ask id).seen id' = us.seen id' := by
  by_cases h : id' = id
  · subst h
    simp [seen, ask]
  · simp [seen, ask, h]

theorem seen_add (id' : SeriesId) :
    (us.add id u).seen id' = if id' = id then us.seen id ++ [u] else us.seen id' := by
  by_cases h : id' = id
  · subst h
    simp [seen, add]
  · simp [seen, add, h]

/-- A series that was asked for stays so. -/
theorem isSome_ask {id' : SeriesId} (h : (us id').isSome = true ∨ id' = id) :
    (us.ask id id').isSome = true := by
  by_cases heq : id' = id
  · simp [ask, heq]
  · simpa [ask, heq] using h

theorem isSome_add {id' : SeriesId} (h : (us id').isSome = true) :
    (us.add id u id').isSome = true := by
  by_cases heq : id' = id
  · simp [add, heq]
  · simpa [add, heq] using h

end Chronicle

/-! ## Cells -/

namespace Memory

/-- **What a cell comes to** by some mutations, whether or not they fail. -/
def changed (shape : Shape) (us : List Mutation) : MemoryCell :=
  us.foldl (fun cell u => (change shape cell u.verb u.argument).2) (.fresh shape)

theorem changed_append (shape : Shape) (us : List Mutation) (u : Mutation) :
    changed shape (us ++ [u]) = (change shape (changed shape us) u.verb u.argument).2 := by
  unfold changed
  rw [List.foldl_append]
  rfl

/-- **Mutations of which nothing is rounded** come to what they should. -/
theorem shows_changed {shape : Shape} (hascending : shape.IsAscending) {us : List Mutation}
    (htakes : ∀ u ∈ us, shape.Takes u) (hexact : Exact us) : (changed shape us).Shows shape us := by
  induction us using List.reverseRecOn with
  | nil => exact MemoryCell.shows_fresh shape
  | append_singleton us u ih =>
    have hbefore := ih (fun u hu => htakes u (List.mem_append_left _ hu)) hexact.of_append
    obtain ⟨cell, hchange, hshows⟩ :=
      change_of_shows hascending hbefore (htakes u (List.mem_append_right _ List.mem_cons_self)) hexact
    rw [changed_append, hchange]
    exact hshows

end Memory

/-- The amount that a mutation brings to an operation, if it is that one and
brings a number. -/
def Mutation.amountOf? (verb : Verb) (u : Mutation) : Option Amount :=
  if u.verb = verb then Amount.ofValue? u.argument else none

theorem Mutation.amountOf?_self (verb : Verb) (argument : Value) :
    amountOf? verb ⟨verb, argument⟩ = Amount.ofValue? argument := if_pos rfl

namespace Binary64

/-- A number after an amount was added to it. An amount beyond the range leaves
it as it is. -/
def accumulate (x : Binary64) (a : Amount) : Binary64 := (a.addTo x).toOption.getD x

/-- A number after an increment, which is refused if it is negative. -/
def increase (x : Binary64) (a : Amount) : Binary64 := if a.isNegative then x else x.accumulate a

end Binary64

/-- **What some amounts add up to**, from zero and in order. -/
def Amount.summed (amounts : List Amount) : Binary64 := amounts.foldl Binary64.accumulate 0

theorem Amount.summed_append (amounts : List Amount) (a : Amount) :
    summed (amounts ++ [a]) = (summed amounts).accumulate a := by
  unfold summed
  rw [List.foldl_append]
  rfl

namespace Memory

/-- **A histogram has divided what was observed by its bounds** and added it up,
whatever else was tried. -/
theorem changed_histogram {bounds : List Binary64} (h : Ascending bounds) (us : List Mutation) :
    changed (.histogram bounds) us
      = .histogram (tallied bounds (us.filterMap (Mutation.amountOf? .observe)))
        (Amount.summed (us.filterMap (Mutation.amountOf? .observe))) := by
  induction us using List.reverseRecOn with
  | nil =>
    show MemoryCell.histogram (List.replicate (bounds.length + 1) 0) 0 = _
    rw [List.filterMap_nil, tallied_nil]
    rfl
  | append_singleton us u ih =>
    obtain ⟨verb, argument⟩ := u
    rw [changed_append, ih, List.filterMap_append, List.filterMap_cons, List.filterMap_nil]
    cases verb with
    | observe =>
      rw [Mutation.amountOf?_self]
      generalize us.filterMap (Mutation.amountOf? .observe) = seen
      unfold change Amount.ofValue
      cases Amount.ofValue? argument with
      | none => simp
      | some a =>
        dsimp only
        rw [bisect_eq_bucketOf h, tallied_append, Amount.summed_append]
        unfold Binary64.accumulate
        cases a.addTo (Amount.summed seen) <;> rfl
    | _ => simp [Mutation.amountOf?, change]

/-- **A counter has taken the increments in order**, but for those it refused. -/
theorem changed_counter (us : List Mutation) :
    changed .counter us
      = .value ((us.filterMap (Mutation.amountOf? .inc)).foldl Binary64.increase 0) := by
  induction us using List.reverseRecOn with
  | nil => rfl
  | append_singleton us u ih =>
    obtain ⟨verb, argument⟩ := u
    rw [changed_append, ih, List.filterMap_append, List.filterMap_cons, List.filterMap_nil]
    cases verb with
    | inc =>
      rw [Mutation.amountOf?_self, List.foldl_append]
      generalize (us.filterMap (Mutation.amountOf? .inc)).foldl Binary64.increase 0 = x
      unfold change Amount.ofValue
      cases Amount.ofValue? argument with
      | none => rfl
      | some a =>
        show _ = MemoryCell.value (x.increase a)
        dsimp only
        unfold Binary64.increase Binary64.accumulate
        split
        · rfl
        · cases a.addTo x <;> rfl
    | _ => simp [Mutation.amountOf?, change]

end Memory

/-- The observation of an amount. -/
def Mutation.observing (a : Amount) : Mutation := ⟨.observe, a.toValue⟩

theorem Mutation.amountOf?_observing (a : Amount) :
    amountOf? .observe (observing a) = some a := by
  cases a <;> rfl

/-- The value of an amount, in units; zero if it is not finite. -/
def Amount.units (a : Amount) : Int := a.units?.getD 0

theorem Mutation.units_observing (a : Amount) : (observing a).units = a.units := by
  cases a <;> rfl

/-- **The sum of amounts** of which nothing is rounded. -/
theorem Amount.units?_summed {amounts : List Amount} (h : Exact (amounts.map .observing)) :
    (summed amounts).units? = some (amounts.map units).sum := by
  have hnone : (Shape.histogram []).IsAscending := ⟨fun _ hmem => absurd hmem List.not_mem_nil, .nil⟩
  have htakes : ∀ u ∈ amounts.map Mutation.observing, (Shape.histogram []).Takes u := by
    intro u hu
    obtain ⟨a, -, rfl⟩ := List.mem_map.mp hu
    exact ⟨List.mem_singleton.mpr rfl, fun hcounter => Shape.noConfusion hcounter⟩
  have hseen : (amounts.map Mutation.observing).filterMap (Mutation.amountOf? .observe)
      = amounts := by
    rw [List.filterMap_map, show Mutation.amountOf? .observe ∘ Mutation.observing = some from
      funext Mutation.amountOf?_observing, List.filterMap_some]
  obtain ⟨sum, hchanged, hsum⟩ := Memory.shows_changed hnone htakes h
  rw [Memory.changed_histogram hnone, hseen] at hchanged
  obtain ⟨-, rfl⟩ := MemoryCell.histogram.inj hchanged
  have hunits : Mutation.units ∘ Mutation.observing = units := funext Mutation.units_observing
  rw [hsum, settled_eq_sum fun u hu => ?_, List.map_map, hunits]
  obtain ⟨a, -, rfl⟩ := List.mem_map.mp hu
  exact .inr rfl

/-! ## Stores -/

/-- **A store told by a chronicle.** -/
def Memory.Replays (us : Chronicle) (m : Memory) : Prop :=
  ∀ name f, m.families.get? name = some f →
    ∀ values, f.cell? values = (us ⟨name, values⟩).map (changed f.shape)

namespace Memory.Replays

variable {us : Chronicle} {m m' : Memory}

/-- **A change of one series** writes one entry of the chronicle. -/
theorem write (h : m.Replays us) (id : SeriesId) (vs : List Mutation)
    {update : Family MemoryCell → Family MemoryCell} (halters : m.Alters id.family update m')
    (hupdate : ∀ f, m.families.get? id.family = some f → ∀ values, (update f).cell? values
      = if values = id.values then some (changed f.shape vs) else f.cell? values) :
    m'.Replays (Function.update us id (some vs)) := by
  intro name f hf values
  rw [halters.get?] at hf
  by_cases hname : name = id.family
  · subst hname
    rw [if_pos rfl] at hf
    obtain ⟨before, hbefore, rfl⟩ := Option.map_eq_some_iff.mp hf
    rw [hupdate before hbefore, (halters.keeps before).1]
    by_cases hvalues : values = id.values
    · subst hvalues
      rw [if_pos rfl, Function.update_self]
      rfl
    · rw [if_neg hvalues, Function.update_of_ne fun heq => hvalues (congrArg SeriesId.values heq)]
      exact h _ before hbefore values
  · rw [if_neg hname] at hf
    rw [Function.update_of_ne fun heq => hname (congrArg SeriesId.family heq)]
    exact h name f hf values

/-- **Asking for a series** leaves what it has seen. -/
theorem ensured (h : m.Replays us) (id : SeriesId)
    (halters : m.Alters id.family (Memory.ensured id.values) m') : m'.Replays (us.ask id) := by
  refine h.write id (us.seen id) halters fun f hf values => ?_
  show (f.ensure id.values (.fresh f.shape)).cell? values = _
  rw [Family.cell?_ensure, h _ f hf id.values]
  unfold Chronicle.seen
  cases us id <;> rfl

/-- **Operating on a series** adds a mutation to what it has seen, and succeeds
as the cell says. -/
theorem call (h : m.Replays us) {id : SeriesId} {f : Family MemoryCell}
    (hf : m.families.get? id.family = some f) (hasked : (us id).isSome = true) {verb : Verb}
    {args : List Value} {argument : Value} (hargument : argumentOf f.shape verb args = .ok argument) :
    (m.call id verb args).1
        = (change f.shape (changed f.shape (us.seen id)) verb argument).1
      ∧ (m.call id verb args).2.Replays (us.add id ⟨verb, argument⟩) := by
  obtain ⟨vs, hvs⟩ := Option.isSome_iff_exists.mp hasked
  have hcell : f.cell? id.values = some (changed f.shape (us.seen id)) := by
    rw [h _ f hf id.values]
    unfold Chronicle.seen
    rw [hvs]
    rfl
  have hread : m.cell? id = some (changed f.shape (us.seen id)) := by
    unfold cell?
    rw [hf]
    exact hcell
  refine ⟨?_, h.write id _ (m.alters_call id verb args) fun f' hf' values => ?_⟩
  · unfold Memory.call
    rw [hf, hread]
    dsimp only
    rw [hargument]
  · obtain rfl := Option.some.inj (hf.symm.trans hf')
    unfold Family.operated
    rw [hcell, hargument]
    dsimp only
    rw [Family.cell?_adjust, changed_append]
    split
    · next heq =>
      rw [heq, hcell]
      rfl
    · rfl

end Memory.Replays

/-! ## Sessions -/

/-- **A store in which everything comes once**: a name among its names, a series
in its family. -/
structure Memory.IsDistinct (m : Memory) : Prop where
  names : m.names.Nodup
  series : ∀ name f, m.families.get? name = some f → f.series.keys.Nodup

/-- **What the handle of a series shows**: its value, or its snapshot. -/
def Memory.shown? (m : Memory) (id : SeriesId) : Option Answer :=
  (m.families.get? id.family).bind fun f => (f.cell? id.values).map f.shape.shown

/-- What a handle shows; the handles of no other store are read so. -/
def Store.shown? : Store → SeriesId → Option Answer
  | .memory m, id => m.shown? id
  | _, _ => none

namespace Session

variable {s s' s'' : Session} {m m' : Memory} {us us' : Chronicle} {id : SeriesId} {shape : Shape}

/-- **What an action writes.** A series that is resolved was asked for. An operation
that the handle has is a mutation of its series, whether or not it fails. -/
def note (s : Session) (us : Chronicle) : SessionAction → Chronicle
  | .register .. => us
  | .resolve name given =>
    match (s.store.resolve name given).1 with
    | .ok id => us.ask id
    | .error _ => us
  | .operate handle verb argument =>
    match s.handles[handle]? with
    | none => us
    | some id =>
      match s.store.shape? id.family with
      | none => us
      | some shape =>
        match Memory.argumentOf shape verb argument.toList with
        | .ok v => us.add id ⟨verb, v⟩
        | .error _ => us

/-- **The chronicle after some actions.** -/
def chronicle : Session → Chronicle → List SessionAction → Chronicle
  | _, us, [] => us
  | s, us, action :: actions => chronicle (s.step action).2 (s.note us action) actions

/-- What the series of a new memory store have seen of some actions. -/
def written (actions : List SessionAction) : Chronicle := chronicle ⟨.ofMemory, []⟩
    (fun _ => none) actions

/-- **The amounts that some actions brought to a series** by one of its operations,
in order, whether or not they were taken. -/
def amounts (actions : List SessionAction) (verb : Verb) (id : SeriesId) : List Amount :=
  ((written actions).seen id).filterMap (Mutation.amountOf? verb)

/-- **A session that goes on from another one**: handles and shapes stay. -/
structure Continues (s s' : Session) : Prop where
  handles : s.handles <+: s'.handles
  shapes : ∀ name shape, s.store.shape? name = some shape → s'.store.shape? name = some shape

theorem Continues.refl (s : Session) : s.Continues s := ⟨List.prefix_rfl, fun _ _ h => h⟩

theorem Continues.trans (h : s.Continues s') (h' : s'.Continues s'') : s.Continues s'' :=
  ⟨h.handles.trans h'.handles, fun name shape hshape =>
    h'.shapes name shape (h.shapes name shape hshape)⟩

/-- **A session told by a chronicle.** -/
structure Told (s : Session) (m : Memory) (us : Chronicle) : Prop where
  /-- The store keeps its series in memory. -/
  store : s.store = .memory m
  /-- Its cells are the entries of the chronicle, replayed. -/
  replays : m.Replays us
  /-- The series of the handles were asked for. -/
  handles : ∀ id ∈ s.handles, (us id).isSome = true
  /-- Series are asked for in registered families. -/
  families : ∀ id, (us id).isSome = true → (m.families.get? id.family).isSome = true
  /-- The bounds of the families are in order. -/
  ordered : ∀ name f, m.families.get? name = some f → f.shape.IsOrdered
  /-- Names and series come once. -/
  distinct : m.IsDistinct

/-- A new session is told by an empty chronicle. -/
theorem told_start : Told ⟨.ofMemory, []⟩ .empty fun _ => none := by
  refine ⟨rfl, fun _ _ hf => ?_, fun _ hid => absurd hid List.not_mem_nil, fun _ hsome => ?_,
    fun _ _ hf => ?_, List.nodup_nil, fun _ _ hf => ?_⟩
  · cases hf
  · cases hsome
  · cases hf
  · cases hf

namespace Told

/-- **A change of one family** that the chronicle tells, and the handles after
it. -/
theorem alter (h : s.Told m us) {name : String} {change : Family MemoryCell → Family MemoryCell}
    (halters : m.Alters name change m') (hreplays : m'.Replays us')
    (hseries : ∀ f, f.series.keys.Nodup → (change f).series.keys.Nodup) {handles : List SeriesId}
    (hhandles : s.handles <+: handles) (hasked : ∀ id ∈ handles, (us' id).isSome = true)
    (hfamilies : ∀ id, (us' id).isSome = true → (m.families.get? id.family).isSome = true) :
    Told ⟨.memory m', handles⟩ m' us' ∧ s.Continues ⟨.memory m', handles⟩ := by
  have hbefore (name' : String) (f' : Family MemoryCell) (hf' : m'.families.get? name' = some f') :
      ∃ f, m.families.get? name' = some f ∧ f'.shape = f.shape
        ∧ (f.series.keys.Nodup → f'.series.keys.Nodup) := by
    rw [halters.get?] at hf'
    split at hf'
    · obtain ⟨f, hf, rfl⟩ := Option.map_eq_some_iff.mp hf'
      exact ⟨f, hf, (halters.keeps f).1, hseries f⟩
    · exact ⟨f', hf', rfl, fun hnodup => hnodup⟩
  have hafter (name' : String) : ((m'.families.get? name').map Family.shape)
      = (m.families.get? name').map Family.shape := by
    rw [halters.get?]
    split
    · rw [Option.map_map]
      exact Option.map_congr fun f _ => (halters.keeps f).1
    · rfl
  refine ⟨⟨rfl, hreplays, hasked, fun id hid => ?_, fun name' f' hf' => ?_,
    halters.names ▸ h.distinct.names, fun name' f' hf' => ?_⟩, hhandles, fun name' shape hshape => ?_⟩
  · have hsome := hfamilies id hid
    rwa [← Option.isSome_map (f := Family.shape), ← hafter, Option.isSome_map] at hsome
  · obtain ⟨f, hf, hshape, -⟩ := hbefore name' f' hf'
    exact hshape ▸ h.ordered name' f hf
  · obtain ⟨f, hf, -, hnodup⟩ := hbefore name' f' hf'
    exact hnodup (h.distinct.series name' f hf)
  · rw [h.store] at hshape
    exact (hafter name').trans hshape

/-- **Registering** writes nothing. Nothing was asked for in a family that is
new. -/
theorem register (h : s.Told m us) (name help : String) (shape : Shape) (labels : List String) :
    ∃ m', (s.step (.register name help shape labels)).2.Told m' us
      ∧ s.Continues (s.step (.register name help shape labels)).2 := by
  obtain ⟨store, handles⟩ := s
  obtain rfl : store = .memory m := h.store
  rcases Store.register_memory_cases m name help shape labels with
    ⟨fault, herror⟩ | ⟨hnone, hordered, hok⟩
  · simp only [step, settle, herror]
    exact ⟨m, h, .refl _⟩
  · simp only [step, settle, hok]
    have hget? (name' : String) :
        (m.families.push name { help, shape, labels }).get? name'
          = (m.families.get? name').or
            (if name = name' then some { help, shape, labels } else none) :=
      Table.get?_push _ _ _ _
    have hcases (name' : String) (f : Family MemoryCell)
        (hf : (m.families.push name { help, shape, labels }).get? name' = some f) :
        m.families.get? name' = some f ∨ name = name' ∧ f = { help, shape, labels } := by
      rw [hget?] at hf
      rcases Option.or_eq_some_iff.mp hf with hold | ⟨-, hnew⟩
      · exact .inl hold
      · split at hnew
        · next heq => exact .inr ⟨heq, (Option.some.inj hnew).symm⟩
        · cases hnew
    refine ⟨_, ⟨rfl, fun name' f hf values => ?_, h.handles, fun id hid => ?_, fun name' f hf => ?_,
      ?_, fun name' f hf => ?_⟩, List.prefix_rfl, fun name' shape' hshape => ?_⟩
    · rcases hcases name' f hf with hold | ⟨rfl, rfl⟩
      · exact h.replays name' f hold values
      · cases hasked : us ⟨name, values⟩ with
        | none => rfl
        | some vs =>
          have hsome := h.families ⟨name, values⟩ (by rw [hasked]; rfl)
          rw [hnone] at hsome
          cases hsome
    · rw [hget?, Option.isSome_or, h.families id hid]
      rfl
    · rcases hcases name' f hf with hold | ⟨-, rfl⟩
      · exact h.ordered name' f hold
      · exact hordered
    · have hnew : name ∉ m.names := by
        rw [Memory.names, ← Table.has_iff_mem_keys, Table.has, hnone]
        exact Bool.false_ne_true
      show (m.families.push name _).keys.Nodup
      rw [Table.keys_push, ← List.concat_eq_append]
      exact .concat hnew h.distinct.names
    · rcases hcases name' f hf with hold | ⟨-, rfl⟩
      · exact h.distinct.series name' f hold
      · exact List.nodup_nil
    · obtain ⟨f, hf, hshape⟩ := Option.map_eq_some_iff.mp hshape
      refine Option.map_eq_some_iff.mpr ⟨f, ?_, hshape⟩
      rw [hget?, hf]
      rfl

/-- **Resolving** writes down that the series was asked for. -/
theorem resolve (h : s.Told m us) (name : String) (given : Labelling) :
    ∃ m', (s.step (.resolve name given)).2.Told m' (s.note us (.resolve name given))
      ∧ s.Continues (s.step (.resolve name given)).2 := by
  obtain ⟨store, handles⟩ := s
  obtain rfl : store = .memory m := h.store
  rcases m.resolve_cases name given with ⟨fault, herror⟩ | ⟨f, hf, -, hok⟩
  · have hresolve : (Store.memory m).resolve name given = (.error fault, .memory m) :=
      congrArg (Store.put .memory) herror
    simp only [step, note, hresolve]
    exact ⟨m, h, .refl _⟩
  · have hresolve := congrArg (Store.put .memory) hok
    change (Store.memory m).resolve name given = _ at hresolve
    simp only [step, note, hresolve, Store.put]
    have halters : m.Alters name (Memory.ensured (given.values f.labels))
        ⟨m.families.adjust name (Memory.ensured (given.values f.labels))⟩ :=
      .adjust (fun f => ⟨Family.shape_ensure _ _ _, Family.labels_ensure _ _ _⟩) fun _ _ => rfl
    refine ⟨_, h.alter halters (h.replays.ensured ⟨name, given.values f.labels⟩ halters)
      (fun f' hnodup => ?_) (List.prefix_append _ _) (fun id hid => ?_) fun id hid => ?_⟩
    · unfold Memory.ensured Family.ensure
      split
      · exact hnodup
      · next hhas =>
        show (f'.series.push _ _).keys.Nodup
        rw [Table.keys_push, ← List.concat_eq_append]
        exact .concat (fun hmem => hhas ((Table.has_iff_mem_keys _ _).mpr hmem)) hnodup
    · rcases List.mem_append.mp hid with hid | hid
      · exact us.isSome_ask _ (.inl (h.handles id hid))
      · exact us.isSome_ask _ (.inr (List.mem_singleton.mp hid))
    · by_cases heq : id = ⟨name, given.values f.labels⟩
      · rw [heq, hf]
        rfl
      · rw [Chronicle.ask, Function.update_of_ne heq] at hid
        exact h.families id hid

/-- **An operation that a handle has** is written down as a mutation, whether or
not it fails. -/
theorem call (h : s.Told m us) (hid : id ∈ s.handles)
    (hshape : s.store.shape? id.family = some shape) {verb : Verb} {args : List Value} {v : Value}
    (hargument : Memory.argumentOf shape verb args = .ok v) :
    (m.call id verb args).1 = (Memory.change shape (Memory.changed shape (us.seen id)) verb v).1
      ∧ Told ⟨.memory (m.call id verb args).2, s.handles⟩ (m.call id verb args).2
        (us.add id ⟨verb, v⟩)
      ∧ s.Continues ⟨.memory (m.call id verb args).2, s.handles⟩ := by
  rw [h.store] at hshape
  obtain ⟨f, hf, rfl⟩ := Option.map_eq_some_iff.mp hshape
  obtain ⟨houtcome, hreplays⟩ := h.replays.call hf (h.handles id hid) hargument
  refine ⟨houtcome, h.alter (m.alters_call id verb args) hreplays (fun f' hnodup => ?_)
    List.prefix_rfl (fun id' hid' => us.isSome_add _ _ (h.handles id' hid')) fun id' hid' => ?_⟩
  · unfold Family.operated
    split
    · rw [Family.adjust, Table.keys_adjust]
      exact hnodup
    · exact hnodup
  · by_cases heq : id' = id
    · rw [heq, hf]
      rfl
    · rw [Chronicle.add, Function.update_of_ne heq] at hid'
      exact h.families id' hid'

/-- The families of the handles have shapes. -/
theorem exists_shape (h : s.Told m us) (hid : id ∈ s.handles) :
    ∃ shape, s.store.shape? id.family = some shape := by
  obtain ⟨f, hf⟩ := Option.isSome_iff_exists.mp (h.families id (h.handles id hid))
  rw [h.store]
  exact ⟨f.shape, congrArg (Option.map _) hf⟩

/-- An operation that a handle does not have does nothing. -/
theorem call_of_argumentOf_error (h : s.Told m us)
    (hshape : s.store.shape? id.family = some shape) {verb : Verb} {args : List Value}
    {fault : Fault} (hargument : Memory.argumentOf shape verb args = .error fault) :
    (m.call id verb args).2 = m := by
  rw [h.store] at hshape
  obtain ⟨f, hf, rfl⟩ := Option.map_eq_some_iff.mp hshape
  rcases m.call_cases id verb args with ⟨fault', herror⟩ | ⟨f', _, _, hf', -, hok, -⟩
  · rw [herror]
  · obtain rfl := Option.some.inj (hf.symm.trans hf')
    rw [hargument] at hok
    cases hok

/-- **Operating** writes down a mutation if the handle has the operation, and does
nothing otherwise. -/
theorem operate (h : s.Told m us) (handle : Nat) (verb : Verb) (argument : Option Value) :
    ∃ m', (s.step (.operate handle verb argument)).2.Told m'
        (s.note us (.operate handle verb argument))
      ∧ s.Continues (s.step (.operate handle verb argument)).2 := by
  obtain ⟨store, handles⟩ := s
  obtain rfl : store = .memory m := h.store
  cases hid : handles[handle]? with
  | none =>
    simp only [step, note, hid]
    exact ⟨m, h, .refl _⟩
  | some id =>
    have hmem : id ∈ handles := List.mem_of_getElem? hid
    obtain ⟨shape, hshape⟩ := h.exists_shape hmem
    have hstep : (Session.step ⟨.memory m, handles⟩ (.operate handle verb argument)).2
        = ⟨.memory (m.call id verb argument.toList).2, handles⟩ := by
      simp only [step, hid]
      rfl
    rw [hstep]
    simp only [note, hid, hshape]
    cases hargument : Memory.argumentOf shape verb argument.toList with
    | error fault =>
      rw [h.call_of_argumentOf_error hshape hargument]
      exact ⟨m, h, .refl _⟩
    | ok v => exact ⟨_, (h.call hmem hshape hargument).2⟩

/-- **One action** writes one entry of the chronicle, or none. -/
theorem step (h : s.Told m us) (action : SessionAction) :
    ∃ m', (s.step action).2.Told m' (s.note us action) ∧ s.Continues (s.step action).2 := by
  cases action with
  | register name help shape labels => exact h.register name help shape labels
  | resolve name given => exact h.resolve name given
  | operate handle verb argument => exact h.operate handle verb argument

/-- **Any actions** leave a session that is told by its chronicle. -/
theorem after (h : s.Told m us) (actions : List SessionAction) :
    ∃ m', (s.after actions).Told m' (s.chronicle us actions) ∧ s.Continues (s.after actions) := by
  induction actions generalizing s m us with
  | nil => exact ⟨m, h, .refl s⟩
  | cons action actions ih =>
    obtain ⟨m', h', hcontinues⟩ := h.step action
    obtain ⟨m'', h'', hcontinues'⟩ := ih h'
    exact ⟨m'', h'', hcontinues.trans hcontinues'⟩

/-- The bounds of a histogram are accepted ones. -/
theorem refusal?_bounds (h : s.Told m us) {bounds : List Binary64}
    (hshape : s.store.shape? id.family = some (.histogram bounds)) :
    Bounds.refusal? bounds = none := by
  rw [h.store] at hshape
  obtain ⟨f, hf, hfamily⟩ := Option.map_eq_some_iff.mp hshape
  have hordered := h.ordered _ f hf
  rwa [hfamily] at hordered

/-- The bounds of a histogram are in order. -/
theorem ascending (h : s.Told m us) {bounds : List Binary64}
    (hshape : s.store.shape? id.family = some (.histogram bounds)) : Ascending bounds :=
  Bounds.ascending_of_refusal? (h.refusal?_bounds hshape)

/-- **A handle shows what its series has seen.** -/
theorem shown?_eq (h : s.Told m us) (hid : id ∈ s.handles)
    (hshape : s.store.shape? id.family = some shape) :
    s.store.shown? id = some (shape.shown (Memory.changed shape (us.seen id))) := by
  rw [h.store] at hshape ⊢
  obtain ⟨f, hf, rfl⟩ := Option.map_eq_some_iff.mp hshape
  obtain ⟨vs, hvs⟩ := Option.isSome_iff_exists.mp (h.handles id hid)
  show m.shown? id = _
  unfold Memory.shown? Chronicle.seen
  rw [hf, Option.bind_some, h.replays _ f hf, hvs]
  rfl

end Told

/-- **A session over a new memory store** is told by what it wrote. -/
theorem told_after (actions : List SessionAction) :
    ∃ m, (after ⟨.ofMemory, []⟩ actions).Told m (written actions) :=
  (told_start.after actions).imp fun _ h => h.1

/-! ## Sessions that go on -/

/-- What a series has seen is only added to. -/
theorem seen_note (s : Session) (us : Chronicle) (action : SessionAction) (id : SeriesId) :
    us.seen id <+: (s.note us action).seen id := by
  cases action with
  | register => exact List.prefix_rfl
  | resolve name given =>
    unfold note
    dsimp only
    split
    · simp only [Chronicle.seen_ask, List.prefix_rfl]
    · exact List.prefix_rfl
  | operate handle verb argument =>
    unfold note
    dsimp only
    split
    · exact List.prefix_rfl
    · split
      · exact List.prefix_rfl
      · split
        · rw [Chronicle.seen_add]
          split
          · next heq =>
            rw [heq]
            exact List.prefix_append _ _
          · exact List.prefix_rfl
        · exact List.prefix_rfl

theorem seen_chronicle (s : Session) (us : Chronicle) (actions : List SessionAction)
    (id : SeriesId) :
    us.seen id <+: (s.chronicle us actions).seen id := by
  induction actions generalizing s us with
  | nil => exact List.prefix_rfl
  | cons action actions ih => exact (seen_note s us action id).trans (ih _ _)

theorem chronicle_append (s : Session) (us : Chronicle) (before actions : List SessionAction) :
    s.chronicle us (before ++ actions)
      = (s.after before).chronicle (s.chronicle us before) actions := by
  induction before generalizing s us with
  | nil => rfl
  | cons action before ih => exact ih _ _

/-- **The amounts of a session come first** among those of a session that goes
on from it. -/
theorem amounts_append (before actions : List SessionAction) (verb : Verb) (id : SeriesId) :
    amounts before verb id <+: amounts (before ++ actions) verb id := by
  unfold amounts written
  rw [chronicle_append]
  exact (seen_chronicle _ _ actions id).filterMap _

end Session

end QuicTelemetry
