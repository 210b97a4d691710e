import Mathlib.Algebra.BigOperators.Group.List.Basic
import QuicTelemetry.Handle
import QuicTelemetry.Proofs.Facade.Wiring
import QuicTelemetry.Proofs.Store.Tally

/-!
# Histories of callers, and what they come to

Several callers share a facade. Each calls methods, and operates on the handles
of its own calls, which it names by their places. A `History` is what they did,
in the order in which it was done. It is looked at in two ways.

* A `FacadeSession` does it: a facade over a memory store, and the handles it gave out.
* A `Ledger` writes it down: which calls there were, and with which call's
  handle every operation was done. `Ledger.reading` is what a series then has to
  show. It is worked out from the calls alone, and in whole numbers of units:
  the sum for a counter, what the operations come to for a gauge, and the
  numbers of observations for a histogram.

A counter and a histogram are read without regard to the order of entries, so
**what they show depends only on what each caller did**
(`Ledger.reading_of_interleaving`).
-/

namespace QuicTelemetry

/-! ## What callers do -/

/-- **What a caller does.** -/
inductive FacadeAction where
  /-- Calls a method; the stamp is for what is logged. -/
  | call (call : Call) (stamp : String)
  /-- Operates on the handle of one of its calls. -/
  | operate (handle : Nat) (verb : Verb) (args : List Value)

/-- **What callers did**, by their numbers, in order. -/
abbrev History := List (Nat × FacadeAction)

/-- What belongs to a caller, in order. -/
def own {α : Type} (caller : Nat) (l : List (Nat × α)) : List α :=
  (l.filter fun entry => entry.1 == caller).map Prod.snd

section Own

variable {α β : Type} (caller : Nat)

@[simp] theorem own_nil : own caller ([] : List (Nat × α)) = [] := rfl

theorem own_cons (entry : Nat × α) (l : List (Nat × α)) :
    own caller (entry :: l) = if entry.1 = caller then entry.2 :: own caller l else own caller l := by
  unfold own
  rw [List.filter_cons]
  by_cases h : entry.1 = caller
  · rw [if_pos (by rwa [beq_iff_eq]), if_pos h, List.map_cons]
  · rw [if_neg (by rwa [beq_iff_eq]), if_neg h]

theorem own_append (l l' : List (Nat × α)) :
    own caller (l ++ l') = own caller l ++ own caller l' := by
  unfold own
  rw [List.filter_append, List.map_append]

theorem own_map (f : α → β) (l : List (Nat × α)) :
    own caller (l.map fun entry => (entry.1, f entry.2)) = (own caller l).map f := by
  unfold own
  rw [List.filter_map, List.map_map, List.map_map]
  rfl

variable {caller} in
theorem mem_of_mem_own {a : α} {l : List (Nat × α)} (h : a ∈ own caller l) : (caller, a) ∈ l := by
  obtain ⟨entry, hentry, rfl⟩ := List.mem_map.mp h
  obtain ⟨hmem, hcaller⟩ := List.mem_filter.mp hentry
  obtain rfl := beq_iff_eq.mp hcaller
  exact hmem

end Own

/-- **Entries are the same up to their order** if those of each caller are the
same. -/
theorem perm_of_own {α : Type} {l l' : List (Nat × α)} (h : ∀ caller, own caller l = own caller l') :
    l.Perm l' := by
  classical
  have hcount (l : List (Nat × α)) (caller : Nat) (a : α) :
      l.count (caller, a) = (own caller l).count a := by
    induction l with
    | nil => rfl
    | cons entry l ih =>
      rw [own_cons, List.count_cons, ih]
      by_cases hcaller : entry.1 = caller
      · rw [if_pos hcaller, List.count_cons]
        congr 1
        simp only [beq_iff_eq, Prod.ext_iff, hcaller, true_and]
      · rw [if_neg hcaller, if_neg (by rw [beq_iff_eq, Prod.ext_iff]; exact fun heq => hcaller heq.1)]
        rfl
  rw [List.perm_iff_count]
  rintro ⟨caller, a⟩
  rw [hcount, hcount, h]

/-! ## The ledger -/

/-- The mutation that an operation asks for. -/
def Mutation.of? (verb : Verb) (args : List Value) : Option Mutation :=
  (verb.argument args).toOption.map fun argument => ⟨verb, argument⟩

/-- **What was done**: the calls, and the mutations with the calls they belong
to. -/
structure Ledger where
  /-- The calls by their callers, oldest first. -/
  calls : List (Nat × Call) := []
  /-- The mutations by their callers, oldest first. -/
  entries : List (Nat × Call × Mutation) := []

namespace Ledger

/-- Writes down an action. -/
def note (ledger : Ledger) (caller : Nat) : FacadeAction → Ledger
  | .call call _ => { ledger with calls := ledger.calls ++ [(caller, call)] }
  | .operate handle verb args =>
    match (own caller ledger.calls)[handle]?, Mutation.of? verb args with
    | some call, some u => { ledger with entries := ledger.entries ++ [(caller, call, u)] }
    | _, _ => ledger

/-- Writes down a history. -/
def noteAll (ledger : Ledger) (history : History) : Ledger :=
  history.foldl (fun ledger action => ledger.note action.1 action.2) ledger

/-- The mutations of a series. -/
def mutations (flags : Flags) (space : Option String) (ledger : Ledger) (id : SeriesId) :
    List Mutation :=
  ledger.entries.filterMap fun entry =>
    if entry.2.1.series? flags space = some id then some entry.2.2 else none

/-- Whether a series was asked for. Those without labels always are. -/
def Asked (flags : Flags) (space : Option String) (ledger : Ledger) (id : SeriesId) : Prop :=
  id.values = [] ∨ ∃ entry ∈ ledger.calls, entry.2.series? flags space = some id

instance (flags : Flags) (space : Option String) (ledger : Ledger) (id : SeriesId) :
    Decidable (ledger.Asked flags space id) :=
  inferInstanceAs (Decidable (_ ∨ _))

end Ledger

/-! ## Readings -/

/-- **What a series shows**, as exact numbers of units. -/
inductive Reading where
  /-- The value of a counter or a gauge. -/
  | level (units : Option Int)
  /-- The counts up to each bound, the sum and the number of observations of a
  histogram, if the series is there. -/
  | spread (seen : Option (List (Binary64 × Nat) × Option Int × Nat))
  deriving DecidableEq

/-- **What a memory store shows** of the series of a metric. -/
def Memory.reading (m : Memory) (space : Option String) (metric : Metric) (values : List String) :
    Except Fault Reading :=
  let name := qualify space metric.name
  let labels : Labelling := .of metric.labels values
  if metric.kind.isHistogram then
    (m.histogram name labels).map fun seen =>
      .spread (seen.map fun shot => (shot.buckets, shot.sum.units?, shot.count))
  else (m.value name labels).map fun x => .level x.units?

/-- How many observations lie at or below a bound. -/
def countBelow (us : List Mutation) (bound : Binary64) : Nat :=
  us.countP fun u => bound.units?.any fun limit => decide (u.units ≤ limit)

/-- **What a ledger has a series show.** -/
def Ledger.reading (flags : Flags) (space : Option String) (ledger : Ledger) (metric : Metric)
    (values : List String) : Reading :=
  let id : SeriesId := ⟨qualify space metric.name, values⟩
  let us := ledger.mutations flags space id
  match metric.kind with
  | .counter => .level (some (us.map Mutation.units).sum)
  | .gauge => .level (some (settled us))
  | .histogram | .timeHistogram =>
    .spread <|
      if ledger.Asked flags space id then
        some ((metric.bounds.getD []).map (fun bound => (bound, countBelow us bound))
            ++ [(.infinite false, us.length)],
          some (us.map Mutation.units).sum, us.length)
      else none

/-- Whether a reading is that of a series in which nothing happened. -/
def Reading.isZero : Reading → Bool
  | .level units => units == some 0
  | .spread none => true
  | .spread (some (buckets, sum, count)) =>
    buckets.all (fun bucket => bucket.2 == 0) && sum == some 0 && count == 0

/-- **Where nothing happened, nothing shows.** -/
theorem Ledger.isZero_reading {flags : Flags} {space : Option String} {ledger : Ledger}
    {metric : Metric} {values : List String}
    (h : ∀ entry ∈ ledger.entries,
      entry.2.1.series? flags space ≠ some ⟨qualify space metric.name, values⟩) :
    (ledger.reading flags space metric values).isZero = true := by
  have hnil : ledger.mutations flags space ⟨qualify space metric.name, values⟩ = [] := by
    unfold mutations
    rw [List.filterMap_eq_nil_iff]
    exact fun entry hentry => if_neg (h entry hentry)
  unfold reading
  dsimp only
  rw [hnil]
  have hspread : ∀ bounds : List Binary64, (Reading.spread (some
      (bounds.map (fun bound => (bound, countBelow [] bound)) ++ [(.infinite false, 0)],
        some 0, 0))).isZero = true := by
    intro bounds
    simp [Reading.isZero, countBelow]
  cases metric.kind with
  | counter => rfl
  | gauge => rfl
  | histogram =>
    dsimp only
    split
    · exact hspread _
    · rfl
  | timeHistogram =>
    dsimp only
    split
    · exact hspread _
    · rfl

/-- Both kinds of histograms are read alike. -/
theorem Ledger.reading_of_isHistogram {metric : Metric} (h : metric.kind.isHistogram = true)
    (flags : Flags) (space : Option String) (ledger : Ledger) (values : List String) :
    ledger.reading flags space metric values
      = .spread (if ledger.Asked flags space ⟨qualify space metric.name, values⟩ then
          let us := ledger.mutations flags space ⟨qualify space metric.name, values⟩
          some ((metric.bounds.getD []).map (fun bound => (bound, countBelow us bound))
              ++ [(.infinite false, us.length)],
            some (us.map Mutation.units).sum, us.length)
        else none) := by
  unfold reading
  cases hkind : metric.kind <;> rw [hkind] at h
  · exact absurd h Bool.false_ne_true
  · exact absurd h Bool.false_ne_true

/-! ## Interleavings -/

namespace Ledger

/-- **Ledgers in which a caller has the same.** -/
structure SameFor (caller : Nat) (ledger ledger' : Ledger) : Prop where
  calls : own caller ledger'.calls = own caller ledger.calls
  entries : own caller ledger'.entries = own caller ledger.entries

/-- What a caller does is written down for it by its own calls. -/
theorem SameFor.note {caller : Nat} {ledger ledger' : Ledger} (h : SameFor caller ledger ledger')
    (action : FacadeAction) : SameFor caller (ledger.note caller action)
    (ledger'.note caller action) := by
  cases action with
  | call call stamp =>
    refine ⟨?_, h.entries⟩
    show own caller (ledger'.calls ++ [(caller, call)]) = own caller (ledger.calls ++ [(caller, call)])
    rw [own_append, own_append, h.calls]
  | operate handle verb args =>
    unfold Ledger.note
    dsimp only
    rw [h.calls]
    cases (own caller ledger.calls)[handle]? with
    | none => exact h
    | some call =>
      cases Mutation.of? verb args with
      | none => exact h
      | some u =>
        refine ⟨h.calls, ?_⟩
        dsimp only
        rw [own_append, own_append, h.entries]

/-- What another caller does changes nothing for a caller. -/
theorem SameFor.note_of_ne {caller other : Nat} (hne : other ≠ caller) {ledger ledger' : Ledger}
    (h : SameFor caller ledger ledger') (action : FacadeAction) :
    SameFor caller ledger (ledger'.note other action) := by
  have hskip {α : Type} (l : List (Nat × α)) (a : α) :
      own caller (l ++ [(other, a)]) = own caller l := by
    rw [own_append, own_cons, if_neg hne, own_nil, List.append_nil]
  cases action with
  | call call stamp => exact ⟨(hskip _ _).trans h.calls, h.entries⟩
  | operate handle verb args =>
    unfold Ledger.note
    dsimp only
    split
    · exact ⟨h.calls, (hskip _ _).trans h.entries⟩
    · exact h

/-- **What is written down for a caller depends on its own actions alone.** -/
theorem SameFor.noteAll {caller : Nat} {ledger ledger' : Ledger} (h : SameFor caller ledger ledger')
    (history : History) :
    SameFor caller (ledger.noteAll ((own caller history).map (caller, ·)))
      (ledger'.noteAll history) := by
  induction history generalizing ledger ledger' with
  | nil => exact h
  | cons entry history ih =>
    obtain ⟨other, action⟩ := entry
    rw [own_cons]
    split
    · next heq =>
      obtain rfl : other = caller := heq
      exact ih (h.note action)
    · next hne => exact ih (h.note_of_ne hne action)

/-- Ledgers of the same actions, however interleaved, have the same calls and
entries up to their order. -/
theorem perm_of_interleaving {history history' : History}
    (h : ∀ caller, own caller history' = own caller history) :
    (Ledger.noteAll {} history').calls.Perm (Ledger.noteAll {} history).calls
      ∧ (Ledger.noteAll {} history').entries.Perm (Ledger.noteAll {} history).entries := by
  have hsame (caller : Nat) (history : History) :
      SameFor caller (Ledger.noteAll {} ((own caller history).map (caller, ·)))
        (Ledger.noteAll {} history) :=
    SameFor.noteAll ⟨rfl, rfl⟩ history
  constructor
  · refine perm_of_own fun caller => ?_
    rw [(hsame caller history').calls, h, (hsame caller history).calls]
  · refine perm_of_own fun caller => ?_
    rw [(hsame caller history').entries, h, (hsame caller history).entries]

/-- **Counters and histograms show the same however the actions of callers are
interleaved.** -/
theorem reading_of_interleaving {history history' : History}
    (h : ∀ caller, own caller history' = own caller history) (flags : Flags)
    (space : Option String) {metric : Metric} (hkind : metric.kind ≠ .gauge)
    (values : List String) :
    (Ledger.noteAll {} history').reading flags space metric values
      = (Ledger.noteAll {} history).reading flags space metric values := by
  obtain ⟨hcalls, hentries⟩ := perm_of_interleaving h
  have hperm (id : SeriesId) : ((Ledger.noteAll {} history').mutations flags space id).Perm
      ((Ledger.noteAll {} history).mutations flags space id) := hentries.filterMap _
  have hasked (id : SeriesId) : (Ledger.noteAll {} history').Asked flags space id
      ↔ (Ledger.noteAll {} history).Asked flags space id := by
    unfold Asked
    simp only [hcalls.mem_iff]
  have hsum (id : SeriesId) := ((hperm id).map Mutation.units).sum_eq
  have hbelow (id : SeriesId) (bound : Binary64) :
      countBelow ((Ledger.noteAll {} history').mutations flags space id) bound
        = countBelow ((Ledger.noteAll {} history).mutations flags space id) bound :=
    (hperm id).countP_eq _
  unfold reading
  cases hk : metric.kind with
  | gauge => exact absurd hk hkind
  | counter => simp only [hsum]
  | histogram => simp only [hsum, hasked, hbelow, (hperm _).length_eq]
  | timeHistogram => simp only [hsum, hasked, hbelow, (hperm _).length_eq]

end Ledger

/-! ## What is accepted -/

/-- Whether a method takes the arguments of a call. -/
def Call.isAccepted (call : Call) : Bool :=
  match Event.ofCall call.method call.args with
  | .ok event => (Facade.misfit? event.sources).isNone
  | .error _ => false

/-- **Whether the handle of a call takes a mutation**: it has the operation, the
number is finite, and what a counter is increased by is not below zero. A
handle that does nothing takes that, too. -/
def Call.takes (flags : Flags) (space : Option String) (call : Call) (u : Mutation) : Bool :=
  match call.metric? with
  | some metric =>
    metric.kind.verbs.contains u.verb && u.argument.units?.isSome
      && (metric.kind != .counter || (call.series? flags space).isNone || decide (0 ≤ u.units))
  | none => false

/-- Whether an action is accepted of a caller that made some calls. -/
def FacadeAction.isAccepted (flags : Flags) (space : Option String)
    (calls : List Call) : FacadeAction → Bool
  | .call made _ => made.isAccepted
  | .operate handle verb args =>
    match calls[handle]?, Mutation.of? verb args with
    | some made, some u => made.takes flags space u
    | _, _ => false

/-- The calls that an action is. -/
def FacadeAction.calls : FacadeAction → List Call
  | .call made _ => [made]
  | .operate .. => []

/-- **Whether a caller's actions are accepted**, after the calls it made. -/
def accepts (flags : Flags) (space : Option String) (calls : List Call) : List FacadeAction → Bool
  | [] => true
  | action :: actions =>
    action.isAccepted flags space calls && accepts flags space (calls ++ action.calls) actions

/-- **A history in which everything is accepted and nothing is rounded.** -/
structure History.Fits (flags : Flags) (space : Option String) (history : History) : Prop where
  accepted : ∀ caller, accepts flags space [] (own caller history) = true
  exact : ∀ id, Exact ((Ledger.noteAll {} history).mutations flags space id)

namespace Ledger

/-- The calls that are written down are those that the actions are. -/
theorem own_calls_note (ledger : Ledger) (caller other : Nat) (action : FacadeAction) :
    own other (ledger.note caller action).calls
      = own other ledger.calls ++ if caller = other then action.calls else [] := by
  cases action with
  | call call stamp =>
    show own other (ledger.calls ++ [(caller, call)]) = _
    rw [own_append, own_cons]
    rfl
  | operate handle verb args =>
    have hcalls : (ledger.note caller (.operate handle verb args)).calls = ledger.calls := by
      unfold note
      dsimp only
      split <;> rfl
    rw [hcalls]
    split <;> exact (List.append_nil _).symm

/-- Nothing that was written down is lost. -/
theorem exists_entries_noteAll (ledger : Ledger) (history : History) :
    ∃ entries, (ledger.noteAll history).entries = ledger.entries ++ entries := by
  induction history generalizing ledger with
  | nil => exact ⟨[], (List.append_nil _).symm⟩
  | cons entry history ih =>
    obtain ⟨rest, hrest⟩ := ih (ledger.note entry.1 entry.2)
    obtain ⟨new, hnew⟩ : ∃ new, (ledger.note entry.1 entry.2).entries = ledger.entries ++ new := by
      unfold note
      split
      · exact ⟨[], (List.append_nil _).symm⟩
      · split
        · exact ⟨_, rfl⟩
        · exact ⟨[], (List.append_nil _).symm⟩
    refine ⟨new ++ rest, ?_⟩
    show ((ledger.note entry.1 entry.2).noteAll history).entries = _
    rw [hrest, hnew, List.append_assoc]

/-- What was exact in the end was exact before. -/
theorem exact_of_noteAll {flags : Flags} {space : Option String} {ledger : Ledger}
    {history : History} {id : SeriesId}
    (h : Exact ((ledger.noteAll history).mutations flags space id)) :
    Exact (ledger.mutations flags space id) := by
  obtain ⟨entries, hentries⟩ := ledger.exists_entries_noteAll history
  unfold mutations at h ⊢
  rw [hentries, List.filterMap_append] at h
  exact h.of_append

/-- **A ledger of whole numbers that cannot add up to 2⁵³ is exact**, in every
order of its entries. -/
theorem exact_of_isWhole {ledger : Ledger} {bound : Nat}
    (h : ∀ entry ∈ ledger.entries, entry.2.2.isWhole bound = true)
    (hlength : ledger.entries.length * bound < 2 ^ 53) (flags : Flags) (space : Option String)
    (id : SeriesId) : Exact (ledger.mutations flags space id) := by
  refine .of_isWhole (fun u hu => ?_)
    (Nat.lt_of_le_of_lt (Nat.mul_le_mul_right bound (List.length_filterMap_le _ _)) hlength)
  obtain ⟨entry, hentry, hu⟩ := List.mem_filterMap.mp hu
  split at hu
  · obtain rfl := Option.some.inj hu
    exact h entry hentry
  · cases hu

end Ledger

/-! ## Doing it -/

/-- **A facade over a store**, with the handles it gave out, by the callers. -/
structure FacadeSession where
  /-- The facade. -/
  facade : Facade
  /-- The store. -/
  store : Store
  /-- The handles, oldest first. -/
  handles : List (Nat × Handle) := []

namespace FacadeSession

/-- Builds a facade over a memory store in which there is nothing. -/
def start (flags : Flags) (space : Value) (logging : Logging) (stamp : String) (logger : Logger) :
    Except Fault FacadeSession :=
  match Facade.build .ofMemory flags space logging stamp logger with
  | (.ok (facade, _), store) => .ok { facade, store }
  | (.error fault, _) => .error fault

/-- Does one action. -/
def step (logging : Logging) (session : FacadeSession)
    (caller : Nat) : FacadeAction → Except Fault FacadeSession
  | .call call stamp => do
    let event ← Event.ofCall call.method call.args
    match session.facade.report session.store logging stamp event with
    | (.ok response, facade, store) =>
      return ⟨facade, store, session.handles ++ [(caller, response.handle)]⟩
    | (.error fault, _, _) => throw fault
  | .operate handle verb args =>
    match (own caller session.handles)[handle]? with
    | some handle =>
      match handle.call session.store verb args with
      | (.ok (), store) => return { session with store }
      | (.error fault, _) => throw fault
    | none => throw .missingKey

/-- **Does what callers did.** It ends at the first action that fails. -/
def run (logging : Logging) (session : FacadeSession)
    (history : History) : Except Fault FacadeSession :=
  history.foldlM (fun session action => session.step logging action.1 action.2) session

/-- **What is in the store** of a new facade after callers did something. -/
def serve (flags : Flags) (space : Value) (logging : Logging) (stamp : String) (logger : Logger)
    (history : History) : Except Fault Memory := do
  let session ← start flags space logging stamp logger
  match (← session.run logging history).store with
  | .memory m => return m
  | _ => throw .absent

/-- **Does one action**, whether it succeeds or not. A call that succeeds gives out
a handle. -/
def attempt (logging : Logging) (session : FacadeSession) (caller : Nat) (action : FacadeAction)
    (limits : Limits := .standard) : Except Fault (Option Handle) × FacadeSession :=
  match action with
  | .call call stamp =>
    match Event.ofCall call.method call.args with
    | .error fault => (.error fault, session)
    | .ok event =>
      match session.facade.report session.store logging stamp event limits with
      | (.ok response, facade, store) =>
        (.ok (some response.handle),
          ⟨facade, store, session.handles ++ [(caller, response.handle)]⟩)
      | (.error fault, facade, store) => (.error fault, { session with facade, store })
  | .operate handle verb args =>
    match (own caller session.handles)[handle]? with
    | none => (.error .missingKey, session)
    | some handle =>
      ((handle.call session.store verb args).1.map fun _ => none,
        { session with store := (handle.call session.store verb args).2 })

/-- **Does what callers did**, going on after what fails. The outcomes are told
with their actions. -/
def attemptAll (logging : Logging) (session : FacadeSession) :
    History → List (FacadeAction × Except Fault (Option Handle)) × FacadeSession
  | [] => ([], session)
  | (caller, action) :: history =>
    let (outcome, session) := session.attempt logging caller action
    let (rest, session) := attemptAll logging session history
    ((action, outcome) :: rest, session)

end FacadeSession

end QuicTelemetry
