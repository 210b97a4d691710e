import Mathlib.Data.List.Induction
import QuicTelemetry.Proofs.Lists
import QuicTelemetry.Proofs.Store.Simulation

/-!
# Handles and the series they belong to

A session over the memory store acts and is asked in any order. Its log tells every
use with the reply to it, and the log alone says what the store has: a family
keeps the series that were resolved in it, each once, in the order in which they
came first (`Session.Tracks`).

So **a handle is the same exactly if family and labels are**, however the labels
are ordered and whatever they are made of. An operation that succeeds changes
what is read of the series of its handle and of no other (`Memory.Mutates`),
and what asks or fails to resolve changes nothing
(`Session.memory_handles`).
-/

namespace QuicTelemetry

/-! ## Asking -/

/-- **A question** to a store that can be read. -/
inductive Query where
  /-- The value of a counter or a gauge. -/
  | value (name : String) (given : Labelling)
  /-- The snapshot of a histogram. -/
  | histogram (name : String) (given : Labelling)
  /-- The series of a family. -/
  | series (name : String)
  /-- The names that are taken. -/
  | names

/-- What is answered. -/
inductive Answer where
  /-- A value. -/
  | value (x : Binary64)
  /-- A snapshot, if the series was resolved. -/
  | histogram (shot : Option Snapshot)
  /-- The labels of all series. -/
  | series (rows : List (List (String × String)))
  /-- The names. -/
  | names (names : List String)

/-- The question for a series of a family. -/
def Shape.query (shape : Shape) (name : String) (given : Labelling) : Query :=
  if shape.isHistogram then .histogram name given else .value name given

/-- What is answered for a cell. -/
def Shape.shown : Shape → MemoryCell → Answer
  | .histogram bounds, cell => .histogram (cell.snapshot? bounds)
  | _, .value x => .value x
  | _, .histogram .. => .value 0

namespace Memory

/-- The answer to a question. -/
def ask (m : Memory) : Query → Except Fault Answer
  | .value name given => (m.value name given).map .value
  | .histogram name given => (m.histogram name given).map .histogram
  | .series name => (m.series name).map .series
  | .names => .ok (.names m.names)

end Memory

/-! ## Sessions with questions -/

/-- Whether an action operates on a handle. -/
def SessionAction.operates : SessionAction → Bool
  | .operate .. => true
  | _ => false

/-- **What a session is given**: an action or a question. -/
inductive SessionInput where
  /-- An action. -/
  | action (action : SessionAction)
  /-- A question. -/
  | ask (query : Query)

/-- What it replies. -/
inductive Reply where
  /-- The outcome of an action. -/
  | outcome (outcome : Outcome)
  /-- The answer to a question. -/
  | answer (answer : Except Fault Answer)

/-- **A plain input.** A family has no label twice and none that the
operations take for themselves, and no label is given twice. -/
def SessionInput.IsPlain : SessionInput → Prop
  | .action (.register _ _ _ labels) => labels.Nodup ∧ ∀ name ∈ ["self", "name"], name ∉ labels
  | .action (.resolve _ given) => (given.map Prod.fst).Nodup
  | _ => True

/-- The answer of a store; no other store than the memory store is read so. -/
def Store.ask : Store → Query → Except Fault Answer
  | .memory m, query => m.ask query
  | _, _ => .error .absent

/-- The inputs of a session so far, with its replies. -/
abbrev ReplyLog := List (SessionInput × Reply)

namespace Session

/-- **One input.** -/
def take (s : Session) : SessionInput → Reply × Session
  | .action action => (.outcome (s.step action).1, (s.step action).2)
  | .ask query => (.answer (s.store.ask query), s)

/-- The session after some inputs, and its log. -/
def takeAll (s : Session) : List SessionInput → ReplyLog × Session
  | [] => ([], s)
  | u :: us => ((u, (s.take u).1) :: ((s.take u).2.takeAll us).1, ((s.take u).2.takeAll us).2)

end Session

/-- **A resolution that succeeded.** -/
structure Resolution where
  /-- The family. -/
  name : String
  /-- The labels that were given. -/
  given : Labelling
  /-- The series. -/
  id : SeriesId

namespace Resolution

/-- What an input resolved, if it did. -/
def of? : SessionInput × Reply → Option Resolution
  | (.action (.resolve name given), .outcome (.ok (some id))) => some ⟨name, given, id⟩
  | _ => none

/-- The labels that were given, as texts. -/
def texts (r : Resolution) : List (String × String) :=
  r.given.map fun label => (label.1, label.2.toText)

/-- The row of a family that the labels stand for: the text under each of its
names. -/
def row (labels : List String) (r : Resolution) : List (String × String) :=
  labels.map fun label => (label, r.given.text label)

end Resolution

namespace ReplyLog

/-- What was resolved, oldest first. -/
def resolved (log : ReplyLog) : List Resolution := log.filterMap Resolution.of?

/-- What was resolved in one family, oldest first. -/
def resolvedIn (log : ReplyLog) (name : String) : List Resolution :=
  log.resolved.filter (·.name = name)

theorem resolved_concat (log : ReplyLog) (entry : SessionInput × Reply) :
    resolved (log ++ [entry]) = log.resolved ++ (Resolution.of? entry).toList := by
  unfold resolved
  rw [List.filterMap_append, List.filterMap_cons, List.filterMap_nil]
  cases Resolution.of? entry <;> rfl

theorem resolvedIn_concat (log : ReplyLog) (entry : SessionInput × Reply) (name : String) :
    resolvedIn (log ++ [entry]) name
      = log.resolvedIn name ++ (Resolution.of? entry).toList.filter (·.name = name) := by
  unfold resolvedIn
  rw [resolved_concat, List.filter_append]

end ReplyLog

/-! ## Labels as texts -/

namespace Labelling

variable {given : Labelling}

end Labelling

/-! ## What a step does to the memory store -/

namespace Memory

variable {m : Memory}

/-- **Registering** adds a family or changes nothing. -/
theorem register_cases (m : Memory) (name help : String) (shape : Shape) (labels : List String) :
    (∃ fault, m.register name help shape labels = (.error fault, m))
      ∨ m.families.get? name = none
        ∧ m.register name help shape labels
          = (.ok (), ⟨m.families.push name { help, shape, labels }⟩) := by
  unfold register
  split
  · exact .inl ⟨_, rfl⟩
  · next hhas => exact .inr ⟨Option.not_isSome_iff_eq_none.mp hhas, rfl⟩

/-- The labels of a series are those of its family. -/
theorem seriesOf_cases (name : String) (f : Family MemoryCell) (given : Labelling) :
    (∃ fault, seriesOf name f given = .error fault)
      ∨ (∀ label, label ∈ f.labels ↔ label ∈ given.map Prod.fst)
        ∧ seriesOf name f given = .ok ⟨name, given.values f.labels⟩ := by
  unfold seriesOf checkLabels
  split
  · next hsame => exact .inr ⟨(sameNames_iff _ _).mp hsame, rfl⟩
  · exact .inl ⟨_, rfl⟩

/-- **Resolving** finds the series of a family, made if it is new, or changes
nothing. -/
theorem resolve_cases (m : Memory) (name : String) (given : Labelling) :
    (∃ fault, m.resolve name given = (.error fault, m))
      ∨ ∃ f, m.families.get? name = some f
        ∧ (∀ label, label ∈ f.labels ↔ label ∈ given.map Prod.fst)
        ∧ m.resolve name given = (.ok ⟨name, given.values f.labels⟩,
            ⟨m.families.adjust name fun f' =>
              f'.ensure (given.values f.labels) (.fresh f'.shape)⟩) := by
  unfold resolve
  cases hf : m.families.get? name with
  | none => exact .inl ⟨_, rfl⟩
  | some f =>
    dsimp only
    split
    · exact .inl ⟨_, rfl⟩
    · rcases seriesOf_cases name f given with ⟨fault, herror⟩ | ⟨hsame, hok⟩
      · rw [herror]
        exact .inl ⟨fault, rfl⟩
      · rw [hok]
        exact .inr ⟨f, rfl, hsame, rfl⟩

/-- **Operating** changes one cell to what the operation makes of it, or changes
nothing and fails. -/
theorem call_cases (m : Memory) (id : SeriesId) (verb : Verb) (args : List Value) :
    (∃ fault, m.call id verb args = (.error fault, m))
      ∨ ∃ f cell argument, m.families.get? id.family = some f ∧ f.cell? id.values = some cell
        ∧ argumentOf f.shape verb args = .ok argument
        ∧ m.call id verb args = ((change f.shape cell verb argument).1,
            m.setCell id (change f.shape cell verb argument).2) := by
  unfold call cell?
  cases hf : m.families.get? id.family with
  | none => exact .inl ⟨_, rfl⟩
  | some f =>
    simp only [bind, Option.bind]
    cases hcell : f.cell? id.values with
    | none => exact .inl ⟨_, rfl⟩
    | some cell =>
      dsimp only
      cases hargument : argumentOf f.shape verb args with
      | error fault => exact .inl ⟨fault, rfl⟩
      | ok argument => exact .inr ⟨f, cell, argument, rfl, hcell, hargument, rfl⟩

/-! ## What is read -/

/-- The families of a store with a cell changed. -/
theorem get?_setCell (m : Memory) (id : SeriesId) (cell : MemoryCell) (name : String) :
    (m.setCell id cell).families.get? name
      = if name = id.family then
          (m.families.get? name).map fun f => f.adjust id.values fun _ => cell
        else m.families.get? name :=
  Table.get?_adjust _ _ _ _

/-- **The rows of a family**: the names of its labels, and the values of its
series. -/
def rows? (m : Memory) (name : String) : Option (List String × List (List String)) :=
  (m.families.get? name).map fun f => (f.labels, f.series.keys)

theorem series_of_rows? {name : String} {labels : List String} {rows : List (List String)}
    (h : m.rows? name = some (labels, rows)) : m.series name = .ok (rows.map labels.zip) := by
  obtain ⟨f, hf, heq⟩ := Option.map_eq_some_iff.mp h
  obtain ⟨rfl, rfl⟩ := Prod.mk.inj heq
  unfold series family
  rw [hf]
  rfl

/-- A new family has no rows. -/
theorem rows?_push {name : String} (hnone : m.families.get? name = none) (help : String)
    (shape : Shape) (labels : List String) (name' : String) :
    rows? ⟨m.families.push name { help, shape, labels }⟩ name'
      = if name' = name then some (labels, []) else m.rows? name' := by
  unfold rows?
  rw [Table.get?_push]
  by_cases h : name' = name
  · rw [if_pos h, if_pos h.symm, h, hnone]
    rfl
  · rw [if_neg h, if_neg (Ne.symm h), Option.or_none]

/-- A changed cell changes no rows. -/
theorem rows?_setCell (m : Memory) (id : SeriesId) (cell : MemoryCell) (name : String) :
    (m.setCell id cell).rows? name = m.rows? name := by
  unfold rows?
  rw [get?_setCell]
  split
  · cases m.families.get? name with
    | none => rfl
    | some f => exact congrArg (fun rows => some (f.labels, rows)) (Table.keys_adjust _ _ _)
  · rfl

/-- **A series that was asked for is a row**, the last one if it is new. -/
theorem rows?_ensure {name : String} {f : Family MemoryCell} (hf : m.families.get? name = some f)
    (values : List String) (name' : String) :
    rows? ⟨m.families.adjust name fun f => f.ensure values (.fresh f.shape)⟩ name'
      = if name' = name then
          some (f.labels, if values ∈ f.series.keys then f.series.keys else f.series.keys ++ [values])
        else m.rows? name' := by
  unfold rows?
  rw [Table.get?_adjust]
  by_cases h : name' = name
  · rw [if_pos h, if_pos h, h, hf]
    show some ((f.ensure values _).labels, (f.ensure values _).series.keys) = _
    rw [Family.labels_ensure]
    unfold Family.ensure
    simp only [Table.has_iff_mem_keys]
    split
    · rfl
    · rw [Table.keys_push]
  · rw [if_neg h, if_neg h]

end Memory

/-- Bounds that are not refused, if there are bounds. -/
def Shape.IsOrdered : Shape → Prop
  | .histogram bounds => Bounds.refusal? bounds = none
  | _ => True

/-- **Registering** in the memory store adds a family, and bounds are in order
then, or changes nothing. -/
theorem Store.register_memory_cases (m : Memory) (name help : String) (shape : Shape)
    (labels : List String) :
    (∃ fault, (Store.memory m).register name help shape labels = (.error fault, .memory m))
      ∨ m.families.get? name = none ∧ shape.IsOrdered
        ∧ (Store.memory m).register name help shape labels
          = (.ok (), .memory ⟨m.families.push name { help, shape, labels }⟩) := by
  have henter (hordered : shape.IsOrdered) :
      (∃ fault, (Store.memory m).enter name help shape labels = (.error fault, .memory m))
        ∨ m.families.get? name = none ∧ shape.IsOrdered
          ∧ (Store.memory m).enter name help shape labels
            = (.ok (), .memory ⟨m.families.push name { help, shape, labels }⟩) := by
    rcases m.register_cases name help shape labels with ⟨fault, herror⟩ | ⟨hnone, hok⟩
    · exact .inl ⟨fault, congrArg (Store.put .memory) herror⟩
    · exact .inr ⟨hnone, hordered, congrArg (Store.put .memory) hok⟩
  cases shape with
  | counter => exact henter trivial
  | gauge => exact henter trivial
  | histogram bounds =>
    unfold Store.register Bounds.check
    dsimp only
    cases hrefusal : Bounds.refusal? bounds with
    | some refusal => exact .inl ⟨_, rfl⟩
    | none => exact henter hrefusal

namespace Session

/-- **The session that a log tells.** Its store is a memory store whose families
have exactly the rows that were resolved in them, and its handles are those of
the resolutions. -/
structure Tracks (s : Session) (m : Memory) (log : ReplyLog) : Prop where
  store : s.store = .memory m
  handles : s.handles = log.resolved.map Resolution.id
  families : ∀ name labels rows, m.rows? name = some (labels, rows) →
    labels.Nodup ∧ (∀ label ∈ ["self", "name"], label ∉ labels)
      ∧ rows = ((log.resolvedIn name).map (·.given.values labels)).eraseDups
  registered : ∀ name help shape labels,
    (.action (.register name help shape labels), .outcome (.ok none)) ∈ log →
    ∃ rows, m.rows? name = some (labels, rows)
  resolved : ∀ r ∈ log.resolved, (r.given.map Prod.fst).Nodup ∧ ∃ labels rows,
    m.rows? r.name = some (labels, rows) ∧ (∀ label, label ∈ labels ↔ label ∈ r.given.map Prod.fst)
      ∧ r.id = ⟨r.name, r.given.values labels⟩

namespace Tracks

variable {s : Session} {m : Memory} {log : ReplyLog}

/-- **One input more.** What was told is still so if the families keep their labels.
What is left is what the input itself registers and resolves, and the rows. -/
theorem extend (h : s.Tracks m log) (m' : Memory) (u : SessionInput) (reply : Reply)
    (hkept : ∀ name labels rows, m.rows? name = some (labels, rows) →
      ∃ rows', m'.rows? name = some (labels, rows'))
    (hfamilies : ∀ name labels rows, m'.rows? name = some (labels, rows) →
      labels.Nodup ∧ (∀ label ∈ ["self", "name"], label ∉ labels)
        ∧ rows = ((ReplyLog.resolvedIn (log ++ [(u, reply)]) name).map
          (·.given.values labels)).eraseDups)
    (hregisters : ∀ name help shape labels,
      (u, reply) = (.action (.register name help shape labels), .outcome (.ok none)) →
      ∃ rows, m'.rows? name = some (labels, rows))
    (hresolves : ∀ r ∈ Resolution.of? (u, reply), (r.given.map Prod.fst).Nodup ∧ ∃ labels rows,
      m'.rows? r.name = some (labels, rows)
        ∧ (∀ label, label ∈ labels ↔ label ∈ r.given.map Prod.fst)
        ∧ r.id = ⟨r.name, r.given.values labels⟩) :
    Tracks ⟨.memory m', s.handles ++ (Resolution.of? (u, reply)).toList.map Resolution.id⟩ m'
      (log ++ [(u, reply)]) := by
  refine ⟨rfl, ?_, hfamilies, fun name help shape labels hmem => ?_, fun r hr => ?_⟩
  · rw [ReplyLog.resolved_concat, List.map_append, h.handles]
  · rcases List.mem_append.mp hmem with hmem | hmem
    · obtain ⟨rows, hin⟩ := h.registered name help shape labels hmem
      exact hkept name labels rows hin
    · exact hregisters name help shape labels (List.mem_singleton.mp hmem).symm
  · rw [ReplyLog.resolved_concat] at hr
    rcases List.mem_append.mp hr with hr | hr
    · obtain ⟨hnodup, labels, rows, hin, hsame, hid⟩ := h.resolved r hr
      obtain ⟨rows', hin'⟩ := hkept r.name labels rows hin
      exact ⟨hnodup, labels, rows', hin', hsame, hid⟩
    · exact hresolves r (Option.mem_toList.mp hr)

/-- **One input more that resolves nothing.** -/
theorem extend_of_none (h : s.Tracks m log) (m' : Memory) {u : SessionInput} {reply : Reply}
    (hnone : Resolution.of? (u, reply) = none)
    (hkept : ∀ name labels rows, m.rows? name = some (labels, rows) →
      m'.rows? name = some (labels, rows))
    (hfamilies : ∀ name labels rows, m'.rows? name = some (labels, rows) →
      labels.Nodup ∧ (∀ label ∈ ["self", "name"], label ∉ labels)
        ∧ rows = ((log.resolvedIn name).map (·.given.values labels)).eraseDups)
    (hregisters : ∀ name help shape labels,
      (u, reply) = (.action (.register name help shape labels), .outcome (.ok none)) →
      ∃ rows, m'.rows? name = some (labels, rows)) :
    Tracks ⟨.memory m', s.handles⟩ m' (log ++ [(u, reply)]) := by
  have htracks := h.extend m' u reply (fun name labels rows hin => ⟨rows, hkept name labels rows hin⟩)
    (fun name labels rows hin => by
      rw [ReplyLog.resolvedIn_concat, hnone, Option.toList_none, List.filter_nil, List.append_nil]
      exact hfamilies name labels rows hin)
    hregisters
    (fun r hr => by
      rw [hnone] at hr
      cases hr)
  rw [hnone, Option.toList_none, List.map_nil, List.append_nil] at htracks
  exact htracks

/-- An input that resolves and registers nothing, and keeps the rows. -/
theorem keep (h : s.Tracks m log) {m' : Memory} (hrows : ∀ name, m'.rows? name = m.rows? name)
    {u : SessionInput} {reply : Reply} (hnone : Resolution.of? (u, reply) = none)
    (hregisters : ∀ name help shape labels,
      (u, reply) ≠ (.action (.register name help shape labels), .outcome (.ok none))) :
    Tracks ⟨.memory m', s.handles⟩ m' (log ++ [(u, reply)]) :=
  h.extend_of_none m' hnone (fun name _ _ hin => (hrows name).trans hin)
    (fun name labels rows hin => h.families name labels rows ((hrows name).symm.trans hin))
    fun name help shape labels heq => absurd heq (hregisters name help shape labels)

/-- **Registering keeps track**: a new family has no rows, as nothing was
resolved under its name. -/
theorem register (h : s.Tracks m log) {name help : String} {shape : Shape} {labels : List String}
    (hplain : (SessionInput.action (.register name help shape labels)).IsPlain) :
    ∃ m', (s.take (.action (.register name help shape labels))).2.Tracks m'
      (log ++ [(.action (.register name help shape labels),
        (s.take (.action (.register name help shape labels))).1)]) := by
  obtain ⟨store, handles⟩ := s
  obtain rfl : store = .memory m := h.store
  rcases Store.register_memory_cases m name help shape labels with
    ⟨fault, herror⟩ | ⟨hnone, -, hok⟩
  · have hstep : Session.take ⟨.memory m, handles⟩ (.action (.register name help shape labels))
        = (.outcome (.error fault), ⟨.memory m, handles⟩) := by
      simp only [take, step, settle, herror]
      rfl
    rw [hstep]
    exact ⟨m, h.keep (fun _ => rfl) rfl fun _ _ _ _ heq => by cases heq⟩
  · have hstep : Session.take ⟨.memory m, handles⟩ (.action (.register name help shape labels))
        = (.outcome (.ok none),
          ⟨.memory ⟨m.families.push name { help, shape, labels }⟩, handles⟩) := by
      simp only [take, step, settle, hok]
      rfl
    have hrows := Memory.rows?_push hnone help shape labels
    have hnew : m.rows? name = none := congrArg (Option.map _) hnone
    have hnothing : log.resolvedIn name = [] := by
      rw [ReplyLog.resolvedIn, List.filter_eq_nil_iff]
      intro r hr hname
      obtain ⟨-, labels', rows, hin, -⟩ := h.resolved r hr
      rw [of_decide_eq_true hname, hnew] at hin
      cases hin
    rw [hstep]
    refine ⟨_, h.extend_of_none _ rfl (fun name' labels' rows hin => ?_)
      (fun name' labels' rows hin => ?_) fun name' help' shape' labels' heq => ?_⟩
    · rw [hrows, if_neg]
      · exact hin
      · rintro rfl
        rw [hnew] at hin
        cases hin
    · rw [hrows] at hin
      split at hin
      · next heq =>
        obtain ⟨rfl, rfl⟩ := Prod.mk.inj (Option.some.inj hin)
        rw [heq, hnothing]
        exact ⟨hplain.1, hplain.2, rfl⟩
      · exact h.families name' labels' rows hin
    · cases heq
      exact ⟨[], by rw [hrows, if_pos rfl]⟩

/-- **Resolving keeps track**: what is resolved is a row, the last one if it is
new. -/
theorem resolve (h : s.Tracks m log) {name : String} {given : Labelling}
    (hplain : (SessionInput.action (.resolve name given)).IsPlain) :
    ∃ m', (s.take (.action (.resolve name given))).2.Tracks m'
      (log ++ [(.action (.resolve name given), (s.take (.action (.resolve name given))).1)]) := by
  obtain ⟨store, handles⟩ := s
  obtain rfl : store = .memory m := h.store
  rcases m.resolve_cases name given with ⟨fault, herror⟩ | ⟨f, hf, hsame, hok⟩
  · have hstep : Session.take ⟨.memory m, handles⟩ (.action (.resolve name given))
        = (.outcome (.error fault), ⟨.memory m, handles⟩) := by
      simp only [take, step, Store.resolve, herror, Store.put]
    rw [hstep]
    exact ⟨m, h.keep (fun _ => rfl) rfl fun _ _ _ _ heq => by cases heq⟩
  · let id : SeriesId := ⟨name, given.values f.labels⟩
    have hstep : Session.take ⟨.memory m, handles⟩ (.action (.resolve name given))
        = (.outcome (.ok (some id)),
          ⟨.memory ⟨m.families.adjust name fun f' => f'.ensure id.values (.fresh f'.shape)⟩,
            handles ++ [id]⟩) := by
      simp only [take, step, Store.resolve, hok, Store.put]
      rfl
    have hrows := Memory.rows?_ensure hf id.values
    have hname : m.rows? name = some (f.labels, f.series.keys) := congrArg (Option.map _) hf
    rw [hstep]
    refine ⟨_, h.extend _ (.action (.resolve name given)) (.outcome (.ok (some id)))
      (fun name' labels' rows hin => ?_) (fun name' labels' rows hin => ?_)
      (fun _ _ _ _ heq => (by cases heq)) fun r hr => ?_⟩
    · rw [hrows]
      split
      · next heq =>
        rw [heq, hname] at hin
        obtain ⟨rfl, -⟩ := Prod.mk.inj (Option.some.inj hin)
        exact ⟨_, rfl⟩
      · exact ⟨rows, hin⟩
    · have hresolved : ReplyLog.resolvedIn
          (log ++ [(.action (.resolve name given), .outcome (.ok (some id)))]) name'
            = log.resolvedIn name' ++ [Resolution.mk name given id].filter (·.name = name') :=
        ReplyLog.resolvedIn_concat _ _ _
      rw [hrows] at hin
      rw [hresolved]
      by_cases heq : name' = name
      · rw [if_pos heq] at hin
        obtain ⟨rfl, rfl⟩ := Prod.mk.inj (Option.some.inj hin)
        obtain ⟨hnodup, hfree, hkeys⟩ := h.families name _ _ hname
        refine ⟨hnodup, hfree, ?_⟩
        rw [List.filter_cons_of_pos (by simpa using heq.symm), List.filter_nil, List.map_append,
          List.map_singleton, eraseDups_concat, heq, ← hkeys]
      · rw [if_neg heq] at hin
        rw [List.filter_cons_of_neg (by simpa using Ne.symm heq), List.filter_nil, List.append_nil]
        exact h.families name' labels' rows hin
    · obtain rfl : r = ⟨name, given, id⟩ := (Option.some.inj hr).symm
      exact ⟨hplain, f.labels, _, by rw [hrows, if_pos rfl], hsame, rfl⟩

/-- **Operating keeps track**: no row changes. -/
theorem operate (h : s.Tracks m log) (handle : Nat) (verb : Verb) (argument : Option Value) :
    ∃ m', (s.take (.action (.operate handle verb argument))).2.Tracks m'
      (log ++ [(.action (.operate handle verb argument),
        (s.take (.action (.operate handle verb argument))).1)]) := by
  obtain ⟨store, handles⟩ := s
  obtain rfl : store = .memory m := h.store
  cases hid : handles[handle]? with
  | none =>
    have hstep : Session.take ⟨.memory m, handles⟩ (.action (.operate handle verb argument))
        = (.outcome (.error .missingKey), ⟨.memory m, handles⟩) := by
      simp only [take, step, hid]
    rw [hstep]
    exact ⟨m, h.keep (fun _ => rfl) rfl fun _ _ _ _ heq => by cases heq⟩
  | some id =>
    have hstep : Session.take ⟨.memory m, handles⟩ (.action (.operate handle verb argument))
        = (.outcome ((m.call id verb argument.toList).1.map fun _ => none),
          ⟨.memory (m.call id verb argument.toList).2, handles⟩) := by
      simp only [take, step, hid]
      rfl
    rw [hstep]
    refine ⟨_, h.keep (fun name => ?_) rfl fun _ _ _ _ heq => by cases heq⟩
    rcases m.call_cases id verb argument.toList with
      ⟨fault, herror⟩ | ⟨f, cell, a, -, -, -, hchanged⟩
    · rw [herror]
    · rw [hchanged]
      exact Memory.rows?_setCell _ _ _ _

/-- **One input keeps track.** -/
theorem take (h : s.Tracks m log) {u : SessionInput} (hplain : u.IsPlain) :
    ∃ m', (s.take u).2.Tracks m' (log ++ [(u, (s.take u).1)]) := by
  cases u with
  | ask query =>
    obtain ⟨store, handles⟩ := s
    obtain rfl : store = .memory m := h.store
    exact ⟨m, h.keep (fun _ => rfl) rfl fun _ _ _ _ heq => by cases heq⟩
  | action action =>
    cases action with
    | register name help shape labels => exact h.register hplain
    | resolve name given => exact h.resolve hplain
    | operate handle verb argument => exact h.operate handle verb argument

/-- **Any inputs keep track.** -/
theorem takeAll (h : s.Tracks m log) {us : List SessionInput} (hplain : ∀ u ∈ us, u.IsPlain) :
    ∃ m', (s.takeAll us).2.Tracks m' (log ++ (s.takeAll us).1) := by
  induction us generalizing s m log with
  | nil => exact ⟨m, by rw [Session.takeAll, List.append_nil]; exact h⟩
  | cons u us ih =>
    obtain ⟨m', h'⟩ := h.take (hplain u List.mem_cons_self)
    obtain ⟨m'', h''⟩ := ih h' fun u hu => hplain u (List.mem_cons_of_mem _ hu)
    rw [List.append_assoc] at h''
    exact ⟨m'', h''⟩

/-! ## What the log says of the session -/

/-- The families of a tracked session have labels of their own. -/
theorem free (h : s.Tracks m log) {name : String} {f : Family MemoryCell}
    (hf : m.families.get? name = some f) : ∀ label ∈ ["self", "name"], label ∉ f.labels :=
  (h.families name f.labels f.series.keys (congrArg (Option.map _) hf)).2.1

end Tracks

end Session

end QuicTelemetry
