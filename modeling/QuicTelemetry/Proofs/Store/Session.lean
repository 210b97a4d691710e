import QuicTelemetry.Store

/-!
# Sessions

A caller uses a store step after step: it registers families, resolves series
and operates on the handles it was given. A `SessionAction` is one such step, and a
`Session` a store with the handles that were given out so far, oldest first; an
operation names its handle by its place among them.

Stores of different kinds word their failures differently. What a caller
catches is the `Fault.kind`.
-/

namespace QuicTelemetry

/-! ## Kinds of faults -/

/-- **What a caller can catch.** -/
inductive FaultKind where
  /-- A value of a wrong kind. -/
  | type
  /-- An operation that is not there. -/
  | attribute
  /-- A value that is refused. -/
  | value
  /-- A number beyond the range. -/
  | overflow
  /-- A key that is not there. -/
  | key
  /-- A task that cannot go on. -/
  | runtime
  /-- An instrument that is refused. -/
  | instrument
  /-- A document that is not well formed. -/
  | document
  /-- A place that is not there. -/
  | index
  /-- A directory. -/
  | directory
  /-- What the operating system refuses. -/
  | system
  /-- A family that is refused. -/
  | schema
  /-- A stack that is full. -/
  | recursion
  /-- What the input states. -/
  | stated (kind : String)
  deriving DecidableEq, Repr

/-- The kind of a fault. -/
def Fault.kind : Fault → FaultKind
  | .mistyped | .notInDimension .. | .isHistogram _ | .isNoHistogram _ => .type
  | .absent => .attribute
  | .malformed | .negativeIncrement | .wrongLabels .. | .takesNoLabels .. | .labelsMissing
  | .labelsDiffer | .unknownBackend .. | .noSuchBackend _ | .badNamespace _
  | .unknownFormatter .. => .value
  | .overflow => .overflow
  | .beyondCalendar => .system
  | .missingKey | .unknownMetric _ | .notRegistered _ => .key
  | .broken => .runtime
  | .badInstrument => .instrument
  | .unreadable => .document
  | .emptyText => .index
  | .isDirectory => .directory
  | .stated kind _ => .stated kind
  | .schema .. => .schema
  | .unwritable .tooLong => .value
  | .unwritable .tooDeep => .recursion
  | .unwritable .outside => .index
  | .unwritable (.raised kind) => .stated kind

/-! ## Actions -/

/-- **A step of a caller.** -/
inductive SessionAction where
  /-- Registers a family. -/
  | register (name help : String) (shape : Shape) (labels : List String)
  /-- Resolves a series. -/
  | resolve (name : String) (given : Labelling)
  /-- Operates on a handle, with an argument or without one. -/
  | operate (handle : Nat) (verb : Verb) (argument : Option Value)

/-- Whether an action registers a family. -/
def SessionAction.registers : SessionAction → Bool
  | .register .. => true
  | _ => false

/-- Whether an argument is in the range of binary64, if it is an amount. -/
def Value.InRange (v : Value) : Prop :=
  ∀ a, Amount.ofValue? v = some a → ∃ x, a.toReal = .ok x

/-- **An action with counters and gauges.** No label name comes twice, a family
has no label that the operations take for themselves, and amounts are in the
range. -/
def SessionAction.IsScalar : SessionAction → Prop
  | .register _ _ shape labels =>
    shape.isHistogram = false ∧ labels.Nodup ∧ ∀ name ∈ ["self", "name"], name ∉ labels
  | .resolve _ given => (given.map Prod.fst).Nodup
  | .operate _ _ argument => ∀ v ∈ argument, v.InRange

/-! ## Sessions -/

/-- **A store and the handles it has given out.** -/
structure Session where
  /-- The store. -/
  store : Store
  /-- The handles, oldest first. -/
  handles : List SeriesId := []

/-- What comes of an action: nothing but success, or a series. -/
abbrev Outcome := Except Fault (Option SeriesId)

namespace Session

/-- The session with another store. -/
def settle (s : Session) (result : Except Fault Unit × Store) : Outcome × Session :=
  (result.1.map fun _ => none, { s with store := result.2 })

/-- **One action.** A handle that was not given out stands for nothing. -/
def step (s : Session) : SessionAction → Outcome × Session
  | .register name help shape labels => s.settle (s.store.register name help shape labels)
  | .resolve name given =>
    match s.store.resolve name given with
    | (.ok id, store) => (.ok (some id), ⟨store, s.handles ++ [id]⟩)
    | (.error fault, store) => (.error fault, { s with store })
  | .operate handle verb argument =>
    match s.handles[handle]? with
    | none => (.error .missingKey, s)
    | some id => s.settle (s.store.call id verb argument.toList)

/-- The session after some actions. -/
def after (s : Session) (actions : List SessionAction) : Session := actions.foldl
    (fun s action => (s.step action).2) s

/-- **A session that accepts every family** it is to register. -/
def Accepts : Session → List SessionAction → Prop
  | _, [] => True
  | s, action :: actions =>
    (action.registers = true → (s.step action).1.isOk = true) ∧ Accepts (s.step action).2 actions

instance decidableAccepts : ∀ (s : Session) (actions : List SessionAction), Decidable
    (s.Accepts actions)
  | _, [] => .isTrue trivial
  | s, action :: actions =>
    have := decidableAccepts (s.step action).2 actions
    inferInstanceAs (Decidable (_ ∧ _))

/-- What accepts some actions accepts the first of them. -/
theorem Accepts.take {s : Session} {actions : List SessionAction} (h : s.Accepts actions)
    (n : Nat) :
    s.Accepts (actions.take n) := by
  induction actions generalizing s n with
  | nil =>
    rw [List.take_nil]
    exact h
  | cons action actions ih =>
    cases n with
    | zero => exact trivial
    | succ n => exact ⟨h.1, ih h.2 n⟩

end Session

end QuicTelemetry
