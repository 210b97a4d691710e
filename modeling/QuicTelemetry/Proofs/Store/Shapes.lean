import QuicTelemetry.Proofs.Store.Chronicle
import QuicTelemetry.Proofs.Store.Histograms
import QuicTelemetry.Proofs.Store.Requests

/-!
# Families keep their shapes

A family that is registered stays, and stays of its shape, whatever is registered,
resolved and operated on next, in stores of every kind. So **a session goes on with every
action** (`Session.continues_after`): the handles that were given out stay, and are of the
shapes they were of.
-/

namespace QuicTelemetry

/-- The registration of a family of some shape. -/
def Shape.registration (shape : Shape) (name help : String) (labels : List String) :
    Registration where
  name := name
  help := help
  kind := match shape with
    | .counter => .counter
    | .gauge => .gauge
    | .histogram bounds => .histogram (.list (bounds.map .real))
  labels := labels

/-- **To register a family is an action at a store.** A session has the shape already, and
the action reads the bounds from the values it is given; bounds that are accepted are read
as they are. -/
theorem Store.register_eq_perform (store : Store) (name help : String) (shape : Shape)
    (labels : List String) : store.register name help shape labels
      = store.perform (.register (shape.registration name help labels)) := by
  cases shape with
  | counter | gauge => rfl
  | histogram bounds =>
    have hshape : (Shape.registration (.histogram bounds) name help labels).shape
        = (Bounds.check name bounds).map .histogram :=
      congrArg (Except.map Shape.histogram) (Bounds.ofValue_reals name bounds)
    cases hcheck : Bounds.check name bounds with
    | error fault =>
      rw [hcheck] at hshape
      rw [perform_of_shape_error hshape]
      unfold register
      dsimp only
      rw [hcheck]
    | ok bounds' =>
      rw [hcheck] at hshape
      rw [perform_of_shape hshape]
      unfold register
      dsimp only
      rw [hcheck]
      rfl

/-- A registration that is refused changes nothing; another one enters the family. -/
theorem Store.register_cases (store : Store) (name help : String) (shape : Shape)
    (labels : List String) :
    (∃ fault, store.register name help shape labels = (.error fault, store))
      ∨ ∃ shape', store.register name help shape labels = store.enter name help shape' labels := by
  rw [register_eq_perform]
  exact store.perform_register_cases _

namespace Metered

variable {M : Type}

/-- The shape of a registered family. -/
def shape? (m : Metered M) (name : String) : Option Shape :=
  (m.families.get? name).map fun f => f.family.shape

/-- To resolve a series changes no shape. -/
theorem shape?_resolve (m : Metered M) (name : String) (given : Labelling) (other : String) :
    (m.resolve name given).2.shape? other = m.shape? other := by
  unfold resolve
  split
  · rfl
  · split
    · rfl
    · split
      · rfl
      · exact Table.map_get?_adjust _ _ _ fun _ => Family.shape_ensure ..

variable [Meter M]

/-- To operate on a handle changes no shape. -/
theorem shape?_call (m : Metered M) (id : SeriesId) (verb : Verb) (args : List Value)
    (other : String) : (m.call id verb args).2.shape? other = m.shape? other := by
  have hvalue (instrument : Instrument) (attributes : Attributes) (value : Except Fault Binary64) :
      (m.forwardValue id instrument attributes value).2.shape? other = m.shape? other := by
    unfold forwardValue
    split
    · rfl
    · exact Table.map_get?_adjust _ _ _ fun _ => rfl
  unfold call
  split
  · rfl
  · dsimp only
    split
    · rfl
    · split
      · rfl
      · split
        · split
          · rfl
          · split <;> rfl
        · rfl
        all_goals exact hvalue ..

/-- A family that is registered keeps its shape: what is entered later stands behind it. -/
theorem shape?_register {m : Metered M} {other : String} {shape' : Shape}
    (h : m.shape? other = some shape') (name help : String) (shape : Shape) (labels : List String) :
    (m.register name help shape labels).2.shape? other = some shape' := by
  obtain ⟨f, hf, hshape⟩ := Option.map_eq_some_iff.mp h
  unfold register
  split
  · exact h
  · dsimp only
    split
    · exact h
    · show ((m.families.push name _).get? other).map _ = _
      rw [Table.get?_push, hf]
      exact congrArg some hshape

end Metered

namespace Store

/-- To resolve a series changes no shape, for a family is changed only by a series more. -/
theorem shape?_resolve (store : Store) (name : String) (given : Labelling) (other : String) :
    (store.resolve name given).2.shape? other = store.shape? other := by
  cases store with
  | memory m =>
    show (Store.memory (m.resolve name given).2).shape? other = _
    rcases m.resolve_cases name given with ⟨fault, heq⟩ | ⟨f, -, -, heq⟩ <;> rw [heq]
    exact Table.map_get?_adjust _ _ _ fun _ => Family.shape_ensure ..
  | exposition e =>
    show (Store.exposition (e.resolve name given).2).shape? other = _
    rcases e.resolve_cases name given with ⟨fault, heq⟩ | ⟨f, id, -, heq⟩ <;> rw [heq]
    exact Table.map_get?_adjust _ _ _ fun _ => Family.shape_ensure ..
  | recorder m => exact m.shape?_resolve name given other
  | pipeline m => exact m.shape?_resolve name given other

/-- To operate on a handle changes no shape, for a cell is all that is written. -/
theorem shape?_call (store : Store) (id : SeriesId) (verb : Verb) (args : List Value)
    (other : String) : (store.call id verb args).2.shape? other = store.shape? other := by
  cases store with
  | memory m =>
    show (Store.memory (m.call id verb args).2).shape? other = _
    rcases m.call_cases id verb args with ⟨fault, heq⟩ | ⟨f, cell, argument, -, -, -, heq⟩ <;> rw [heq]
    exact Table.map_get?_adjust _ _ _ fun _ => rfl
  | exposition e =>
    show (Store.exposition (e.call id verb args).2).shape? other = _
    rcases e.call_cases id verb args with heq | ⟨f, cell, argument, -, -, heq⟩ <;> rw [heq]
    exact Table.map_get?_adjust _ _ _ fun _ => rfl
  | recorder m => exact m.shape?_call id verb args other
  | pipeline m => exact m.shape?_call id verb args other

/-- A family that is registered keeps its shape. -/
theorem shape?_register {store : Store} {other : String} {shape' : Shape}
    (h : store.shape? other = some shape') (name help : String) (shape : Shape)
    (labels : List String) : (store.register name help shape labels).2.shape? other = some shape' := by
  have hpush {Cell : Type} {families : Table String (Family Cell)} {family : Family Cell}
      (h : (families.get? other).map Family.shape = some shape') :
      ((families.push name family).get? other).map Family.shape = some shape' := by
    obtain ⟨f, hf, hshape⟩ := Option.map_eq_some_iff.mp h
    rw [Table.get?_push, hf]
    exact congrArg some hshape
  rcases store.register_cases name help shape labels with ⟨fault, heq⟩ | ⟨shape'', heq⟩
  · rw [heq]
    exact h
  · rw [heq]
    cases store with
    | memory m =>
      show (Store.memory (m.register name help shape'' labels).2).shape? other = _
      rcases m.register_cases name help shape'' labels with ⟨fault, heq⟩ | ⟨-, heq⟩ <;> rw [heq]
      · exact h
      · exact hpush h
    | exposition e =>
      show (Store.exposition (e.register name help shape'' labels).2).shape? other = _
      rcases e.register_cases name help shape'' labels with ⟨fault, claimed, heq⟩ | ⟨-, heq⟩ <;>
        rw [heq]
      · exact h
      · exact hpush h
    | recorder m => exact m.shape?_register h name help shape'' labels
    | pipeline m => exact m.shape?_register h name help shape'' labels

end Store

namespace Session

/-- The store after an action. -/
theorem store_step (s : Session) (action : SessionAction) :
    (s.step action).2.store = match action with
    | .register name help shape labels => (s.store.register name help shape labels).2
    | .resolve name given => (s.store.resolve name given).2
    | .operate handle verb argument => match s.handles[handle]? with
      | none => s.store
      | some id => (s.store.call id verb argument.toList).2 := by
  cases action with
  | register => rfl
  | resolve name given =>
    unfold step
    dsimp only
    split <;> next heq => rw [heq]
  | operate handle verb argument =>
    unfold step
    dsimp only
    cases s.handles[handle]? <;> rfl

/-- **A session goes on** with every action: handles stay, and families keep their shapes.
Handles are given out by number, and a new one comes last, so the numbers stay good. -/
theorem continues_step (s : Session) (action : SessionAction) : s.Continues (s.step action).2 := by
  constructor
  · cases action with
    | register => exact List.prefix_rfl
    | resolve name given =>
      unfold step
      dsimp only
      split
      · exact List.prefix_append _ _
      · exact List.prefix_rfl
    | operate handle verb argument =>
      unfold step
      dsimp only
      split <;> exact List.prefix_rfl
  · intro name shape h
    rw [store_step]
    cases action with
    | register name' help shape' labels => exact Store.shape?_register h name' help shape' labels
    | resolve name' given => exact (s.store.shape?_resolve name' given name).trans h
    | operate handle verb argument =>
      dsimp only
      split
      · exact h
      · exact (s.store.shape?_call _ _ _ name).trans h

/-- A session goes on with any number of actions, by induction on them. -/
theorem continues_after (s : Session) (actions : List SessionAction) : s.Continues
    (s.after actions) := by
  induction actions generalizing s with
  | nil => exact .refl s
  | cons action actions ih => exact (s.continues_step action).trans (ih _)

end Session

end QuicTelemetry
