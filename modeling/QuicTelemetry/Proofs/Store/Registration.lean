import Mathlib.Data.List.Nodup
import QuicTelemetry.Proofs.Lists
import QuicTelemetry.Proofs.Store.Series
import QuicTelemetry.Store

/-!
# Registering families

A store is used by whoever has it: they register families, resolve series,
operate on handles and collect. What the calls returned tells the names that are
taken. **A name is taken by the first call that comes as far as creating a
family of it**, and that is a call that returned the family unless the creation
was refused (`NewStore.names_afterwards`).

The refused creations are the ones to look at. Bounds that are not in order are
refused before the name is taken, and leave no trace. A registry refuses labels
it reserves and names it exposes already, a meter names that no instrument may
have; those find the name taken already, by themselves. So the names are those
of the returned families exactly if no creation was refused, and a name whose
creation was refused is lost, although no family has it and even if what was
wrong is put right (`NewStore.names_after_refusal`).
-/

namespace QuicTelemetry

/-! ## Actions at a store -/

/-- **What a family is to be of.** The buckets of a histogram may be any
value. -/
inductive FamilyKind where
  /-- A counter. -/
  | counter
  /-- A gauge. -/
  | gauge
  /-- A histogram over these buckets. -/
  | histogram (buckets : Value)

/-- **A call that registers a family.** -/
structure Registration where
  /-- The name of the family. -/
  name : String
  /-- Its help text. -/
  help : String := ""
  /-- Its kind. -/
  kind : FamilyKind
  /-- The names of its labels. -/
  labels : List String := []

/-- The shape that is registered, unless the buckets are not in order. -/
def Registration.shape (r : Registration) : Except Fault Shape :=
  match r.kind with
  | .counter => .ok .counter
  | .gauge => .ok .gauge
  | .histogram buckets => (Bounds.ofValue r.name buckets).map .histogram

/-- **A use of a store** by anyone who has it or a handle of it. -/
inductive StoreAction where
  /-- Registers a family. -/
  | register (r : Registration)
  /-- Resolves a series. -/
  | resolve (name : String) (given : Labelling)
  /-- Operates on the handle of a series. -/
  | operate (id : SeriesId) (verb : Verb) (args : List Value)
  /-- Collects what was aggregated. -/
  | collect

/-- What came of an action: nothing but success is told. -/
abbrev Receipt := StoreAction × Except Fault Unit

/-- The four kinds of stores. -/
inductive StoreKind where
  /-- In memory. -/
  | memory
  /-- On a registry. -/
  | exposition
  /-- On a meter that writes down. -/
  | recorder
  /-- On a meter that aggregates. -/
  | pipeline
  deriving DecidableEq, Repr

/-- Whether stores of a kind create every family they have a free name for. -/
def StoreKind.createsAll : StoreKind → Bool
  | .memory | .recorder => true
  | .exposition | .pipeline => false

namespace Store

/-- Collects what was aggregated; only a pipeline is changed by that. -/
def collect : Store → Except Fault Unit × Store
  | .pipeline m =>
    (m.meter.collect.1.map fun _ => (), .pipeline { m with meter := m.meter.collect.2 })
  | store => (.ok (), store)

/-- **One action.** -/
def perform (store : Store) : StoreAction → Except Fault Unit × Store
  | .register r =>
    match r.shape with
    | .error fault => (.error fault, store)
    | .ok shape => store.register r.name r.help shape r.labels
  | .resolve name given =>
    ((store.resolve name given).1.map fun _ => (), (store.resolve name given).2)
  | .operate id verb args => store.call id verb args
  | .collect => store.collect

/-- The store after some actions, and what came of them. -/
def performAll (store : Store) : List StoreAction → List Receipt × Store
  | [] => ([], store)
  | e :: es =>
    ((e, (store.perform e).1) :: ((store.perform e).2.performAll es).1,
      ((store.perform e).2.performAll es).2)

theorem performAll_cons (s : Store) (e : StoreAction) (es : List StoreAction) :
    s.performAll (e :: es)
      = ((e, (s.perform e).1) :: ((s.perform e).2.performAll es).1,
        ((s.perform e).2.performAll es).2) := rfl

/-- The label names of a registered family. -/
def labels? (store : Store) (name : String) : Option (List String) :=
  match store with
  | .memory m => (m.families.get? name).map Family.labels
  | .exposition e => (e.families.get? name).map Family.labels
  | .recorder m => (m.families.get? name).map fun f => f.family.labels
  | .pipeline m => (m.families.get? name).map fun f => f.family.labels

/-- The kind of a store. -/
def kind : Store → StoreKind
  | .memory _ => .memory
  | .exposition _ => .exposition
  | .recorder _ => .recorder
  | .pipeline _ => .pipeline

/-! ## What other actions leave alone -/

/-- **The same families are registered**: under the same names and with the same
labels, in a store of the same kind. -/
structure SameFamilies (s s' : Store) : Prop where
  /-- The names are the same. -/
  names : s'.names = s.names
  /-- Every family has the same label names. -/
  labels : ∀ name, s'.labels? name = s.labels? name
  /-- The kind is the same. -/
  kind : s'.kind = s.kind

theorem SameFamilies.refl (s : Store) : s.SameFamilies s := ⟨rfl, fun _ => rfl, rfl⟩

end Store

theorem Memory.sameFamilies_resolve (m : Memory) (name : String) (given : Labelling) :
    (Store.memory m).SameFamilies (.memory (m.resolve name given).2) := by
  unfold Memory.resolve
  cases m.families.get? name with
  | none => exact .refl _
  | some family =>
    dsimp only
    split
    · exact .refl _
    · split
      · exact .refl _
      · exact ⟨Table.keys_adjust .., fun _ =>
          Table.map_get?_adjust _ _ _ fun _ => Family.labels_ensure .., rfl⟩

theorem Memory.sameFamilies_call (m : Memory) (id : SeriesId) (verb : Verb) (args : List Value) :
    (Store.memory m).SameFamilies (.memory (m.call id verb args).2) := by
  unfold Memory.call
  split
  · split
    · exact .refl _
    · exact ⟨Table.keys_adjust .., fun _ => Table.map_get?_adjust _ _ _ fun _ => rfl, rfl⟩
  · exact .refl _

theorem Exposition.sameFamilies_setCell (e : Exposition) (id : SeriesId) (cell : ExposedCell) :
    (Store.exposition e).SameFamilies (.exposition (e.setCell id cell)) :=
  ⟨rfl, fun _ => Table.map_get?_adjust _ _ _ fun _ => rfl, rfl⟩

theorem Exposition.sameFamilies_resolve (e : Exposition) (name : String) (given : Labelling) :
    (Store.exposition e).SameFamilies (.exposition (e.resolve name given).2) := by
  unfold Exposition.resolve
  cases e.families.get? name with
  | none => exact .refl _
  | some family =>
    dsimp only
    split
    · exact .refl _
    · split
      · exact .refl _
      · exact ⟨rfl, fun _ => Table.map_get?_adjust _ _ _ fun _ => Family.labels_ensure .., rfl⟩

theorem Exposition.sameFamilies_call (e : Exposition) (id : SeriesId) (verb : Verb)
    (args : List Value) : (Store.exposition e).SameFamilies (.exposition (e.call id verb args).2) := by
  unfold Exposition.call
  split
  · split
    · exact .refl _
    · dsimp only
      split
      · exact .refl _
      · split
        · exact sameFamilies_setCell ..
        · split <;> exact sameFamilies_setCell ..
  · exact .refl _

namespace Metered

variable {M : Type}

/-- **A meter and running values are all that changes.** -/
structure SameFamilies (m m' : Metered M) : Prop where
  /-- The names are the same. -/
  claimed : m'.claimed = m.claimed
  /-- Every family has the same label names. -/
  labels : ∀ name, (m'.families.get? name).map (fun f => f.family.labels)
    = (m.families.get? name).map fun f => f.family.labels

theorem SameFamilies.refl (m : Metered M) : m.SameFamilies m := ⟨rfl, fun _ => rfl⟩

theorem sameFamilies_resolve (m : Metered M) (name : String) (given : Labelling) :
    m.SameFamilies (m.resolve name given).2 := by
  unfold Metered.resolve
  cases m.families.get? name with
  | none => exact .refl _
  | some f =>
    dsimp only
    split
    · exact .refl _
    · split
      · exact .refl _
      · exact ⟨rfl, fun _ => Table.map_get?_adjust _ _ _ fun _ => Family.labels_ensure ..⟩

variable [Meter M]

theorem sameFamilies_forward (m : Metered M) (instrument : Instrument) (amount : Value)
    (attributes : Attributes) : m.SameFamilies (m.forward instrument amount attributes).2 :=
  ⟨rfl, fun _ => rfl⟩

theorem sameFamilies_forwardValue (m : Metered M) (id : SeriesId) (instrument : Instrument)
    (attributes : Attributes) (value : Except Fault Binary64) :
    m.SameFamilies (m.forwardValue id instrument attributes value).2 := by
  unfold forwardValue
  split
  · exact .refl _
  · exact ⟨rfl, fun _ => Table.map_get?_adjust _ _ _ fun _ => rfl⟩

theorem sameFamilies_call (m : Metered M) (id : SeriesId) (verb : Verb) (args : List Value) :
    m.SameFamilies (m.call id verb args).2 := by
  unfold Metered.call
  split
  · exact .refl _
  · dsimp only
    split
    · exact .refl _
    · split
      · exact .refl _
      · split
        · split
          · exact .refl _
          · split
            · exact .refl _
            · exact sameFamilies_forward ..
        · exact sameFamilies_forward ..
        all_goals exact sameFamilies_forwardValue ..

end Metered

namespace Store

theorem SameFamilies.recorder {m m' : Metered Recorder} (h : m.SameFamilies m') :
    (Store.recorder m).SameFamilies (.recorder m') := ⟨h.claimed, h.labels, rfl⟩

theorem SameFamilies.pipeline {m m' : Metered Pipeline} (h : m.SameFamilies m') :
    (Store.pipeline m).SameFamilies (.pipeline m') := ⟨h.claimed, h.labels, rfl⟩

/-- **Resolving registers nothing.** -/
theorem sameFamilies_resolve (s : Store) (name : String) (given : Labelling) :
    s.SameFamilies (s.resolve name given).2 := by
  cases s with
  | memory m => exact m.sameFamilies_resolve name given
  | exposition e => exact e.sameFamilies_resolve name given
  | recorder m => exact .recorder (m.sameFamilies_resolve name given)
  | pipeline m => exact .pipeline (m.sameFamilies_resolve name given)

/-- **Operating registers nothing.** -/
theorem sameFamilies_call (s : Store) (id : SeriesId) (verb : Verb) (args : List Value) :
    s.SameFamilies (s.call id verb args).2 := by
  cases s with
  | memory m => exact m.sameFamilies_call id verb args
  | exposition e => exact e.sameFamilies_call id verb args
  | recorder m => exact .recorder (m.sameFamilies_call id verb args)
  | pipeline m => exact .pipeline (m.sameFamilies_call id verb args)

/-- **Collecting registers nothing.** -/
theorem sameFamilies_collect (s : Store) : s.SameFamilies s.collect.2 := by
  cases s with
  | memory m => exact .refl _
  | exposition e => exact .refl _
  | recorder m => exact .refl _
  | pipeline m => exact ⟨rfl, fun _ => rfl, rfl⟩

end Store

/-! ## What a registration does to the names -/

/-- Whether a fault says that a name is taken. -/
def Fault.isTaken : Fault → Bool
  | .schema _ .taken => true
  | _ => false

/-- The name of the family that a call returned, if it did. -/
def Receipt.made? : Receipt → Option String
  | (.register r, .ok ()) => some r.name
  | _ => none

/-- **The name of a family whose creation was refused**, if that is what came of
an action: the buckets were in order and the name was free. -/
def Receipt.spoiled? : Receipt → Option String
  | (.register r, .error fault) => if r.shape.isOk && !fault.isTaken then some r.name else none
  | _ => none

/-- The names of the families that were returned. -/
def made (log : List Receipt) : List String := log.filterMap Receipt.made?

/-- The names of the families whose creation was refused. -/
def spoiled (log : List Receipt) : List String := log.filterMap Receipt.spoiled?

/-- The buckets that a value stands for are in order. -/
theorem Bounds.refusal?_of_ofValue {name : String} {v : Value} {bounds : List Binary64}
    (h : Bounds.ofValue name v = .ok bounds) : Bounds.refusal? bounds = none := by
  have hcheck : ∃ bs, Bounds.check name bs = .ok bounds := by
    unfold Bounds.ofValue at h
    split at h
    · cases h
    · cases hitems : v.items with
      | error fault =>
        rw [hitems] at h
        cases h
      | ok items =>
        rw [hitems] at h
        cases hreals : items.mapM Value.toReal with
        | error fault =>
          simp only [bind, Except.bind, hreals] at h
          cases h
        | ok bs =>
          simp only [bind, Except.bind, hreals] at h
          exact ⟨bs, h⟩
  obtain ⟨bs, hbs⟩ := hcheck
  unfold Bounds.check at hbs
  split at hbs
  · cases hbs
  · next hnone =>
    cases hbs
    exact hnone

/-- A shape that may be registered is entered at once. -/
theorem Registration.register_eq_enter {r : Registration} {shape : Shape}
    (h : r.shape = .ok shape) (s : Store) :
    s.register r.name r.help shape r.labels = s.enter r.name r.help shape r.labels := by
  unfold Registration.shape at h
  split at h
  · cases h
    rfl
  · cases h
    rfl
  · next buckets hkind =>
    cases hbounds : Bounds.ofValue r.name buckets with
    | error fault =>
      rw [hbounds] at h
      cases h
    | ok bounds =>
      rw [hbounds] at h
      cases h
      unfold Store.register Bounds.check
      dsimp only
      rw [Bounds.refusal?_of_ofValue hbounds]

/-- A registry refuses a family for a reason of its own. -/
theorem Exposition.refusal?_ne_taken (e : Exposition) (name : String) (shape : Shape)
    (labels : List String) : e.refusal? name shape labels ≠ some .taken := by
  intro h
  unfold refusal? at h
  split at h
  · cases h
  · split at h
    · next refusal hlabels =>
      obtain ⟨label, -, hlabel⟩ := List.exists_of_findSome?_eq_some hlabels
      cases h
      split at hlabel
      · cases hlabel
      · split at hlabel <;> cases hlabel
    · split at h
      · cases h
      · split at h <;> cases h

/-- A meter refuses an instrument for a reason of its own. -/
theorem Pipeline.isTaken_create {p p' : Pipeline} {kind : InstrumentKind} {name help : String}
    {fault : Fault} (h : p.create kind name help = (.error fault, p')) : fault.isTaken = false := by
  unfold create at h
  dsimp only at h
  split at h
  · split at h
    · cases h
    · cases h
      rfl
  · split at h
    · cases h
    · cases h
      rfl

namespace Store

/-- **What entering a family does to the names.** Either the name is taken, and
nothing happens, or it is taken from now on, whatever comes of the family; and
only a registry and a meter refuse to create one. -/
inductive Enters (s : Store) (name : String) : Except Fault Unit × Store → Prop
  /-- The name is taken. -/
  | taken : name ∈ s.names → Enters s name (.error (.schema name .taken), s)
  /-- The name was free. -/
  | claimed {reply : Except Fault Unit} {s' : Store} : name ∉ s.names →
    s'.names = s.names ++ [name] → s'.kind = s.kind →
    (∀ fault, reply = .error fault → fault.isTaken = false ∧ s.kind.createsAll = false) →
    Enters s name (reply, s')

/-- A family was created. -/
theorem Enters.created {s s' : Store} {name : String} (hfree : name ∉ s.names)
    (hnames : s'.names = s.names ++ [name]) (hkind : s'.kind = s.kind) :
    s.Enters name (.ok (), s') := by
  refine .claimed hfree hnames hkind ?_
  intro fault hfault
  cases hfault

theorem not_mem_of_contains {names : List String} {name : String}
    (h : ¬ names.contains name = true) : name ∉ names := fun hmem =>
  h (List.contains_iff_mem.mpr hmem)

theorem enters_enter (s : Store) (name help : String) (shape : Shape) (labels : List String) :
    s.Enters name (s.enter name help shape labels) := by
  cases s with
  | memory m =>
    unfold enter Memory.register
    dsimp only
    split
    · next hhas => exact .taken ((Table.has_iff_mem_keys _ _).mp hhas)
    · next hhas =>
      exact .created (fun hmem => hhas ((Table.has_iff_mem_keys _ _).mpr hmem))
        (Table.keys_push ..) rfl
  | exposition e =>
    unfold enter Exposition.register
    dsimp only
    split
    · next hhas => exact .taken (List.contains_iff_mem.mp hhas)
    · next hhas =>
      split
      · next refusal hrefusal =>
        refine .claimed (not_mem_of_contains hhas) rfl rfl ?_
        intro fault hfault
        cases hfault
        refine ⟨?_, rfl⟩
        cases refusal with
        | taken => exact (Exposition.refusal?_ne_taken _ _ _ _ hrefusal).elim
        | _ => rfl
      · exact .created (not_mem_of_contains hhas) rfl rfl
  | recorder m =>
    unfold enter Metered.register
    dsimp only
    split
    · next hhas => exact .taken (List.contains_iff_mem.mp hhas)
    · next hhas => exact .created (not_mem_of_contains hhas) rfl rfl
  | pipeline m =>
    unfold enter Metered.register
    dsimp only
    split
    · next hhas => exact .taken (List.contains_iff_mem.mp hhas)
    · next hhas =>
      split
      · next hcreate =>
        refine .claimed (not_mem_of_contains hhas) rfl rfl ?_
        intro fault hfault
        cases hfault
        exact ⟨Pipeline.isTaken_create hcreate, rfl⟩
      · exact .created (not_mem_of_contains hhas) rfl rfl

/-- Buckets that are not in order are refused before anything happens. -/
theorem perform_of_shape_error {r : Registration} {fault : Fault} (h : r.shape = .error fault)
    (s : Store) : s.perform (.register r) = (.error fault, s) := by
  unfold perform
  dsimp only
  rw [h]

/-- With buckets in order, a registration enters the family. -/
theorem perform_of_shape {r : Registration} {shape : Shape} (h : r.shape = .ok shape) (s : Store) :
    s.perform (.register r) = s.enter r.name r.help shape r.labels := by
  unfold perform
  dsimp only
  rw [h]
  exact Registration.register_eq_enter h s

/-- A registration enters the family, or changes nothing. -/
theorem perform_register_cases (s : Store) (r : Registration) :
    (∃ fault, s.perform (.register r) = (.error fault, s))
      ∨ ∃ shape, s.perform (.register r) = s.enter r.name r.help shape r.labels := by
  cases hshape : r.shape with
  | error fault => exact .inl ⟨fault, perform_of_shape_error hshape s⟩
  | ok shape => exact .inr ⟨shape, perform_of_shape hshape s⟩

/-- With buckets in order, the name is taken already or from then on. -/
theorem enters_perform {r : Registration} (h : r.shape.isOk = true) (s : Store) :
    s.Enters r.name (s.perform (.register r)) := by
  cases hshape : r.shape with
  | error fault =>
    rw [hshape] at h
    cases h
  | ok shape =>
    rw [perform_of_shape hshape]
    exact s.enters_enter ..

end Store

/-! ## Actions one after the other -/

/-- The name that an action takes, if it takes one. -/
def Receipt.taken? (receipt : Receipt) : Option String := (made? receipt).or (spoiled? receipt)

/-- With buckets in order, a fault that says nothing of a taken name is a refused
creation. -/
theorem Receipt.spoiled?_of_not_taken {r : Registration} {fault : Fault} (hok : r.shape.isOk = true)
    (hfault : fault.isTaken = false) : spoiled? (.register r, .error fault) = some r.name := by
  unfold spoiled?
  dsimp only
  rw [hok, hfault]
  rfl

/-- A family that was returned was not refused. -/
theorem Receipt.spoiled?_of_made? {receipt : Receipt} {name : String}
    (h : made? receipt = some name) : spoiled? receipt = none := by
  obtain ⟨e, reply⟩ := receipt
  cases e with
  | register r =>
    cases reply with
    | ok _ => rfl
    | error fault => cases h
  | _ => cases h

/-- The names that were taken are those of the families that were returned and
those of the refused creations. -/
theorem taken_perm (log : List Receipt) :
    (log.filterMap Receipt.taken?).Perm (made log ++ spoiled log) := by
  induction log with
  | nil => exact .nil
  | cons receipt log ih =>
    cases hmade : Receipt.made? receipt with
    | some name =>
      have hspoiled := Receipt.spoiled?_of_made? hmade
      have htaken : Receipt.taken? receipt = some name := by
        unfold Receipt.taken?
        rw [hmade]
        rfl
      unfold made spoiled
      rw [List.filterMap_cons_some htaken, List.filterMap_cons_some hmade,
        List.filterMap_cons_none hspoiled]
      exact ih.cons name
    | none =>
      have htaken : Receipt.taken? receipt = Receipt.spoiled? receipt := by
        unfold Receipt.taken?
        rw [hmade]
        rfl
      unfold made spoiled
      rw [List.filterMap_cons_none hmade]
      cases hspoiled : Receipt.spoiled? receipt with
      | none =>
        rw [List.filterMap_cons_none (htaken.trans hspoiled), List.filterMap_cons_none hspoiled]
        exact ih
      | some name =>
        rw [List.filterMap_cons_some (htaken.trans hspoiled), List.filterMap_cons_some hspoiled]
        exact (ih.cons name).trans List.perm_middle.symm

namespace Store

/-- **What an action does to the names**: it adds the one it takes, if it takes
one, and that was free. -/
structure Takes (s : Store) (receipt : Receipt) (s' : Store) : Prop where
  /-- The name comes last. -/
  names : s'.names = s.names ++ (Receipt.taken? receipt).toList
  /-- It was free. -/
  free : ∀ name ∈ Receipt.taken? receipt, name ∉ s.names
  /-- The kind is the same. -/
  kind : s'.kind = s.kind
  /-- A store that creates every family refuses none. -/
  spares : s.kind.createsAll = true → Receipt.spoiled? receipt = none

/-- What registers nothing takes no name. -/
theorem SameFamilies.takes {s s' : Store} (h : s.SameFamilies s') {receipt : Receipt}
    (hmade : Receipt.made? receipt = none) (hspoiled : Receipt.spoiled? receipt = none) :
    s.Takes receipt s' := by
  have htaken : Receipt.taken? receipt = none := by
    unfold Receipt.taken?
    rw [hmade, hspoiled]
    rfl
  refine ⟨?_, ?_, h.kind, fun _ => hspoiled⟩
  · rw [htaken, h.names]
    exact (List.append_nil _).symm
  · rw [htaken]
    intro name hname
    cases hname

/-- **One action**, by what is asked for. -/
theorem takes_perform (s : Store) (e : StoreAction) :
    s.Takes (e, (s.perform e).1) (s.perform e).2 := by
  cases e with
  | resolve name given => exact (s.sameFamilies_resolve name given).takes rfl rfl
  | operate id verb args => exact (s.sameFamilies_call id verb args).takes rfl rfl
  | collect => exact s.sameFamilies_collect.takes rfl rfl
  | register r =>
    cases hshape : r.shape with
    | error fault =>
      rw [perform_of_shape_error hshape]
      refine (SameFamilies.refl s).takes rfl ?_
      unfold Receipt.spoiled?
      dsimp only
      rw [hshape]
      rfl
    | ok shape =>
      have hok : r.shape.isOk = true := hshape ▸ rfl
      have henters := enters_perform hok s
      generalize s.perform (.register r) = result at henters ⊢
      cases henters with
      | taken =>
        refine (SameFamilies.refl s).takes rfl ?_
        unfold Receipt.spoiled?
        dsimp only
        rw [hok]
        rfl
      | @claimed reply s' hfree hnames hkind hfault =>
        have htaken : Receipt.taken? (.register r, reply) = some r.name := by
          cases reply with
          | ok _ => rfl
          | error fault =>
            show Receipt.spoiled? (.register r, .error fault) = some r.name
            exact Receipt.spoiled?_of_not_taken hok (hfault fault rfl).1
        refine ⟨?_, ?_, hkind, fun hall => ?_⟩
        · rw [htaken]
          exact hnames
        · intro name hname
          obtain rfl := Option.some.inj (htaken.symm.trans hname)
          exact hfree
        · cases reply with
          | ok _ => rfl
          | error fault => exact absurd (hall.symm.trans (hfault fault rfl).2) Bool.noConfusion

/-- **Actions one after the other**: every name they take comes once. -/
theorem names_performAll (s : Store) (es : List StoreAction) :
    (s.performAll es).2.names = s.names ++ (s.performAll es).1.filterMap Receipt.taken?
      ∧ (s.names.Nodup → (s.performAll es).2.names.Nodup)
      ∧ (s.performAll es).2.kind = s.kind
      ∧ (s.kind.createsAll = true → spoiled (s.performAll es).1 = []) := by
  induction es generalizing s with
  | nil => exact ⟨(List.append_nil _).symm, id, rfl, fun _ => rfl⟩
  | cons e es ih =>
    have htakes := s.takes_perform e
    obtain ⟨hnames, hnodup, hkind, hspares⟩ := ih (s.perform e).2
    rw [performAll_cons]
    refine ⟨?_, fun hs => hnodup ?_, hkind.trans htakes.kind, fun hall => ?_⟩
    · show ((s.perform e).2.performAll es).2.names = _
      rw [hnames, htakes.names, List.append_assoc]
      cases htaken : Receipt.taken? (e, (s.perform e).1) with
      | none =>
        rw [List.filterMap_cons_none htaken]
        rfl
      | some name =>
        rw [List.filterMap_cons_some htaken]
        rfl
    · rw [htakes.names]
      cases htaken : Receipt.taken? (e, (s.perform e).1) with
      | none => exact (List.append_nil s.names).symm ▸ hs
      | some name =>
        refine List.nodup_append.mpr ⟨hs, List.nodup_singleton name, fun other hother new hnew => ?_⟩
        obtain rfl := List.mem_singleton.mp hnew
        rintro rfl
        exact htakes.free other htaken hother
    · show List.filterMap Receipt.spoiled? (_ :: _) = []
      rw [List.filterMap_cons_none (htakes.spares hall)]
      exact hspares (htakes.kind.symm ▸ hall)

end Store

/-! ## The names of a store -/

/-- **A store as it is made**: no name is taken in it, whatever the registry or
the meter below it has. -/
inductive NewStore where
  /-- In memory. -/
  | memory
  /-- On a registry with these families. -/
  | exposition (registry : Table String (Family ExposedCell))
  /-- On a meter that writes down. -/
  | recorder (meter : Recorder)
  /-- On a meter that aggregates. -/
  | pipeline (meter : Pipeline)

/-- The store that is made. -/
def NewStore.store : NewStore → Store
  | .memory => .ofMemory
  | .exposition registry => .exposition ⟨[], registry⟩
  | .recorder meter => .recorder { meter }
  | .pipeline meter => .pipeline { meter }

namespace NewStore

theorem names_store (f : NewStore) : f.store.names = [] := by cases f <;> rfl

/-- **The names that are taken**, after any actions at a store of any kind:

* each comes once, and they are those of the families that were returned and
  those of the creations that were refused;
* they are those of the returned families alone exactly if no creation was
  refused, and a store that creates every family refuses none: it registers
  every name that is free;
* a name that is taken cannot be registered again, and to try changes nothing;
* a call that fails changes nothing at all, unless it is a refused creation: that
  one takes the name, which was free. -/
theorem names_afterwards (f : NewStore) (es : List StoreAction) :
    let log := (f.store.performAll es).1
    let s := (f.store.performAll es).2
    s.names.Nodup ∧ s.names.Perm (made log ++ spoiled log)
      ∧ ((∀ name, name ∈ s.names ↔ name ∈ made log) ↔ spoiled log = [])
      ∧ (s.kind.createsAll = true → spoiled log = []
        ∧ ∀ r : Registration, r.shape.isOk = true → r.name ∉ s.names →
          (s.perform (.register r)).1 = .ok ())
      ∧ (∀ r : Registration, r.shape.isOk = true → r.name ∈ s.names →
          s.perform (.register r) = (.error (.schema r.name .taken), s))
      ∧ ∀ (r : Registration) (fault : Fault), (s.perform (.register r)).1 = .error fault →
          (s.perform (.register r)).2 = s
          ∨ (Receipt.spoiled? (.register r, .error fault) = some r.name ∧ r.name ∉ s.names
            ∧ (s.perform (.register r)).2.names = s.names ++ [r.name]) := by
  intro log s
  obtain ⟨hnames, hnodup, hkind, hspares⟩ := f.store.names_performAll es
  rw [names_store, List.nil_append] at hnames
  have hdistinct : s.names.Nodup := hnodup (f.names_store.symm ▸ List.nodup_nil)
  have hperm : s.names.Perm (made log ++ spoiled log) := hnames ▸ taken_perm log
  refine ⟨hdistinct, hperm, ⟨fun hiff => ?_, fun hnone name => ?_⟩, fun hall => ⟨?_, ?_⟩, ?_, ?_⟩
  · refine List.eq_nil_iff_forall_not_mem.mpr fun name hspoiled => ?_
    -- a refused name would come twice
    have hmade := (hiff name).mp (hperm.mem_iff.mpr (List.mem_append_right _ hspoiled))
    exact (List.nodup_append.mp (hperm.nodup_iff.mp hdistinct)).2.2 name hmade name hspoiled rfl
  · rw [hperm.mem_iff, hnone, List.append_nil]
  · exact hspares (hkind ▸ hall)
  · intro r hok hfree
    have henters := Store.enters_perform hok s
    generalize s.perform (.register r) = result at henters ⊢
    cases henters with
    | taken hmem => exact absurd hmem hfree
    | @claimed reply s' _ _ _ hfault =>
      cases reply with
      | ok _ => rfl
      | error fault => exact absurd (hall.symm.trans (hfault fault rfl).2) Bool.noConfusion
  · intro r hok hmem
    have henters := Store.enters_perform hok s
    generalize s.perform (.register r) = result at henters ⊢
    cases henters with
    | taken => rfl
    | claimed hfree => exact absurd hmem hfree
  · intro r fault herror
    cases hshape : r.shape with
    | error fault' =>
      rw [Store.perform_of_shape_error hshape]
      exact .inl rfl
    | ok shape =>
      have hok : r.shape.isOk = true := hshape ▸ rfl
      have henters := Store.enters_perform hok s
      generalize s.perform (.register r) = result at henters herror ⊢
      cases henters with
      | taken => exact .inl rfl
      | @claimed reply s' hfree hclaimed _ hfault =>
        obtain rfl : reply = .error fault := herror
        exact .inr ⟨Receipt.spoiled?_of_not_taken hok (hfault fault rfl).1, hfree, hclaimed⟩

/-- **A refused creation loses its name.** A gauge whose label a registry
reserves is refused; no family was returned, yet the name is taken, and with a
label of its own the gauge is refused as registered already. -/
theorem names_after_refusal :
    let gauge (label : String) : StoreAction := .register ⟨"latency", "Seconds.", .gauge, [label]⟩
    let es := [gauge "__host", gauge "host"]
    let log := ((exposition .empty).store.performAll es).1
    ((exposition .empty).store.performAll es).2.names = ["latency"] ∧ made log = []
      ∧ log.filterMap (fun receipt => match receipt.2 with
          | .ok () => none
          | .error fault => fault.message?)
        = ["Invalid metric schema for 'latency': Reserved label metric name: __host",
          "Invalid metric schema for 'latency': metric name already registered"] := by
  decide +kernel

end NewStore

end QuicTelemetry
