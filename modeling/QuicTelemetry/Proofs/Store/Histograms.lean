import QuicTelemetry.Proofs.Store.Frames
import QuicTelemetry.Proofs.Store.Identity
import QuicTelemetry.Proofs.Store.Registration

/-!
# Histograms stay over their bounds

A histogram is registered over bounds, and its cells have a count for each of them
and one more (`Family.IsOver`). An operation changes counts and never their number
(`Memory.size?_change`, `Exposition.size?_change`), and a series that is new gets
the cell that belongs to the bounds. So **a store that has a histogram keeps it over
its bounds, whatever is done with the store** (`Store.HasHistogram.performAll`).

A registry may have families of any owner. What matters for a scraper is that none
of them has samples under the name of the buckets, and that is kept with the
histogram: the registry refuses every family that would.
-/

namespace QuicTelemetry

/-! ## The one family of a name -/

namespace Table

variable {κ ν : Type} [DecidableEq κ] {t : Table κ ν} {key : κ} {P : ν → Prop}

/-- **A table has one entry of a key**, and its value is known. A lookup alone would not
do: it finds the first of the entries, and a scraper reads all of them. -/
def Only (t : Table κ ν) (key : κ) (P : ν → Prop) : Prop :=
  ∃ v, t.entries.filter (fun e => decide (e.1 = key)) = [(key, v)] ∧ P v

theorem get?_of_entries {v : ν}
    (h : t.entries.filter (fun e => decide (e.1 = key)) = [(key, v)]) : t.get? key = some v := by
  show (t.entries.find? _).map Prod.snd = some v
  rw [← List.head?_filter, h]
  rfl

theorem Only.get? (h : t.Only key P) : ∃ v, t.get? key = some v ∧ P v := by
  obtain ⟨v, hentries, hv⟩ := h
  exact ⟨v, get?_of_entries hentries, hv⟩

/-- A key that is new has one entry. -/
theorem only_push (h : t.get? key = none) {v : ν} (hv : P v) : (t.push key v).Only key P := by
  refine ⟨v, ?_, hv⟩
  have hnone : t.entries.find? (fun e => decide (e.1 = key)) = none := Option.map_eq_none_iff.mp h
  show (t.entries ++ [(key, v)]).filter _ = _
  rw [List.filter_append, List.filter_eq_nil_iff.mpr (List.find?_eq_none.mp hnone)]
  simp

/-- An entry of another key leaves the one of this key alone. -/
theorem Only.push (h : t.Only key P) {other : κ} (hother : other ≠ key) (w : ν) :
    (t.push other w).Only key P := by
  obtain ⟨v, hentries, hv⟩ := h
  refine ⟨v, ?_, hv⟩
  show (t.entries ++ [(other, w)]).filter _ = _
  rw [List.filter_append, hentries]
  simp [hother]

/-- A change keeps what is known of the value if it is one of this key. Entries keep their
keys, so the one entry stays the only one. -/
theorem Only.adjust (h : t.Only key P) {other : κ} {change : ν → ν}
    (hkeeps : other = key → ∀ v, P v → P (change v)) : (t.adjust other change).Only key P := by
  obtain ⟨v, hentries, hv⟩ := h
  have hkey : ((fun e : κ × ν => decide (e.1 = key))
      ∘ fun e => if e.1 = other then (e.1, change e.2) else e) = fun e => decide (e.1 = key) := by
    funext e
    dsimp only [Function.comp]
    split <;> rfl
  refine ⟨if key = other then change v else v, ?_, ?_⟩
  · show (t.entries.map _).filter _ = _
    rw [List.filter_map, hkey, hentries, List.map_singleton]
    dsimp only
    split <;> rfl
  · split
    · next heq => exact hkeeps heq.symm v hv
    · exact hv

end Table

/-! ## Families over bounds -/

/-- The number of counts of a cell, if it is one of a histogram. -/
def MemoryCell.size? : MemoryCell → Option Nat
  | .histogram counts _ => some counts.length
  | .value _ => none

/-- The number of counts of a cell, if it is one of a histogram. -/
def ExposedCell.size? : ExposedCell → Option Nat
  | .histogram _ counts => some counts.length
  | .value _ => none

namespace Family

variable {Cell : Type} {size? : Cell → Option Nat} {bounds : List Binary64} {labels : List String}
  {family : Family Cell}

/-- **A histogram over bounds**: every series has a count for each bound and one
more. The number of counts is all that is asked of a cell. What the counts are depends
on what was observed, and to pair each bound with a count their number is enough. -/
structure IsOver (size? : Cell → Option Nat) (bounds : List Binary64) (labels : List String)
    (family : Family Cell) : Prop where
  shape : family.shape = .histogram bounds
  labels : family.labels = labels
  cells : ∀ entry ∈ family.series.entries, size? entry.2 = some (bounds.length + 1)

theorem IsOver.new (help : String) :
    IsOver size? bounds labels { help, shape := .histogram bounds, labels } :=
  ⟨rfl, rfl, fun _ hentry => absurd hentry List.not_mem_nil⟩

/-- A series that is asked for is made with a fresh cell if it is new. -/
theorem IsOver.ensure (h : family.IsOver size? bounds labels) (values : List String) {fresh : Cell}
    (hfresh : size? fresh = some (bounds.length + 1)) :
    (family.ensure values fresh).IsOver size? bounds labels := by
  refine ⟨(shape_ensure ..).trans h.shape, (labels_ensure ..).trans h.labels, ?_⟩
  unfold Family.ensure
  split
  · exact h.cells
  · intro entry hentry
    rcases List.mem_append.mp hentry with hold | hnew
    · exact h.cells entry hold
    · rw [List.mem_singleton.mp hnew]
      exact hfresh

/-- A cell may be replaced by any with the right number of counts. -/
theorem IsOver.adjust (h : family.IsOver size? bounds labels) (values : List String) {cell : Cell}
    (hcell : size? cell = some (bounds.length + 1)) :
    (family.adjust values fun _ => cell).IsOver size? bounds labels := by
  refine ⟨h.shape, h.labels, fun entry hentry => ?_⟩
  obtain ⟨old, hold, rfl⟩ := List.mem_map.mp hentry
  split
  · exact hcell
  · exact h.cells old hold

theorem IsOver.size?_cell (h : family.IsOver size? bounds labels) {values : List String}
    {cell : Cell} (hcell : family.cell? values = some cell) :
    size? cell = some (bounds.length + 1) :=
  h.cells _ (Table.mem_entries_of_get? hcell)

end Family

/-- A fresh cell has a count for each bound and one more. -/
theorem MemoryCell.size?_fresh (bounds : List Binary64) :
    (fresh (.histogram bounds)).size? = some (bounds.length + 1) :=
  congrArg some List.length_replicate

theorem ExposedCell.size?_fresh (bounds : List Binary64) :
    (fresh (.histogram bounds)).size? = some (bounds.length + 1) :=
  congrArg some List.length_replicate

/-- **An operation on a histogram keeps the number of counts**, whether it succeeds or
not: to observe a value changes the count of one bucket in its place, and every other
operation leaves the cell alone. -/
theorem Memory.size?_change (bounds : List Binary64) (cell : MemoryCell) (verb : Verb)
    (argument : Value) : (change (.histogram bounds) cell verb argument).2.size? = cell.size? := by
  cases cell with
  | value x => cases verb <;> rfl
  | histogram counts sum =>
    cases verb with
    | observe =>
      unfold change
      dsimp only
      split
      · rfl
      · split <;> exact congrArg some (List.length_modify ..)
    | _ => rfl

/-- The registry goes through the bounds to find the bucket, and none may be found. Then
no count changes, and their number does not either. -/
theorem Exposition.size?_change (bounds : List Binary64) (cell : ExposedCell) (verb : Verb)
    (argument : Value) : (change (.histogram bounds) cell verb argument).2.size? = cell.size? := by
  cases cell with
  | value x => cases verb <;> rfl
  | histogram sum counts =>
    cases verb with
    | observe =>
      unfold change
      dsimp only
      split
      · rfl
      · split
        · rfl
        · dsimp only
          split
          · exact congrArg some (List.length_modify ..)
          · rfl
    | _ => rfl

/-! ## A histogram in a store

What each of the three operations can do to a registry is said once, guards included.
The lemmas that follow take their cases from here. -/

namespace Exposition

/-- **Registering** adds a family or changes nothing but the names that are claimed. -/
theorem register_cases (e : Exposition) (name help : String) (shape : Shape)
    (labels : List String) :
    (∃ fault claimed, e.register name help shape labels = (.error fault, { e with claimed }))
      ∨ (reserved shape name).filter e.allReserved.contains = []
        ∧ e.register name help shape labels
          = (.ok (), { e with claimed := e.claimed ++ [name] }.enter name help shape labels) := by
  unfold register
  split
  · exact .inl ⟨_, e.claimed, rfl⟩
  · dsimp only
    cases hrefusal : { e with claimed := e.claimed ++ [name] }.refusal? name shape labels with
    | some refusal => exact .inl ⟨_, _, rfl⟩
    | none => exact .inr ⟨Agreeing.filter_of_refusal? hrefusal, rfl⟩

/-- **Resolving** finds the series of a family, made if it is new, or changes
nothing. -/
theorem resolve_cases (e : Exposition) (name : String) (given : Labelling) :
    (∃ fault, e.resolve name given = (.error fault, e))
      ∨ ∃ f id, e.families.get? name = some f ∧ e.resolve name given = (.ok id, { e with
          families := e.families.adjust name fun f' => f'.ensure id.values (.fresh f'.shape) }) := by
  unfold resolve
  cases hf : e.families.get? name with
  | none => exact .inl ⟨_, rfl⟩
  | some f =>
    dsimp only
    split
    · exact .inl ⟨_, rfl⟩
    · cases seriesOf name f given with
      | error fault => exact .inl ⟨fault, rfl⟩
      | ok id => exact .inr ⟨f, id, rfl, rfl⟩

/-- **Operating** changes one cell to what the operation makes of it, or changes
nothing. -/
theorem call_cases (e : Exposition) (id : SeriesId) (verb : Verb) (args : List Value) :
    (e.call id verb args).2 = e
      ∨ ∃ f cell argument, e.families.get? id.family = some f ∧ f.cell? id.values = some cell
        ∧ (e.call id verb args).2 = e.setCell id (change f.shape cell verb argument).2 := by
  unfold call cell?
  cases hf : e.families.get? id.family with
  | none => exact .inl rfl
  | some f =>
    simp only [bind, Option.bind]
    cases hcell : f.cell? id.values with
    | none => exact .inl rfl
    | some cell =>
      dsimp only
      split
      · exact .inl rfl
      · cases hargument : verb.argument (splitExemplar f.shape args).1 with
        | error fault => exact .inl rfl
        | ok argument =>
          refine .inr ⟨f, cell, argument, rfl, hcell, ?_⟩
          dsimp only
          split
          · next heq => rw [heq]
          · next heq =>
            rw [heq]
            split <;> rfl

end Exposition

namespace Store

variable {name : String} {bounds : List Binary64} {labels : List String}

/-- **A store has a histogram** of a name. In a registry no other family has samples
of the name that its buckets have. Without that the counts which a scraper finds under
the name would be the ones of two families. The stores over a meter have no buckets of
their own. -/
def HasHistogram (name : String) (bounds : List Binary64) (labels : List String) : Store → Prop
  | .memory m => m.families.Only name (Family.IsOver MemoryCell.size? bounds labels)
  | .exposition e => e.families.Only name (Family.IsOver ExposedCell.size? bounds labels)
    ∧ ∀ entry ∈ e.signature, entry.1 ≠ name →
      name ++ "_bucket" ∉ Exposition.reserved entry.2 entry.1
  | _ => False

end Store

/-! ### In memory -/

section Memory

variable {m : Memory} {name : String} {bounds : List Binary64} {labels : List String}

/-- In memory a name that is taken is refused, so a family that is entered has another
name. -/
theorem Memory.hasHistogram_register (h : (Store.memory m).HasHistogram name bounds labels)
    (other help : String) (shape : Shape) (labels' : List String) :
    (Store.memory (m.register other help shape labels').2).HasHistogram name bounds labels := by
  rcases m.register_cases other help shape labels' with ⟨fault, heq⟩ | ⟨hnone, heq⟩
  · rw [heq]
    exact h
  · rw [heq]
    refine h.push (fun hname => ?_) _
    obtain ⟨f, hf, -⟩ := h.get?
    rw [hname, hf] at hnone
    cases hnone

/-- A series that is new gets the fresh cell of the family's own shape. -/
theorem Memory.hasHistogram_resolve (h : (Store.memory m).HasHistogram name bounds labels)
    (other : String) (given : Labelling) :
    (Store.memory (m.resolve other given).2).HasHistogram name bounds labels := by
  rcases m.resolve_cases other given with ⟨fault, heq⟩ | ⟨f, -, -, heq⟩
  · rw [heq]
    exact h
  · rw [heq]
    exact h.adjust fun _ f' hf' => hf'.ensure _ (hf'.shape ▸ MemoryCell.size?_fresh bounds)

/-- An operation on this histogram keeps the number of counts, and one on another family
does not touch it. -/
theorem Memory.hasHistogram_call (h : (Store.memory m).HasHistogram name bounds labels)
    (id : SeriesId) (verb : Verb) (args : List Value) :
    (Store.memory (m.call id verb args).2).HasHistogram name bounds labels := by
  rcases m.call_cases id verb args with ⟨fault, heq⟩ | ⟨f, cell, argument, hf, hcell, -, heq⟩
  · rw [heq]
    exact h
  · rw [heq]
    refine h.adjust fun hname f' hf' => hf'.adjust _ ?_
    obtain ⟨f'', hget, hover⟩ := h.get?
    obtain rfl : f = f'' := Option.some.inj ((hname ▸ hf).symm.trans hget)
    rw [hover.shape, size?_change]
    exact hover.size?_cell hcell

end Memory

/-! ### On a registry -/

section Exposition

variable {e : Exposition} {name : String} {bounds : List Binary64} {labels : List String}

open Exposition (reserved)

theorem Exposition.bucket_mem_reserved (bounds : List Binary64) (name : String) :
    name ++ "_bucket" ∈ reserved (.histogram bounds) name :=
  List.mem_cons_of_mem _ List.mem_cons_self

/-- A change of families that keeps their shapes keeps the names of their samples, too:
these depend on the name and the shape alone. -/
theorem Exposition.hasHistogram_adjust (h : (Store.exposition e).HasHistogram name bounds labels)
    {other : String} {change : Family ExposedCell → Family ExposedCell}
    (hshape : ∀ f, (change f).shape = f.shape)
    (hkeeps : other = name → ∀ f, f.IsOver ExposedCell.size? bounds labels →
      (change f).IsOver ExposedCell.size? bounds labels) :
    (Store.exposition { e with families := e.families.adjust other change }).HasHistogram
      name bounds labels := by
  refine ⟨h.1.adjust hkeeps, ?_⟩
  rw [e.signature_adjust other hshape]
  exact h.2

/-- **A family that is entered has none of the names that are reserved**, neither that of
the histogram nor that of its buckets. The first keeps the entry the only one of its
name, the second keeps the buckets apart. -/
theorem Exposition.hasHistogram_register (h : (Store.exposition e).HasHistogram name bounds labels)
    (other help : String) (shape : Shape) (labels' : List String) :
    (Store.exposition (e.register other help shape labels').2).HasHistogram name bounds labels := by
  rcases e.register_cases other help shape labels' with ⟨fault, claimed, heq⟩ | ⟨hfilter, heq⟩
  · rw [heq]
    exact h
  · obtain ⟨f, hf, hover⟩ := h.1.get?
    -- a name that has a family is among those that are reserved
    have hother : other ≠ name := by
      rintro rfl
      rw [get?_of_filter hfilter] at hf
      cases hf
    have hentry : (name, .histogram bounds) ∈ e.signature :=
      List.mem_map.mpr ⟨(name, f), Table.mem_entries_of_get? hf, by rw [hover.shape]⟩
    have hapart := Agreeing.apart_of_filter e hfilter _ hentry _ (bucket_mem_reserved bounds name)
    rw [heq]
    refine ⟨h.1.push hother _, fun entry hmem hne => ?_⟩
    rw [signature_enter] at hmem
    rcases List.mem_append.mp hmem with hold | hnew
    · exact h.2 entry hold hne
    · rw [List.mem_singleton.mp hnew]
      exact hapart

theorem Exposition.hasHistogram_resolve (h : (Store.exposition e).HasHistogram name bounds labels)
    (other : String) (given : Labelling) :
    (Store.exposition (e.resolve other given).2).HasHistogram name bounds labels := by
  rcases e.resolve_cases other given with ⟨fault, heq⟩ | ⟨f, id, -, heq⟩
  · rw [heq]
    exact h
  · rw [heq]
    exact hasHistogram_adjust h (fun _ => Family.shape_ensure ..) fun _ f' hf' =>
      hf'.ensure _ (hf'.shape ▸ ExposedCell.size?_fresh bounds)

/-- The same on a registry, where the shapes of the families stay as they are, too. -/
theorem Exposition.hasHistogram_call (h : (Store.exposition e).HasHistogram name bounds labels)
    (id : SeriesId) (verb : Verb) (args : List Value) :
    (Store.exposition (e.call id verb args).2).HasHistogram name bounds labels := by
  rcases e.call_cases id verb args with heq | ⟨f, cell, argument, hf, hcell, heq⟩
  · rw [heq]
    exact h
  · rw [heq]
    refine hasHistogram_adjust h (fun _ => rfl) fun hname f' hf' => hf'.adjust _ ?_
    obtain ⟨f'', hget, hover⟩ := h.1.get?
    obtain rfl : f = f'' := Option.some.inj ((hname ▸ hf).symm.trans hget)
    rw [hover.shape, size?_change]
    exact hover.size?_cell hcell

end Exposition

namespace Store

variable {name : String} {bounds : List Binary64} {labels : List String} {s : Store}

/-- The shape by which a store knows its histogram has the bounds. -/
theorem HasHistogram.shape? (h : s.HasHistogram name bounds labels) :
    s.shape? name = some (.histogram bounds) := by
  cases s with
  | memory m =>
    obtain ⟨f, hf, hover⟩ := h.get?
    show (m.families.get? name).map Family.shape = _
    rw [hf, Option.map_some, hover.shape]
  | exposition e =>
    obtain ⟨f, hf, hover⟩ := h.1.get?
    show (e.families.get? name).map Family.shape = _
    rw [hf, Option.map_some, hover.shape]
  | recorder m => exact h.elim
  | pipeline m => exact h.elim

/-- **Whatever is done with a store**, its histogram stays over its bounds. -/
theorem HasHistogram.perform (h : s.HasHistogram name bounds labels) (e : StoreAction) :
    (s.perform e).2.HasHistogram name bounds labels := by
  cases s with
  | recorder m => exact h.elim
  | pipeline m => exact h.elim
  | memory m =>
    cases e with
    | register r =>
      rcases perform_register_cases (.memory m) r with ⟨fault, heq⟩ | ⟨shape, heq⟩ <;> rw [heq]
      · exact h
      · exact Memory.hasHistogram_register h ..
    | resolve other given => exact Memory.hasHistogram_resolve h other given
    | operate id verb args => exact Memory.hasHistogram_call h id verb args
    | collect => exact h
  | exposition e' =>
    cases e with
    | register r =>
      rcases perform_register_cases (.exposition e') r with ⟨fault, heq⟩ | ⟨shape, heq⟩ <;> rw [heq]
      · exact h
      · exact Exposition.hasHistogram_register h ..
    | resolve other given => exact Exposition.hasHistogram_resolve h other given
    | operate id verb args => exact Exposition.hasHistogram_call h id verb args
    | collect => exact h

/-- The same for any number of actions, by induction on them. -/
theorem HasHistogram.performAll (h : s.HasHistogram name bounds labels) (es : List StoreAction) :
    (s.performAll es).2.HasHistogram name bounds labels := by
  induction es generalizing s with
  | nil => exact h
  | cons e es ih => exact ih (h.perform e)

end Store

end QuicTelemetry
