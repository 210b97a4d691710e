/-!
# Tables

A table maps keys to values and remembers the order in which the keys came.
Writing to a key that is there changes its value in place; a new key comes
last. What a store shows, it shows in this order.
-/

namespace QuicTelemetry

/-- **A table**, oldest key first. -/
structure Table (κ ν : Type) where
  /-- The keys with their values. -/
  entries : List (κ × ν) := []
  deriving Repr

namespace Table

variable {κ ν : Type} [DecidableEq κ]

/-- The table without any key. -/
def empty : Table κ ν := ⟨[]⟩

instance : Inhabited (Table κ ν) := ⟨empty⟩

/-- The value of a key. -/
def get? (t : Table κ ν) (k : κ) : Option ν :=
  (t.entries.find? fun e => decide (e.1 = k)).map Prod.snd

/-- Whether the table has a key. -/
def has (t : Table κ ν) (k : κ) : Bool := (t.get? k).isSome

/-- The keys, oldest first. -/
def keys (t : Table κ ν) : List κ := t.entries.map Prod.fst

/-- The table with the value of a key changed, if it has the key. -/
def adjust (t : Table κ ν) (k : κ) (f : ν → ν) : Table κ ν :=
  ⟨t.entries.map fun e => if e.1 = k then (e.1, f e.2) else e⟩

/-- The table with a new key at its end. -/
def push (t : Table κ ν) (k : κ) (v : ν) : Table κ ν := ⟨t.entries ++ [(k, v)]⟩

/-- **The table in which a key has a value**: in place if it has the key, at
the end otherwise. -/
def put (t : Table κ ν) (k : κ) (v : ν) : Table κ ν :=
  if t.has k then t.adjust k fun _ => v else t.push k v

omit [DecidableEq κ] in
@[simp] theorem keys_push (t : Table κ ν) (k : κ) (v : ν) : (t.push k v).keys = t.keys ++ [k] := by
  simp [keys, push]

@[simp] theorem keys_adjust (t : Table κ ν) (k : κ) (f : ν → ν) : (t.adjust k f).keys = t.keys := by
  simp only [keys, adjust, List.map_map]
  refine List.map_congr_left fun e _ => ?_
  simp only [Function.comp]
  split <;> rfl

theorem get?_push (t : Table κ ν) (k j : κ) (v : ν) :
    (t.push k v).get? j = (t.get? j).or (if k = j then some v else none) := by
  simp only [get?, push, List.find?_append, List.find?_cons, List.find?_nil]
  cases t.entries.find? fun e => decide (e.1 = j) with
  | some e => simp
  | none => by_cases h : k = j <;> simp [h]

theorem get?_adjust (t : Table κ ν) (k j : κ) (f : ν → ν) :
    (t.adjust k f).get? j = if j = k then (t.get? j).map f else t.get? j := by
  obtain ⟨es⟩ := t
  simp only [get?, adjust]
  induction es with
  | nil => simp
  | cons e rest ih =>
    by_cases hk : e.1 = k <;> by_cases hj : e.1 = j
    · subst hk; subst hj; simp
    · subst hk
      have hj' : ¬ j = e.1 := fun h => hj h.symm
      simp only [List.map_cons, List.find?_cons, hj, decide_false, if_true, hj', if_false] at ih ⊢
      exact ih
    · subst hj; simp [hk]
    · simp only [List.map_cons, List.find?_cons, hj, hk, decide_false, if_false] at ih ⊢
      exact ih

/-- Two tables one after the other: the first one that has a key decides. -/
theorem get?_append (front back : List (κ × ν)) (k : κ) :
    (Table.mk (front ++ back)).get? k = ((Table.mk front).get? k).or ((Table.mk back).get? k) := by
  unfold get?
  rw [List.find?_append, Option.map_or]

/-- A key that a table does not have is not adjusted. -/
theorem adjust_of_not_mem {t : Table κ ν} {k : κ} (h : k ∉ t.keys) (f : ν → ν) : t.adjust k f = t := by
  unfold adjust
  refine congrArg mk ((List.map_congr_left fun e he => ?_).trans (List.map_id _))
  exact if_neg fun hkey : e.1 = k => h (hkey ▸ List.mem_map_of_mem he)

/-- A change of one value that keeps its image keeps the images of all. -/
theorem map_get?_adjust {α : Type} (t : Table κ ν) (k j : κ) {f : ν → ν} {image : ν → α}
    (hkeeps : ∀ v, image (f v) = image v) :
    ((t.adjust k f).get? j).map image = (t.get? j).map image := by
  rw [get?_adjust]
  split
  · rw [Option.map_map]
    exact congrArg (fun g => Option.map g (t.get? j)) (funext hkeeps)
  · rfl

theorem get?_put (t : Table κ ν) (k j : κ) (v : ν) :
    (t.put k v).get? j = if j = k then some v else t.get? j := by
  unfold put has
  by_cases h : j = k
  · subst h
    cases hj : t.get? j with
    | some w => simp [get?_adjust, hj]
    | none => simp [get?_push, hj]
  · have h' : ¬ k = j := fun e => h e.symm
    split
    · simp [get?_adjust, h]
    · simp [get?_push, h']

theorem mem_entries_of_get? {t : Table κ ν} {k : κ} {v : ν} (h : t.get? k = some v) :
    (k, v) ∈ t.entries := by
  obtain ⟨e, he, rfl⟩ := Option.map_eq_some_iff.mp h
  obtain rfl : e.1 = k := by simpa using List.find?_some he
  exact List.mem_of_find?_eq_some he

/-- Where no key comes twice, an entry is the value of its key. -/
theorem get?_of_mem_entries {t : Table κ ν} (h : t.keys.Nodup) {k : κ} {v : ν}
    (hmem : (k, v) ∈ t.entries) : t.get? k = some v := by
  obtain ⟨es⟩ := t
  simp only [get?, keys] at h hmem ⊢
  induction es with
  | nil => simp at hmem
  | cons e rest ih =>
    rw [List.map_cons, List.nodup_cons] at h
    rcases List.mem_cons.mp hmem with rfl | hrest
    · simp
    · have hne : ¬ e.1 = k := by
        rintro rfl
        exact h.1 (List.mem_map.mpr ⟨_, hrest, rfl⟩)
      rw [List.find?_cons_of_neg (by simpa using hne)]
      exact ih h.2 hrest

theorem has_iff_mem_keys (t : Table κ ν) (k : κ) : t.has k = true ↔ k ∈ t.keys := by
  simp only [has, get?, keys, Option.isSome_map, List.find?_isSome, List.mem_map, decide_eq_true_eq]

theorem mem_keys_put (t : Table κ ν) (k j : κ) (v : ν) :
    j ∈ (t.put k v).keys ↔ j = k ∨ j ∈ t.keys := by
  rw [← has_iff_mem_keys, ← has_iff_mem_keys, has, has, get?_put]
  by_cases h : j = k <;> simp [h]

/-- An entry of the table in which a key has a value is that of the key, or was
there before. -/
theorem mem_entries_put {t : Table κ ν} {k j : κ} {v w : ν} (h : (j, w) ∈ (t.put k v).entries) :
    (j = k ∧ w = v) ∨ (j ≠ k ∧ (j, w) ∈ t.entries) := by
  unfold put at h
  split at h
  · obtain ⟨e, he, heq⟩ := List.mem_map.mp h
    split at heq
    · next hk =>
      obtain ⟨rfl, rfl⟩ := Prod.mk.inj heq
      exact .inl ⟨hk, rfl⟩
    · next hk =>
      subst heq
      exact .inr ⟨hk, he⟩
  · next hhas =>
    rcases List.mem_append.mp h with hmem | hmem
    · refine .inr ⟨?_, hmem⟩
      rintro rfl
      exact hhas ((has_iff_mem_keys t j).mpr (List.mem_map_of_mem hmem))
    · obtain ⟨rfl, rfl⟩ := Prod.mk.inj (List.mem_singleton.mp hmem)
      exact .inl ⟨rfl, rfl⟩

end Table

end QuicTelemetry
