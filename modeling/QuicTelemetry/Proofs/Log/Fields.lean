import Mathlib.Data.List.Nodup
import QuicTelemetry.Log

/-!
# Fields written over fields

Fields come from several places: what a setup has standing, what a logger was given,
those of a call, and what is a record's own. They become one mapping by writing some
over others, so that of several fields of a name the last one counts
(`Fields.get?_update`). Which places a record's fields come from, and in which order,
is then a matter of one list.
-/

namespace QuicTelemetry.Fields

/-! ## The last field of a name -/

/-- What some fields say under a name: of several of the name the last one
counts. -/
def last? (fields : List (String × Value)) (key : String) : Option Value :=
  fields.reverse.lookup key

@[simp] theorem last?_nil (key : String) : last? [] key = none := rfl

theorem last?_append (front back : List (String × Value)) (key : String) :
    last? (front ++ back) key = (last? back key).or (last? front key) := by
  unfold last?
  rw [List.reverse_append, List.lookup_append]

theorem last?_singleton (entry : String × Value) (key : String) :
    last? [entry] key = if key = entry.1 then some entry.2 else none := by
  show ((entry.1, entry.2) :: []).lookup key = _
  rw [List.lookup_cons]
  by_cases hkey : key = entry.1
  · rw [if_pos hkey, hkey, beq_self_eq_true]
  · rw [if_neg hkey, beq_false_of_ne hkey]
    rfl

theorem last?_eq_none {fields : List (String × Value)} {key : String}
    (h : ∀ entry ∈ fields, entry.1 ≠ key) : last? fields key = none :=
  List.lookup_eq_none_iff.mpr fun entry hentry =>
    bne_iff_ne.mpr (h entry (List.mem_reverse.mp hentry)).symm

/-! ## Writing -/

/-- **Fields that are written over others** hide those of their names. -/
theorem get?_update (fields : Fields) (more : List (String × Value)) (key : String) :
    (fields.update more).get? key = (last? more key).or (fields.get? key) := by
  induction more generalizing fields with
  | nil => rfl
  | cons entry more ih =>
    show (update (fields.put entry.1 entry.2) more).get? key = _
    rw [ih, Table.get?_put, ← List.singleton_append, last?_append, last?_singleton,
      Option.or_assoc]
    congr 1
    split <;> rfl

theorem get?_ofList (entries : List (String × Value)) (key : String) :
    (ofList entries).get? key = last? entries key :=
  (get?_update .empty entries key).trans Option.or_none

theorem update_append (fields : Fields) (front back : List (String × Value)) :
    fields.update (front ++ back) = (fields.update front).update back :=
  List.foldl_append

/-- Fields of other names leave what is said under a name. -/
theorem get?_update_of_forall_ne {more : List (String × Value)} {key : String}
    (hmore : ∀ entry ∈ more, entry.1 ≠ key) (fields : Fields) :
    (fields.update more).get? key = fields.get? key := by
  rw [get?_update, last?_eq_none hmore, Option.none_or]

/-- What holds of all values that come in holds of all that are there. -/
theorem forall_mem_update {P : Value → Prop} {fields : Fields}
    (hfields : ∀ entry ∈ fields.entries, P entry.2) {more : List (String × Value)}
    (hmore : ∀ entry ∈ more, P entry.2) : ∀ entry ∈ (fields.update more).entries, P entry.2 := by
  induction more generalizing fields with
  | nil => exact hfields
  | cons first more ih =>
    rw [List.forall_mem_cons] at hmore
    refine ih (fun entry hentry => ?_) hmore.2
    rcases Table.mem_entries_put hentry with ⟨-, heq⟩ | ⟨-, hold⟩
    · rw [heq]
      exact hmore.1
    · exact hfields _ hold

/-! ## Each name once -/

theorem nodup_keys_put {fields : Fields} (h : fields.keys.Nodup) (key : String) (v : Value) :
    (fields.put key v).keys.Nodup := by
  unfold Table.put
  split
  · rw [Table.keys_adjust]
    exact h
  · next hnew =>
    rw [Table.keys_push]
    refine h.append (List.nodup_singleton key) fun other hmem hother => hnew ?_
    rw [Table.has_iff_mem_keys, ← List.mem_singleton.mp hother]
    exact hmem

/-- No name comes twice in fields that came in one by one. -/
theorem nodup_keys_update {fields : Fields} (h : fields.keys.Nodup)
    (more : List (String × Value)) : (fields.update more).keys.Nodup := by
  induction more generalizing fields with
  | nil => exact h
  | cons entry more ih => exact ih (nodup_keys_put h entry.1 entry.2)

theorem nodup_keys_ofList (entries : List (String × Value)) : (ofList entries).keys.Nodup :=
  nodup_keys_update (show (Table.empty : Fields).keys.Nodup from List.nodup_nil) entries

/-- Entries that come in one by one are kept as they are, if no name comes
twice. -/
theorem update_of_nodup {fields : Fields} {more : List (String × Value)}
    (h : (fields.keys ++ more.map Prod.fst).Nodup) :
    (fields.update more).entries = fields.entries ++ more := by
  induction more generalizing fields with
  | nil => exact (List.append_nil _).symm
  | cons entry more ih =>
    have hnew : fields.has entry.1 = false := by
      rw [Bool.eq_false_iff, ne_eq, Table.has_iff_mem_keys]
      intro hmem
      exact (List.nodup_append.mp h).2.2 _ hmem _ List.mem_cons_self rfl
    have hput : fields.put entry.1 entry.2 = fields.push entry.1 entry.2 := by
      rw [Table.put, hnew]
      rfl
    show (update (fields.put entry.1 entry.2) more).entries = _
    rw [hput, ih]
    · exact List.append_assoc _ _ _
    · rw [Table.keys_push, List.append_assoc]
      exact h

theorem ofList_of_nodup {entries : List (String × Value)} (h : (entries.map Prod.fst).Nodup) :
    (ofList entries).entries = entries :=
  update_of_nodup h

/-- In fields that have no name twice, each is the last of its name. -/
theorem last?_entries {fields : Fields} (h : fields.keys.Nodup) (key : String) :
    last? fields.entries key = fields.get? key := by
  have hsame : ofList fields.entries = fields := congrArg Table.mk (ofList_of_nodup h)
  rw [← get?_ofList, hsame]

/-- Fields that are written are read again, if none is written twice. -/
theorem get?_update_of_mem {more : List (String × Value)} (hnodup : (more.map Prod.fst).Nodup)
    {key : String} {v : Value} (hmem : (key, v) ∈ more) (fields : Fields) :
    (fields.update more).get? key = some v := by
  have hlast : last? more key = some v :=
    (last?_entries (show (Table.mk more : Fields).keys.Nodup from hnodup) key).trans
      (Table.get?_of_mem_entries hnodup hmem)
  rw [get?_update, hlast, Option.some_or]

end QuicTelemetry.Fields
