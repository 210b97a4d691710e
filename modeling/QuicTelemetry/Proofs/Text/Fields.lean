import QuicTelemetry.Text.Fields

/-!
# Cutting is the inverse of joining

Joining the fields of a text gives the text back, whatever the text is. The other
direction needs fields in which the separator does not occur: such fields are
joined to a text that is cut into them again (`fields_join`). All of it follows
from one equation, that a separator cuts a text in two and each part is cut by
itself (`fields_append`).
-/

namespace QuicTelemetry.Text

variable {separator : Char}

/-- A text without the separator is its one field. -/
theorem fields_of_not_mem {cs : List Char} (h : separator ∉ cs) : fields separator cs = [cs] := by
  induction cs with
  | nil => rfl
  | cons c rest ih =>
    rw [List.mem_cons, not_or] at h
    unfold fields
    rw [if_neg (Ne.symm h.1), ih h.2]

/-- **A separator cuts a text in two**, and each part is cut by itself. -/
theorem fields_append (front back : List Char) :
    fields separator (front ++ separator :: back)
      = fields separator front ++ fields separator back := by
  induction front with
  | nil => simp [fields]
  | cons c rest ih =>
    simp only [List.cons_append, fields, ih]
    split
    · rfl
    · cases hfields : fields separator rest with
      | nil => exact absurd hfields (fields_ne_nil _ _)
      | cons field others => rfl

/-- **Fields that were joined are cut apart again**, if the separator is in none
of them. -/
theorem fields_join {parts : List (List Char)} (hne : parts ≠ [])
    (h : ∀ part ∈ parts, separator ∉ part) : fields separator (join separator parts) = parts := by
  induction parts with
  | nil => exact absurd rfl hne
  | cons part rest ih =>
    rw [List.forall_mem_cons] at h
    cases rest with
    | nil => exact fields_of_not_mem h.1
    | cons next rest =>
      show fields separator (part ++ separator :: join separator (next :: rest)) = _
      rw [fields_append, fields_of_not_mem h.1, ih (List.cons_ne_nil _ _) h.2]
      rfl

/-- What is joined has no characters but the separator and those of the fields. -/
theorem mem_join {parts : List (List Char)} {c : Char} (h : c ∈ join separator parts) :
    c = separator ∨ ∃ part ∈ parts, c ∈ part := by
  induction parts with
  | nil => cases h
  | cons part rest ih =>
    cases rest with
    | nil => exact .inr ⟨part, List.mem_cons_self, h⟩
    | cons next rest =>
      have h : c ∈ part ++ separator :: join separator (next :: rest) := h
      rw [List.mem_append, List.mem_cons] at h
      rcases h with hpart | rfl | hrest
      · exact .inr ⟨part, List.mem_cons_self, hpart⟩
      · exact .inl rfl
      · exact (ih hrest).imp_right fun ⟨other, hother, hc⟩ => ⟨other, List.mem_cons_of_mem _ hother, hc⟩

/-- The characters of a field are those of the text. -/
theorem mem_of_mem_fields {cs part : List Char} {c : Char} (hpart : part ∈ fields separator cs)
    (hc : c ∈ part) : c ∈ cs := by
  induction cs generalizing part with
  | nil =>
    obtain rfl := List.mem_singleton.mp hpart
    cases hc
  | cons d rest ih =>
    unfold fields at hpart
    split at hpart
    · rcases List.mem_cons.mp hpart with rfl | hrest
      · cases hc
      · exact List.mem_cons_of_mem _ (ih hrest hc)
    · cases hfields : fields separator rest with
      | nil => exact absurd hfields (fields_ne_nil _ _)
      | cons field others =>
        rw [hfields] at hpart ih
        rcases List.mem_cons.mp hpart with rfl | hothers
        · rcases List.mem_cons.mp hc with rfl | hfield
          · exact List.mem_cons_self
          · exact List.mem_cons_of_mem _ (ih List.mem_cons_self hfield)
        · exact List.mem_cons_of_mem _ (ih (List.mem_cons_of_mem _ hothers) hc)

/-! ## The first separator -/

/-- A text without the separator is not cut. -/
theorem cut?_of_not_mem {cs : List Char} (h : separator ∉ cs) : cut? separator cs = none := by
  have hall : ∀ c ∈ cs, decide (c ≠ separator) = true := fun c hc =>
    decide_eq_true fun heq => h (heq ▸ hc)
  have hnone : cs.dropWhile (· ≠ separator) = [] := by
    rw [← List.append_nil cs, List.dropWhile_append_of_pos hall]
    rfl
  unfold cut?
  rw [hnone]

/-- **The first separator cuts a text**, whatever stands behind it. -/
theorem cut?_append {front : List Char} (h : separator ∉ front) (back : List Char) :
    cut? separator (front ++ separator :: back) = some (front, back) := by
  have hfront : ∀ c ∈ front, decide (c ≠ separator) = true := fun c hc =>
    decide_eq_true fun heq => h (heq ▸ hc)
  unfold cut?
  rw [List.dropWhile_append_of_pos hfront, List.takeWhile_append_of_pos hfront]
  simp

/-- A text that is cut is put together again. -/
theorem eq_append_of_cut? {cs front back : List Char}
    (h : cut? separator cs = some (front, back)) : cs = front ++ separator :: back := by
  unfold cut? at h
  split at h
  · cases h
  · next c rest hdrop =>
    obtain rfl : c = separator := by
      have hnot := List.head?_dropWhile_not (fun d => decide (d ≠ separator)) cs
      rw [hdrop] at hnot
      simpa using hnot
    obtain ⟨rfl, rfl⟩ := Prod.mk.inj (Option.some.inj h)
    rw [← hdrop]
    exact List.takeWhile_append_dropWhile.symm

end QuicTelemetry.Text
