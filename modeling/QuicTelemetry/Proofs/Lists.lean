import Mathlib.Data.List.Forall2
import Mathlib.Data.List.Induction
import Mathlib.Data.List.Nodup

/-!
# Lists

Facts about lists that the library does not have in this form and that proofs about
stores, facades and labels share: what a list keeps when one entry is replaced, what
reading piece by piece comes to, and what is left when entries are told apart.
-/

namespace QuicTelemetry

/-! ## Single entries -/

/-- Two entries of a list without repetitions are one if their places are. -/
theorem eq_iff_of_getElem? {α : Type} {l : List α} (hl : l.Nodup) {i j : Nat} {a b : α}
    (ha : l[i]? = some a) (hb : l[j]? = some b) : a = b ↔ i = j := by
  have hlt : i < l.length := (List.getElem?_eq_some_iff.mp ha).1
  rw [← List.getElem?_inj hlt hl, ha, hb, Option.some_inj]

/-- What is looked up is an entry. -/
theorem mem_of_lookup {α : Type} {table : List (String × α)} {name : String} {a : α}
    (h : table.lookup name = some a) : (name, a) ∈ table := by
  obtain ⟨before, after, rfl, -⟩ := List.lookup_eq_some_iff.mp h
  exact List.mem_append_right _ List.mem_cons_self

/-- Paired lists have paired entries in each place. -/
theorem forall₂_getElem? {α β : Type} {R : α → β → Prop} {l : List α} {l' : List β}
    (h : List.Forall₂ R l l') (i : Nat) :
    (l[i]? = none ∧ l'[i]? = none) ∨ ∃ a b, l[i]? = some a ∧ l'[i]? = some b ∧ R a b := by
  induction h generalizing i with
  | nil => exact .inl ⟨rfl, rfl⟩
  | @cons a b l l' hab _ ih =>
    cases i with
    | zero => exact .inr ⟨a, b, rfl, rfl, hab⟩
    | succ i => exact ih i

/-- What one member of a list alone finds, the list finds. -/
theorem findSome?_of_unique {α β : Type} {f : α → Option β} {l : List α} {a : α} (ha : a ∈ l)
    (h : ∀ b ∈ l, b ≠ a → f b = none) : l.findSome? f = f a := by
  induction l with
  | nil => exact absurd ha List.not_mem_nil
  | cons b l ih =>
    rw [List.findSome?_cons]
    by_cases hb : b = a
    · rw [hb]
      cases hfa : f a with
      | some y => rfl
      | none =>
        rw [List.findSome?_eq_none_iff]
        intro c hc
        by_cases hca : c = a
        · rw [hca, hfa]
        · exact h c (List.mem_cons_of_mem _ hc) hca
    · rw [h b List.mem_cons_self hb]
      have ha' : a ∈ l := (List.mem_cons.mp ha).resolve_left (Ne.symm hb)
      exact ih ha' fun c hc => h c (List.mem_cons_of_mem _ hc)

/-! ## One entry replaced -/

/-- To replace an entry by one with the same image changes no image. -/
theorem map_set_of_eq {α β : Type} {l : List α} {i : Nat} {a b : α} {f : α → β}
    (ha : l[i]? = some a) (h : f b = f a) : (l.set i b).map f = l.map f := by
  obtain ⟨hlt, rfl⟩ := List.getElem?_eq_some_iff.mp ha
  rw [List.map_set, h]
  conv_rhs => rw [← List.set_getElem_self (by simpa using hlt : i < (l.map f).length)]
  rw [List.getElem_map]

/-- To replace an entry by another of which neither is chosen changes no choice. -/
theorem filter_set_of_not {α : Type} {l : List α} {i : Nat} {a b : α} {p : α → Bool}
    (ha : l[i]? = some a) (hpa : p a = false) (hpb : p b = false) :
    (l.set i b).filter p = l.filter p := by
  induction l generalizing i with
  | nil => rfl
  | cons c l ih =>
    cases i with
    | zero =>
      obtain rfl := Option.some.inj ha
      rw [List.set_cons_zero, List.filter_cons_of_neg (Bool.eq_false_iff.mp hpb),
        List.filter_cons_of_neg (Bool.eq_false_iff.mp hpa)]
    | succ i =>
      rw [List.set_cons_succ, List.filter_cons, List.filter_cons, ih ha]

/-- A member of a list in which one entry was changed. -/
theorem exists_of_mem_modify {α : Type} {l : List α} {i : Nat} {f : α → α} {a : α}
    (h : a ∈ l.modify i f) : ∃ b ∈ l, a = b ∨ a = f b := by
  obtain ⟨j, hj⟩ := List.mem_iff_getElem?.mp h
  rw [List.getElem?_modify] at hj
  obtain ⟨b, hb, rfl⟩ := Option.map_eq_some_iff.mp hj
  refine ⟨b, List.mem_of_getElem? hb, ?_⟩
  by_cases hij : i = j <;> simp [hij]

/-! ## Something made of each entry -/

/-- What is written piece by piece is read back piece by piece. -/
theorem mapM_map_eq {α β : Type} {read : α → Option β} {write : β → α} {l : List β}
    (h : ∀ b ∈ l, read (write b) = some b) : (l.map write).mapM read = some l := by
  induction l with
  | nil => rfl
  | cons b l ih =>
    rw [List.forall_mem_cons] at h
    simp [h.1, ih h.2]

/-- What is made of each is missing if one of it is. -/
theorem mapM_eq_none_iff {α β : Type} {f : α → Option β} {as : List α} :
    as.mapM f = none ↔ ∃ a ∈ as, f a = none := by
  induction as with
  | nil => simp
  | cons a as ih =>
    rw [List.mapM_cons, List.exists_mem_cons_iff, ← ih]
    cases f a with
    | none => simp
    | some b => cases as.mapM f <;> simp

/-! ## Some of the entries -/

/-- What all of a list but those with a property make is nothing. -/
theorem flatMap_filter_of {α β : Type} {l : List α} {p : α → Bool} {f : α → List β}
    (h : ∀ a ∈ l, p a = false → f a = []) : l.flatMap f = (l.filter p).flatMap f := by
  induction l with
  | nil => rfl
  | cons a l ih =>
    have hl := ih fun b hb => h b (List.mem_cons_of_mem _ hb)
    rw [List.flatMap_cons, List.filter_cons, hl]
    cases hp : p a with
    | false => rw [h a List.mem_cons_self hp]; rfl
    | true => rfl

/-- What is divided in two is counted in two. -/
theorem countP_eq_add_filter {α : Type} {p q : α → Bool} (h : ∀ a, p a = false → q a = true)
    (l : List α) : l.countP q = l.countP (!p ·) + (l.filter p).countP q := by
  induction l with
  | nil => rfl
  | cons a l ih =>
    rw [List.countP_cons, List.countP_cons, ih, List.filter_cons]
    cases hp : p a with
    | false =>
      rw [h a hp]
      simp only [Bool.not_false, if_true, Bool.false_eq_true, if_false]
      omega
    | true =>
      rw [if_pos rfl, List.countP_cons]
      simp only [Bool.not_true, Bool.false_eq_true, if_false]
      omega

section Distinct

variable {α β : Type} [BEq α] [LawfulBEq α] [BEq β] [LawfulBEq β]

/-- One more entry keeps the distinct ones, and is the last of them if it is
new. -/
theorem eraseDups_concat (l : List α) (a : α) :
    (l ++ [a]).eraseDups = if a ∈ l.eraseDups then l.eraseDups else l.eraseDups ++ [a] := by
  rw [List.eraseDups_append]
  unfold List.removeAll
  by_cases h : a ∈ l
  · rw [if_pos (List.mem_eraseDups.mpr h), List.filter_cons_of_neg (by simpa using h)]
    exact List.append_nil _
  · rw [if_neg fun hmem => h (List.mem_eraseDups.mp hmem),
      List.filter_cons_of_pos (by simpa using h)]
    rfl

end Distinct

end QuicTelemetry
