import QuicTelemetry.Text.LowerCase

/-!
# Words

The characters of names are those of ASCII: letters, digits and the underscore. What is
asked of such a character can be asked of each of them (`Text.of_isWordChar`), and each
has a lower case of its own, so the lower case of a text in ASCII goes character by
character. An identifier is a word that does not start with a digit.
-/

namespace QuicTelemetry.Text

/-! ## ASCII -/

theorem isAlphanum_of_isLower {c : Char} (h : c.isLower = true) : c.isAlphanum = true := by
  show (c.isUpper || c.isLower || c.isDigit) = true
  rw [h, Bool.or_true, Bool.true_or]

theorem toNat_lt_of_isAlphanum {c : Char} (h : c.isAlphanum = true) : c.toNat < 128 := by
  have hle (last : Char) (hlast : last.toNat < 128) (hc : c.val ≤ last.val) : c.toNat < 128 :=
    Nat.lt_of_le_of_lt (UInt32.le_iff_toNat_le.mp hc) hlast
  rcases (Bool.or_eq_true ..).mp h with halpha | hdigit
  · rcases (Bool.or_eq_true ..).mp halpha with hupper | hlower
    · exact hle 'Z' (by decide) (of_decide_eq_true hupper).2
    · exact hle 'z' (by decide) (of_decide_eq_true ((Bool.and_eq_true ..).mp hlower).2)
  · exact hle '9' (by decide) (of_decide_eq_true ((Bool.and_eq_true ..).mp hdigit).2)

/-- Characters of ASCII have their own lower case each. -/
theorem lowerAfter_of_ascii {cs : List Char} (h : ∀ c ∈ cs, c.toNat < 128) (before : List Char) :
    lowerAfter before cs = cs.map lowerChar := by
  induction cs generalizing before with
  | nil => rfl
  | cons c cs ih =>
    have hc := h c List.mem_cons_self
    have hsigma : c ≠ 'Σ' := by
      rintro rfl
      exact absurd hc (by decide)
    have hdot : c ≠ 'İ' := by
      rintro rfl
      exact absurd hc (by decide)
    rw [lowerAfter, if_neg hsigma, if_neg hdot, ih fun c hmem => h c (List.mem_cons_of_mem _ hmem)]
    rfl

/-- The lower case of a text in ASCII. -/
theorem toList_lower_of_ascii {s : String} (h : ∀ c ∈ s.toList, c.toNat < 128) :
    (lower s).toList = s.toList.map lowerChar := by
  rw [lower, String.toList_ofList, lowerAfter_of_ascii h]

/-- The lower case of a text is that of its parts. -/
theorem lower_append {s t : String} (hs : ∀ c ∈ s.toList, c.toNat < 128)
    (ht : ∀ c ∈ t.toList, c.toNat < 128) : lower (s ++ t) = lower s ++ lower t := by
  have hst : ∀ c ∈ (s ++ t).toList, c.toNat < 128 := by
    intro c hc
    rw [String.toList_append] at hc
    exact (List.mem_append.mp hc).elim (hs c) (ht c)
  rw [← String.toList_inj, toList_lower_of_ascii hst, String.toList_append, String.toList_append,
    List.map_append, toList_lower_of_ascii hs, toList_lower_of_ascii ht]

/-! ## Characters of words -/

/-- Whether a character may stand in a word. -/
def isWordChar (c : Char) : Bool := c.isAlphanum || c == '_'

theorem isWordChar_of_isAlphanum {c : Char} (h : c.isAlphanum = true) : isWordChar c = true :=
  (Bool.or_eq_true ..).mpr (.inl h)

theorem toNat_lt_of_isWordChar {c : Char} (h : isWordChar c = true) : c.toNat < 128 := by
  rcases (Bool.or_eq_true ..).mp h with halnum | hmark
  · exact toNat_lt_of_isAlphanum halnum
  · rw [beq_iff_eq.mp hmark]
    decide

/-- **What is true of the characters of words** one by one is true of any. -/
theorem of_isWordChar {P : Char → Prop}
    (hP : ∀ n < 128, isWordChar (Char.ofNat n) = true → P (Char.ofNat n)) {c : Char}
    (h : isWordChar c = true) : P c := by
  have hc := hP c.toNat (toNat_lt_of_isWordChar h)
  rw [Char.ofNat_toNat] at hc
  exact hc h

/-- **A word**: some characters of words and no other. -/
structure IsWord (cs : List Char) : Prop where
  /-- There is one. -/
  ne_nil : cs ≠ []
  /-- Each may stand in a word. -/
  isWordChar : ∀ c ∈ cs, isWordChar c = true

theorem IsWord.exists_cons {cs : List Char} (h : IsWord cs) :
    ∃ c rest, cs = c :: rest ∧ Text.isWordChar c = true := by
  obtain ⟨c, rest, rfl⟩ := List.exists_cons_of_ne_nil h.ne_nil
  exact ⟨c, rest, rfl, h.isWordChar c List.mem_cons_self⟩

theorem isWord_toList {s : String} (hne : s ≠ "") (h : ∀ c ∈ s.toList, isWordChar c = true) :
    IsWord s.toList :=
  ⟨fun hnil => hne (String.toList_eq_nil_iff.mp hnil), h⟩

/-! ## Identifiers -/

/-- **An identifier**: a letter or an underscore, then letters, digits and
underscores. -/
def IsIdentifier (s : String) : Prop :=
  ∃ c rest, s.toList = c :: rest ∧ (c.isAlpha = true ∨ c = '_') ∧ ∀ d ∈ rest, isWordChar d = true

/-- What an identifier may start with may stand in one. -/
theorem isWordChar_of_first {c : Char} (h : c.isAlpha = true ∨ c = '_') : isWordChar c = true := by
  rcases h with h | rfl
  · simp [isWordChar, Char.isAlphanum, h]
  · rfl

namespace IsIdentifier

variable {s t : String}

theorem isWordChar_of_mem (h : IsIdentifier s) : ∀ c ∈ s.toList, isWordChar c = true := by
  obtain ⟨first, rest, hlist, hfirst, hrest⟩ := h
  rw [hlist, List.forall_mem_cons]
  exact ⟨isWordChar_of_first hfirst, hrest⟩

theorem toList_ne_nil (h : IsIdentifier s) : s.toList ≠ [] := by
  obtain ⟨first, rest, hlist, -⟩ := h
  rw [hlist]
  exact List.cons_ne_nil first rest

/-- An identifier goes on with whatever may stand in one. -/
theorem append (h : IsIdentifier s) (ht : ∀ c ∈ t.toList, isWordChar c = true) :
    IsIdentifier (s ++ t) := by
  obtain ⟨first, rest, hlist, hfirst, hrest⟩ := h
  refine ⟨first, rest ++ t.toList, ?_, hfirst, List.forall_mem_append.mpr ⟨hrest, ht⟩⟩
  rw [String.toList_append, hlist, List.cons_append]

/-- No line end stands in an identifier. -/
theorem newline_notMem (h : IsIdentifier s) : '\n' ∉ s.toList := fun hmem =>
  absurd (h.isWordChar_of_mem _ hmem) (by decide)

theorem getLast?_ne (h : IsIdentifier s) : s.toList.getLast? ≠ some '\n' := fun hlast =>
  h.newline_notMem (List.mem_of_getLast? hlast)

end IsIdentifier

end QuicTelemetry.Text
