import QuicTelemetry.Proofs.Log.JsonReading

/-!
# JSON texts are lines

No character of a JSON text is beyond the printable ones of ASCII, so a text of
however many lines is written on one, and one line of a log is one record. Most
parts of a JSON text are its own: marks, words, digits and escapes. The only
characters that come from elsewhere are those of the texts in quotes, and of
these the printable ones alone stand for themselves.
-/

namespace QuicTelemetry.Json

/-- **A text on one line**: all its characters are printable ones of ASCII. That is
more than a line has to be. It is asked for because the parts of a JSON text that are
its own are all of this kind, so whatever a text is put together from is looked at
character by character. -/
def IsLine (cs : List Char) : Prop := ∀ c ∈ cs, 0x20 ≤ c.toNat ∧ c.toNat < 0x7f

instance (cs : List Char) : Decidable (IsLine cs) := List.decidableBAll _ cs

@[simp] theorem isLine_nil : IsLine [] := nofun

@[simp] theorem isLine_cons {c : Char} {cs : List Char} :
    IsLine (c :: cs) ↔ (0x20 ≤ c.toNat ∧ c.toNat < 0x7f) ∧ IsLine cs :=
  List.forall_mem_cons

@[simp] theorem isLine_append {cs ds : List Char} : IsLine (cs ++ ds) ↔ IsLine cs ∧ IsLine ds :=
  List.forall_mem_append

/-- What is cut out of a line is a line: the digits of a number are divided by its
point. -/
theorem IsLine.subset {cs ds : List Char} (h : IsLine ds) (hsub : cs ⊆ ds) : IsLine cs :=
  fun c hc => h c (hsub hc)

/-- Lines that are put in a row with a separator between them: the items of an array and
the entries of an object. -/
theorem isLine_intercalate {separator : List Char} (hseparator : IsLine separator)
    {texts : List (List Char)} (h : ∀ text ∈ texts, IsLine text) :
    IsLine (List.intercalate separator texts) := by
  induction texts with
  | nil => exact isLine_nil
  | cons text texts ih =>
    rw [List.forall_mem_cons] at h
    cases texts with
    | nil => rw [List.intercalate_singleton]; exact h.1
    | cons next texts =>
      rw [List.intercalate_cons_cons, isLine_append, isLine_append]
      exact ⟨⟨h.1, hseparator⟩, ih h.2⟩

/-! ## Numerals -/

theorem isLine_zeros (n : Nat) : IsLine (List.replicate n '0') := by
  intro c hc
  rw [List.eq_of_mem_replicate hc]
  decide

/-- **A numeral is a line**, in every base up to that of the escapes. The digits are
those of the number without its last one and then that one, so the induction is on the
number. -/
theorem isLine_toDigits {base : Nat} (hbase : 1 < base) (hfew : base ≤ 16) (n : Nat) :
    IsLine (Nat.toDigits base n) := by
  have hdigit : ∀ d < 16, IsLine [Nat.digitChar d] := by decide
  induction n using Nat.strongRecOn with
  | ind n ih =>
    rw [Nat.toDigits_eq_if hbase]
    split
    · next hn => exact hdigit n (by omega)
    · next hn =>
      have hlast := Nat.mod_lt n (by omega : 0 < base)
      rw [isLine_append]
      exact ⟨ih _ (Nat.div_lt_self (by omega) hbase), hdigit _ (by omega)⟩

theorem isLine_toString (i : Int) : IsLine (toString i).toList := by
  cases i with
  | ofNat n =>
    rw [toList_toString_ofNat]
    exact isLine_toDigits (by decide) (by decide) n
  | negSucc n =>
    rw [toList_toString_negSucc, isLine_cons]
    exact ⟨by decide, isLine_toDigits (by decide) (by decide) (n + 1)⟩

/-! ## Texts -/

theorem isLine_escapeUnit (n : Nat) : IsLine (escapeUnit n) := by
  simp only [escapeUnit, Text.hexadecimal, isLine_cons, isLine_append]
  exact ⟨by decide, by decide, isLine_zeros _, isLine_toDigits (by decide) (by decide) n⟩

/-- **What stands for a character is a line**, whichever way it is written. A character
that stands for itself is printable by the rule that lets it; of the escapes with a
letter there are but a few, which are gone through; and a unit is a numeral. -/
theorem Escaped.isLine {c : Char} {text : List Char} (h : Escaped c text) : IsLine text := by
  cases h with
  | letter hu hletter =>
    have hprintable : ∀ entry ∈ letterEscapes, IsLine ['\\', entry.1] := by decide
    obtain ⟨before, after, hsplit, -⟩ := List.lookup_eq_some_iff.mp hletter
    exact hprintable _ (hsplit ▸ List.mem_append_right _ List.mem_cons_self)
  | plain _ _ hplain => exact isLine_cons.mpr ⟨hplain, isLine_nil⟩
  | unit => exact isLine_escapeUnit _
  | pair => exact isLine_append.mpr ⟨isLine_escapeUnit _, isLine_escapeUnit _⟩

/-- **A text in quotes is a line**, whatever the text. Its line feeds are among the
characters that are escaped. -/
theorem isLine_quoted (s : String) : IsLine (quoted s) := by
  have hescaped : IsLine (s.toList.flatMap escapeChar) := by
    intro d hd
    obtain ⟨c, -, hc⟩ := List.mem_flatMap.mp hd
    exact (escaped_escapeChar c).isLine d hc
  simp only [quoted, List.cons_append, isLine_cons, isLine_append]
  exact ⟨by decide, hescaped, by decide, isLine_nil⟩

end QuicTelemetry.Json

namespace QuicTelemetry.Decimal

open Json

theorem isLine_ofCoefficient (coefficient : Nat) (exponent : Int) :
    IsLine (ofCoefficient coefficient exponent).digits :=
  isLine_toDigits (by decide) (by decide) _

/-- The digits of the shortest numeral are a line. The search goes through candidates
that are all made in one way, so it makes no difference which of them it takes. -/
theorem isLine_shortest (units : Nat) : IsLine (shortest units).digits := by
  have hsearch (fuel digits : Nat) (point : Int) : IsLine (search units point digits fuel).digits := by
    induction fuel generalizing digits with
    | zero => exact isLine_ofCoefficient _ _
    | succ fuel ih =>
      unfold search
      split
      · exact isLine_ofCoefficient _ _
      · exact ih _
  exact hsearch _ _ _

/-- A numeral in positional form puts zeros before, behind or nowhere, by where the point
is. -/
theorem isLine_positional {d : Decimal} (h : IsLine d.digits) : IsLine d.positional := by
  unfold positional
  dsimp only
  split
  · simp [h, isLine_zeros]
  · split
    · simp [h, isLine_zeros]
    · simp only [isLine_append, isLine_cons]
      exact ⟨h.subset (List.take_subset _ _), by decide, h.subset (List.drop_subset _ _)⟩

/-- A numeral with an exponent has a sign there and at least two digits. -/
theorem isLine_exponential {d : Decimal} (h : IsLine d.digits) : IsLine d.exponential := by
  have hsign : IsLine [if d.point - 1 < 0 then '-' else '+'] := by split <;> decide
  have hsize : IsLine (Nat.toDigits 10 (d.point - 1).natAbs) :=
    isLine_toDigits (by decide) (by decide) _
  unfold exponential
  simp only [isLine_append, isLine_cons] at hsign ⊢
  refine ⟨⟨?_, by decide, hsign.1, isLine_zeros _⟩, hsize⟩
  -- the point stands behind the first digit, if there are more
  split
  · exact isLine_nil
  · next heq => exact heq ▸ h
  · next heq =>
    rw [heq, isLine_cons] at h
    exact isLine_cons.mpr ⟨h.1, isLine_cons.mpr ⟨by decide, h.2⟩⟩

end QuicTelemetry.Decimal

namespace QuicTelemetry.Json

/-! ## Values -/

/-- **A number of binary64 is written as a line**: three words for what is not finite,
and otherwise the digits of its shortest numeral with a point, or an exponent. -/
theorem isLine_render (x : Binary64) : IsLine (x.render Decimal.Layout.json).toList := by
  cases x with
  | nan => decide
  | infinite negative => cases negative <;> decide
  | finite negative units h =>
    have hdigits := Decimal.isLine_shortest units
    have hbody (least most : Int) : IsLine (if units = 0 then "0.0".toList
        else if least < (Decimal.shortest units).point ∧ (Decimal.shortest units).point ≤ most
          then (Decimal.shortest units).positional else (Decimal.shortest units).exponential) := by
      split
      · decide
      split
      · exact Decimal.isLine_positional hdigits
      · exact Decimal.isLine_exponential hdigits
    unfold Binary64.render
    rw [String.toList_ofList]
    cases negative with
    | true => exact isLine_cons.mpr ⟨by decide, hbody _ _⟩
    | false => exact hbody _ _

/-- An array or an object is a line if its items are: nothing else is put between the
brackets but commas and blanks. -/
theorem isLine_enclosed {left right : Char} (hleft : IsLine [left]) (hright : IsLine [right])
    {texts : List (List Char)} (h : ∀ text ∈ texts, IsLine text) :
    IsLine (enclosed left right texts) := by
  rw [isLine_cons] at hleft
  simp only [enclosed, List.cons_append, isLine_cons, isLine_append]
  exact ⟨hleft.1, isLine_intercalate (by decide) h, isLine_cons.mp hright⟩

mutual

/-- **The JSON text of a value is a line**, whatever the value. The induction is on the
value, with its items and its entries. What JSON has no form for is written as a text in
quotes, so nothing has to be known of that text. -/
theorem isLine_write (textOf : Value → String) (v : Value) : IsLine (write textOf v) := by
  cases v with
  | null => exact (by decide : IsLine "null".toList)
  | bool b =>
    cases b with
    | true => exact (by decide : IsLine "true".toList)
    | false => exact (by decide : IsLine "false".toList)
  | int i => exact isLine_toString i
  | real x => exact isLine_render x
  | text s => exact isLine_quoted s
  | list items | tuple items =>
    exact isLine_enclosed (by decide) (by decide) (isLine_writeAll textOf items)
  | dict entries => exact isLine_enclosed (by decide) (by decide) (isLine_writeEntries textOf entries)
  | bytes | label | address | network | failure | future | object => exact isLine_quoted _

theorem isLine_writeAll (textOf : Value → String) (items : List Value) :
    ∀ text ∈ writeAll textOf items, IsLine text := by
  cases items with
  | nil => nofun
  | cons item rest =>
    exact List.forall_mem_cons.mpr ⟨isLine_write textOf item, isLine_writeAll textOf rest⟩

theorem isLine_writeEntries (textOf : Value → String) (entries : List (String × Value)) :
    ∀ text ∈ writeEntries textOf entries, IsLine text := by
  match entries with
  | [] => nofun
  | (key, v) :: rest =>
    refine List.forall_mem_cons.mpr ⟨?_, isLine_writeEntries textOf rest⟩
    simp only [isLine_append, isLine_cons]
    exact ⟨isLine_quoted key, by decide, by decide, isLine_write textOf v⟩

end

end QuicTelemetry.Json
