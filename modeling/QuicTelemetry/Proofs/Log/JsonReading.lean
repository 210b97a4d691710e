import QuicTelemetry.Log
import QuicTelemetry.Log.Json
import QuicTelemetry.Proofs.Address.Spelling

/-!
# Reading JSON texts

What a JSON text means is what a reader makes of it. `Json.read?` reads all of JSON,
not only the texts that are written here: blanks between the parts, letters and units
behind a backslash, numbers with places and exponents, and mappings that have a key
twice, of which the later entry counts.

The reader of a part takes it from the front of the characters and gives what follows
it. So a part is read back from its text **whatever follows**, and that is how the
lemmas are put. This module has them for the parts that are not made of others: a text
in quotes is read back (`Json.readText?_quoted`), character by character from any form
that it may have there (`Json.Escaped`), and so is a whole number, if what follows it
is no more of it (`Json.readNumber?_toString`).
-/

namespace QuicTelemetry.Json

/-! ## Reading -/

/-- Whether a character may stand between the parts of a JSON text. -/
def isBlank (c : Char) : Bool := c == ' ' || c == '\t' || c == '\n' || c == '\r'

/-- What follows the blanks in front. -/
def skipBlanks (cs : List Char) : List Char := cs.dropWhile isBlank

/-- **A unit of sixteen bits** in four hexadecimal digits, and what follows it. -/
def readUnit? : List Char → Option (Nat × List Char)
  | a :: b :: c :: d :: rest =>
    ([a, b, c, d].mapM Address.hexDigit?).map fun digits => (Address.number 16 digits, rest)
  | _ => none

/-- The escapes of one letter, and what they stand for. -/
def letterEscapes : List (Char × Char) :=
  [('"', '"'), ('\\', '\\'), ('/', '/'), ('b', '\x08'), ('f', '\x0c'), ('n', '\n'), ('r', '\r'),
    ('t', '\t')]

/-- **The second unit of a pair** behind the first one, and the character the
two stand for. -/
def readPair? (high : Nat) : List Char → Option (Char × List Char)
  | '\\' :: 'u' :: rest =>
    (readUnit? rest).bind fun (low, rest) =>
      if 0xdc00 ≤ low ∧ low < 0xe000 then
        some (Char.ofNat (0x10000 + (high - 0xd800) * 0x400 + (low - 0xdc00)), rest)
      else none
  | _ => none

/-- **What stands behind a backslash**: a letter, or the number of a unit, which
is the first of a pair if it lies in the range for that. -/
def readEscape? : List Char → Option (Char × List Char)
  | [] => none
  | c :: rest =>
    if c = 'u' then
      (readUnit? rest).bind fun (unit, rest) =>
        if unit < 0xd800 ∨ 0xe000 ≤ unit then some (Char.ofNat unit, rest)
        else if unit < 0xdc00 then readPair? unit rest
        else none
    else (letterEscapes.lookup c).map fun d => (d, rest)

theorem length_readUnit? {cs rest : List Char} {n : Nat} (h : readUnit? cs = some (n, rest)) :
    rest.length < cs.length := by
  unfold readUnit? at h
  split at h
  · obtain ⟨digits, -, heq⟩ := Option.map_eq_some_iff.mp h
    obtain ⟨-, rfl⟩ := Prod.mk.inj heq
    simp only [List.length_cons]
    omega
  · cases h

theorem length_readPair? {cs rest : List Char} {high : Nat} {d : Char}
    (h : readPair? high cs = some (d, rest)) : rest.length < cs.length := by
  unfold readPair? at h
  split at h
  · next tail =>
    obtain ⟨⟨low, after⟩, hlow, h⟩ := Option.bind_eq_some_iff.mp h
    have hafter := length_readUnit? hlow
    dsimp only at h
    split at h
    · obtain ⟨-, rfl⟩ := Prod.mk.inj (Option.some.inj h)
      exact Nat.lt_add_right 2 hafter
    · cases h
  · cases h

theorem length_readEscape? {cs rest : List Char} {d : Char}
    (h : readEscape? cs = some (d, rest)) : rest.length < cs.length := by
  unfold readEscape? at h
  split at h
  · cases h
  · next c tail =>
    split at h
    · obtain ⟨⟨unit, after⟩, hunit, h⟩ := Option.bind_eq_some_iff.mp h
      have hafter : after.length < (c :: tail).length := Nat.lt_add_right 1 (length_readUnit? hunit)
      dsimp only at h
      split at h
      · obtain ⟨-, rfl⟩ := Prod.mk.inj (Option.some.inj h)
        exact hafter
      · split at h
        · exact Nat.lt_trans (length_readPair? h) hafter
        · cases h
    · obtain ⟨d, -, heq⟩ := Option.map_eq_some_iff.mp h
      obtain ⟨-, rfl⟩ := Prod.mk.inj heq
      exact Nat.lt_succ_self _

/-- **A text up to its closing quote**, and what follows it. -/
def readText? (cs : List Char) : Option (List Char × List Char) :=
  match cs with
  | [] => none
  | c :: rest =>
    if c = '"' then some ([], rest)
    else if c = '\\' then
      match _h : readEscape? rest with
      | some (d, rest) => (readText? rest).map fun (text, rest) => (d :: text, rest)
      | none => none
    else if c.toNat < 0x20 then none
    else (readText? rest).map fun (text, rest) => (c :: text, rest)
termination_by cs.length
decreasing_by
  · exact Nat.lt_succ_of_lt (length_readEscape? ‹_›)
  · exact Nat.lt_succ_self _

/-- The digits in front, if there are any, and what follows them. -/
def readDigits? (cs : List Char) : Option (List Char × List Char) :=
  let digits := cs.takeWhile Char.isDigit
  if digits = [] then none else some (digits, cs.dropWhile Char.isDigit)

/-- The places behind a point, point included; none if there is no point. -/
def readPlaces? : List Char → Option (List Char × List Char)
  | '.' :: rest => (readDigits? rest).map fun (digits, rest) => ('.' :: digits, rest)
  | rest => some ([], rest)

/-- The exponent, its mark included; none if there is no mark. -/
def readExponent? (cs : List Char) : Option (List Char × List Char) :=
  match cs with
  | [] => some ([], [])
  | c :: rest =>
    if c = 'e' ∨ c = 'E' then
      let (sign, rest) := match rest with
        | '-' :: rest => (['-'], rest)
        | '+' :: rest => (['+'], rest)
        | rest => ([], rest)
      (readDigits? rest).map fun (digits, rest) => ('e' :: sign ++ digits, rest)
    else some ([], cs)

/-- **A number without its sign**, which is a whole one if it has neither places
nor an exponent. -/
def readUnsigned? (negative : Bool) (cs : List Char) : Option (Value × List Char) := do
  let (digits, rest) ← readDigits? cs
  if digits.head? = some '0' ∧ digits ≠ ['0'] then none
  else
    let (places, rest) ← readPlaces? rest
    let (exponent, rest) ← readExponent? rest
    if places = [] ∧ exponent = [] then
      let n : Int := Numeral.natOf digits
      return (.int (if negative then -n else n), rest)
    else
      let x ← Binary64.ofText? (String.ofList (digits ++ places ++ exponent))
      return (.real (if negative then x.neg else x), rest)

/-- **The number in front**, and what follows it. -/
def readNumber? : List Char → Option (Value × List Char)
  | '-' :: rest => readUnsigned? true rest
  | rest => readUnsigned? false rest

/-- The words for values, and the values. -/
def words : List (List Char × Value) :=
  [("null".toList, .null), ("true".toList, .bool true), ("false".toList, .bool false)]

/-- The word in front, and what follows it. -/
def readWord? (cs : List Char) : Option (Value × List Char) :=
  words.findSome? fun (word, v) => (word.isPrefixOf? cs).map fun rest => (v, rest)

/-- **Items with commas between them** up to the mark behind the last one, and
what follows it. The first number bounds how many there are. -/
def readItems? {α : Type} (close : Char) (readItem? : List Char → Option (α × List Char)) :
    Nat → List Char → Option (List α × List Char)
  | 0, _ => none
  | fuel + 1, cs =>
    (readItem? cs).bind fun (item, rest) =>
      match skipBlanks rest with
      | [] => none
      | c :: rest =>
        if c = ',' then
          (readItems? close readItem? fuel rest).map fun (items, rest) => (item :: items, rest)
        else if c = close then some ([item], rest)
        else none

/-- Items, of which there may be none, up to the mark behind them. -/
def readEnclosed? {α : Type} (close : Char) (readItem? : List Char → Option (α × List Char))
    (fuel : Nat) (cs : List Char) : Option (List α × List Char) :=
  match skipBlanks cs with
  | [] => none
  | c :: rest => if c = close then some ([], rest) else readItems? close readItem? fuel (c :: rest)

/-- **An entry of a mapping**: its key, a colon and its value. -/
def readField? (readValue? : List Char → Option (Value × List Char)) (cs : List Char) :
    Option ((String × Value) × List Char) :=
  match skipBlanks cs with
  | '"' :: rest =>
    (readText? rest).bind fun (key, rest) =>
      match skipBlanks rest with
      | ':' :: rest => (readValue? rest).map fun (v, rest) => ((String.ofList key, v), rest)
      | _ => none
  | _ => none

/-- **The value in front**, and what follows it. Of two entries of a key the
later one counts. The number bounds how deep values lie in each other, and how
many there are in one. -/
def readValue? : Nat → List Char → Option (Value × List Char)
  | 0, _ => none
  | fuel + 1, cs =>
    match skipBlanks cs with
    | [] => none
    | c :: rest =>
      if c = '"' then
        (readText? rest).map fun (text, rest) => (.text (String.ofList text), rest)
      else if c = '[' then
        (readEnclosed? ']' (readValue? fuel) fuel rest).map fun (items, rest) =>
          (.list items, rest)
      else if c = '\x7b' then
        (readEnclosed? '\x7d' (readField? (readValue? fuel)) fuel rest).map fun (entries, rest) =>
          (.dict (Fields.ofList entries).entries, rest)
      else (readWord? (c :: rest)).or (readNumber? (c :: rest))

/-- **The value of a JSON text**, if it is one. -/
def read? (s : String) : Option Value :=
  (readValue? s.length s.toList).bind fun (v, rest) => if skipBlanks rest = [] then some v else none

/-! ## Texts -/

theorem readUnit?_append {digits : List Char} {values : List Nat} (hlength : digits.length = 4)
    (hvalues : digits.mapM Address.hexDigit? = some values) (rest : List Char) :
    readUnit? (digits ++ rest) = some (Address.number 16 values, rest) := by
  match digits, hlength with
  | [a, b, c, d], _ =>
    show ([a, b, c, d].mapM Address.hexDigit?).map _ = _
    rw [hvalues]
    rfl

/-- Zeros in front change nothing. -/
theorem number_replicate_zero (base k : Nat) (digits : List Nat) :
    Address.number base (List.replicate k 0 ++ digits) = Address.number base digits := by
  induction k with
  | zero => rfl
  | succ k ih =>
    refine Eq.trans ?_ ih
    show List.foldl _ (base * 0 + 0) (List.replicate k 0 ++ digits) = _
    rw [Nat.mul_zero]
    rfl

/-- **A unit is read back** from its four digits. -/
theorem readUnit?_hexadecimal {n : Nat} (hn : n < 65536) (rest : List Char) :
    readUnit? (Text.hexadecimal 4 n ++ rest) = some (n, rest) := by
  obtain ⟨values, hvalues, hnumber⟩ := Address.exists_mapM_hexDigit? n
  have hfew : (Nat.toDigits 16 n).length ≤ 4 :=
    (Nat.length_toDigits_le_iff (by decide) (by decide)).mpr hn
  have hlength : (Text.hexadecimal 4 n).length = 4 := by
    simp only [Text.hexadecimal, List.length_append, List.length_replicate]
    omega
  -- the digits are filled up with zeros in front, which are read as such
  have hzeros (k : Nat) : (List.replicate k '0').mapM Address.hexDigit? = some (List.replicate k 0) := by
    have h : ((List.replicate k 0).map fun _ => '0').mapM Address.hexDigit?
        = some (List.replicate k 0) :=
      mapM_map_eq fun b hb => (List.eq_of_mem_replicate hb).symm ▸ rfl
    rwa [List.map_replicate] at h
  have hread : (Text.hexadecimal 4 n).mapM Address.hexDigit?
      = some (List.replicate (4 - (Nat.toDigits 16 n).length) 0 ++ values) := by
    simp [Text.hexadecimal, List.mapM_append, hzeros, hvalues]
  rw [readUnit?_append hlength hread, number_replicate_zero, hnumber]

/-- No character is half a pair. -/
theorem toNat_of_char (c : Char) :
    c.toNat < 0xd800 ∨ (0xe000 ≤ c.toNat ∧ c.toNat < 0x110000) := by
  rcases c.valid with h | h
  · exact .inl h
  · exact .inr ⟨h.1, h.2⟩

/-- An escape is read as the character that stands behind the backslash. -/
theorem readText?_backslash {cs rest : List Char} {c : Char}
    (h : readEscape? cs = some (c, rest)) :
    readText? ('\\' :: cs) = (readText? rest).map fun (text, rest) => (c :: text, rest) := by
  rw [readText?]
  simp only [Char.reduceEq, if_false, if_true]
  split
  · next heq =>
    rw [h] at heq
    cases heq
    rfl
  · next heq => rw [h] at heq; cases heq

theorem escapeUnit_append (n : Nat) (rest : List Char) :
    escapeUnit n ++ rest = '\\' :: 'u' :: (Text.hexadecimal 4 n ++ rest) := rfl

/-- An escape of one letter is read. -/
theorem readEscape?_letter {c d : Char} (hu : c ≠ 'u') (h : letterEscapes.lookup c = some d)
    (rest : List Char) : readEscape? (c :: rest) = some (d, rest) := by
  simp only [readEscape?, if_neg hu, h, Option.map_some]

/-- A unit that is no half of a pair is read as a character. -/
theorem readEscape?_unit {n : Nat} (hn : n < 0xd800 ∨ (0xe000 ≤ n ∧ n < 0x10000))
    (rest : List Char) :
    readEscape? ('u' :: (Text.hexadecimal 4 n ++ rest)) = some (Char.ofNat n, rest) := by
  have hunit := readUnit?_hexadecimal (by omega : n < 65536) rest
  simp only [readEscape?, if_true, hunit, Option.bind_some]
  rw [if_pos (by omega)]

/-- A pair of units is read as one character. -/
theorem readEscape?_pair {high low : Nat} (hhigh : 0xd800 ≤ high ∧ high < 0xdc00)
    (hlow : 0xdc00 ≤ low ∧ low < 0xe000) (rest : List Char) :
    readEscape? ('u' :: (Text.hexadecimal 4 high ++ (escapeUnit low ++ rest)))
      = some (Char.ofNat (0x10000 + (high - 0xd800) * 0x400 + (low - 0xdc00)), rest) := by
  have hfirst := readUnit?_hexadecimal (by omega : high < 65536) (escapeUnit low ++ rest)
  have hsecond := readUnit?_hexadecimal (by omega : low < 65536) rest
  simp only [readEscape?, if_true, hfirst, Option.bind_some]
  rw [if_neg (by omega), if_pos (by omega)]
  simp only [escapeUnit, List.cons_append, readPair?, hsecond, Option.bind_some]
  rw [if_pos hlow]

/-- **What a character looks like inside quotes**: a letter behind a backslash
that stands for it, itself if it is printable, the number of its unit, or those of
its pair. -/
inductive Escaped (c : Char) : List Char → Prop
  | letter {l : Char} (hu : l ≠ 'u') (h : letterEscapes.lookup l = some c) : Escaped c ['\\', l]
  | plain (hquote : c ≠ '"') (hbackslash : c ≠ '\\') (h : 0x20 ≤ c.toNat ∧ c.toNat < 0x7f) :
    Escaped c [c]
  | unit (h : c.toNat < 0x10000) : Escaped c (escapeUnit c.toNat)
  | pair {beyond : Nat} (h : 0x10000 + beyond = c.toNat) :
    Escaped c (escapeUnit (0xd800 + beyond / 0x400) ++ escapeUnit (0xdc00 + beyond % 0x400))

theorem escaped_escapeChar (c : Char) : Escaped c (escapeChar c) := by
  unfold escapeChar
  split
  · next h => exact .letter (by decide) (by rw [h]; rfl)
  split
  · next h => exact .letter (by decide) (by rw [h]; rfl)
  split
  · next h => exact .letter (by decide) (by rw [h]; rfl)
  split
  · next h => exact .letter (by decide) (by rw [h]; rfl)
  split
  · next h => exact .letter (by decide) (by rw [h]; rfl)
  split
  · next h => exact .letter (by decide) (by rw [h]; rfl)
  split
  · next h => exact .letter (by decide) (by rw [h]; rfl)
  split
  · next hquote hbackslash _ _ _ _ _ hplain => exact .plain hquote hbackslash hplain
  split
  · next hsmall => exact .unit hsmall
  · next hlarge => exact .pair (by omega)

/-- **A character is read back from any of these forms.** -/
theorem Escaped.read {c : Char} {text : List Char} (h : Escaped c text) (rest : List Char) :
    readText? (text ++ rest) = (readText? rest).map fun (text, rest) => (c :: text, rest) := by
  have hchar := toNat_of_char c
  cases h with
  | letter hu hletter => exact readText?_backslash (readEscape?_letter hu hletter rest)
  | plain hquote hbackslash hplain =>
    rw [List.singleton_append, readText?]
    simp only [hquote, hbackslash, if_false, Nat.not_lt.mpr hplain.1]
  | unit hsmall =>
    have hread : readEscape? ('u' :: (Text.hexadecimal 4 c.toNat ++ rest)) = _ :=
      readEscape?_unit (by omega) rest
    rw [Char.ofNat_toNat] at hread
    rw [escapeUnit_append]
    exact readText?_backslash hread
  | @pair beyond hbeyond =>
    have hhigh : 0xd800 ≤ 0xd800 + beyond / 0x400 ∧ 0xd800 + beyond / 0x400 < 0xdc00 := by omega
    have hlow : 0xdc00 ≤ 0xdc00 + beyond % 0x400 ∧ 0xdc00 + beyond % 0x400 < 0xe000 := by omega
    have hread := readEscape?_pair hhigh hlow rest
    have hsum : 0x10000 + (0xd800 + beyond / 0x400 - 0xd800) * 0x400
        + (0xdc00 + beyond % 0x400 - 0xdc00) = c.toNat := by omega
    rw [hsum, Char.ofNat_toNat] at hread
    rw [List.append_assoc, escapeUnit_append]
    exact readText?_backslash hread

/-- **A text is read back from its quoted form.** -/
theorem readText?_quoted (s : String) (rest : List Char) :
    readText? (s.toList.flatMap escapeChar ++ '"' :: rest) = some (s.toList, rest) := by
  induction s.toList with
  | nil =>
    rw [List.flatMap_nil, List.nil_append, readText?]
    rfl
  | cons c cs ih =>
    rw [List.flatMap_cons, List.append_assoc, (escaped_escapeChar c).read, ih]
    rfl

/-! ## Whole numbers -/

/-- **What may follow a value**: nothing, or the mark that ends an item. -/
def Ends (rest : List Char) : Prop := ∀ c ∈ rest.head?, c ∈ [',', ']', '\x7d']

theorem ends_nil : Ends [] := nofun

theorem ends_cons {c : Char} (hc : c ∈ [',', ']', '\x7d']) (rest : List Char) :
    Ends (c :: rest) := by
  intro d hd
  exact Option.mem_some.mp hd ▸ hc

/-- What may follow a value is no part of a number. -/
theorem Ends.head_ne {c : Char} {rest : List Char} (h : Ends (c :: rest)) :
    c.isDigit = false ∧ c ≠ '.' ∧ c ≠ 'e' ∧ c ≠ 'E' := by
  have hc := h c rfl
  simp only [List.mem_cons, List.not_mem_nil, or_false] at hc
  rcases hc with rfl | rfl | rfl <;> decide

/-- Digits are read up to what is no digit. -/
theorem readDigits?_append {digits rest : List Char} (hne : digits ≠ [])
    (hdigits : ∀ c ∈ digits, c.isDigit = true) (hrest : Ends rest) :
    readDigits? (digits ++ rest) = some (digits, rest) := by
  have hstop : rest.takeWhile Char.isDigit = [] ∧ rest.dropWhile Char.isDigit = rest := by
    cases rest with
    | nil => exact ⟨rfl, rfl⟩
    | cons c rest => simp [hrest.head_ne.1]
  unfold readDigits?
  simp only [List.takeWhile_append_of_pos hdigits, List.dropWhile_append_of_pos hdigits, hstop,
    List.append_nil, hne, if_false]

/-- A numeral does not start with a zero, but for the one of zero itself. -/
theorem toDigits_of_head_zero {n : Nat} (h : (Nat.toDigits 10 n).head? = some '0') :
    Nat.toDigits 10 n = ['0'] := by
  induction n using Nat.strongRecOn with
  | ind n ih =>
    rw [Nat.toDigits_eq_if (by decide)] at h ⊢
    split at h
    · next hn =>
      rw [if_pos hn]
      exact congrArg (fun c => [c]) (Option.some.inj h)
    · next hn =>
      rw [List.head?_append, List.head?_eq_some_head Nat.toDigits_ne_nil, Option.some_or,
        ← List.head?_eq_some_head] at h
      have hzero := congrArg (Nat.ofDigitChars 10 · 0) (ih (n / 10) (by omega) h)
      rw [Nat.ofDigitChars_ten_toDigits] at hzero
      exact absurd hzero (by show n / 10 ≠ 0; omega)

/-- **A numeral is read back** as the whole number it stands for. -/
theorem readUnsigned?_toDigits (negative : Bool) (n : Nat) {rest : List Char} (hrest : Ends rest) :
    readUnsigned? negative (Nat.toDigits 10 n ++ rest)
      = some (.int (if negative then -n else n), rest) := by
  have hdigits : readDigits? (Nat.toDigits 10 n ++ rest) = some (Nat.toDigits 10 n, rest) :=
    readDigits?_append Nat.toDigits_ne_nil
      (fun c hc => Nat.isDigit_of_mem_toDigits (by decide) (by decide) hc) hrest
  have hzero : ¬ ((Nat.toDigits 10 n).head? = some '0' ∧ Nat.toDigits 10 n ≠ ['0']) :=
    fun h => h.2 (toDigits_of_head_zero h.1)
  have hplaces : readPlaces? rest = some ([], rest) := by
    unfold readPlaces?
    split
    · exact absurd rfl hrest.head_ne.2.1
    · rfl
  have hexponent : readExponent? rest = some ([], rest) := by
    unfold readExponent?
    split
    · rfl
    · rw [if_neg fun h => h.elim hrest.head_ne.2.2.1 hrest.head_ne.2.2.2]
  have hvalue : Numeral.natOf (Nat.toDigits 10 n) = n := Nat.ofDigitChars_ten_toDigits
  unfold readUnsigned?
  simp only [hdigits, hzero, hplaces, hexponent, hvalue, Option.bind_eq_bind, Option.bind_some,
    if_false, and_self, if_true]
  rfl

theorem toList_toString_ofNat (n : Nat) :
    (toString (Int.ofNat n)).toList = Nat.toDigits 10 n :=
  Nat.toList_repr

theorem toList_toString_negSucc (n : Nat) :
    (toString (Int.negSucc n)).toList = '-' :: Nat.toDigits 10 (n + 1) := by
  show ("-" ++ Nat.repr (n + 1)).toList = _
  rw [String.toList_append, Nat.toList_repr]
  rfl

/-- **A whole number is read back.** -/
theorem readNumber?_toString (i : Int) {rest : List Char} (hrest : Ends rest) :
    readNumber? ((toString i).toList ++ rest) = some (.int i, rest) := by
  cases i with
  | ofNat n =>
    rw [toList_toString_ofNat]
    unfold readNumber?
    split
    · next tail heq =>
      have hmem : '-' ∈ Nat.toDigits 10 n := by
        obtain ⟨c, cs, hdigits⟩ := List.exists_cons_of_ne_nil (Nat.toDigits_ne_nil (n := n) (b := 10))
        rw [hdigits, List.cons_append] at heq
        rw [hdigits, ← (List.cons.inj heq).1]
        exact List.mem_cons_self
      exact absurd (Nat.isDigit_of_mem_toDigits (by decide) (by decide) hmem) (by decide)
    · exact readUnsigned?_toDigits false n hrest
  | negSucc n =>
    rw [toList_toString_negSucc]
    exact readUnsigned?_toDigits true (n + 1) hrest

end QuicTelemetry.Json
