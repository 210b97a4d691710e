import QuicTelemetry.Proofs.Document.Entry
import QuicTelemetry.Proofs.Flags.Loading

/-!
# The same word in a document and in a variable

A word can be given to a flag in its variable or in its entry. The variable is compared
with the known words, letter case aside. The entry is read as a scalar first: a word for
a truth value becomes one, in the letter cases that the notation has for it, and a text
is compared with the words as the variable is. The known words are so read alike, but
for one: "1" is a whole number, and an entry that is a number says nothing.

**An entry sets a flag as its variable would, unless the word is "1"**, or is a decimal
number that is too long to be read; then the document is at fault (`load_word`).
-/

namespace QuicTelemetry

open Document Text

/-! ## Whole numbers -/

namespace Document.Scalar

/-- **A numeral that is too long**: decimal digits, more than may be read. -/
def isTooLong (w : String) : Bool :=
  w.toList.all Char.isDigit && w.toList.head? != some '0' && decide (mostDigits < w.toList.length)

variable {cs : List Char}

/-- There is no blank in a word. -/
theorem trimBlanks_of_word (h : ∀ c ∈ cs, isWordChar c = true) : trimBlanks cs = cs := by
  have hdrop {ds : List Char} (h : ∀ c ∈ ds, isWordChar c = true) : ds.dropWhile isBlank = ds := by
    cases ds with
    | nil => rfl
    | cons c ds =>
      have hblank : isBlank c = false :=
        of_isWordChar (P := fun c => isBlank c = false) (by decide) (h c List.mem_cons_self)
      rw [List.dropWhile_cons_of_neg (by simp [hblank])]
  unfold trimBlanks
  rw [hdrop h, hdrop fun c hc => h c (List.mem_reverse.mp hc), List.reverse_reverse]

/-- The bases of whole numbers. -/
def bases : List Nat := [2, 8, 10, 16]

/-- No digit of a base is the mark of the base. -/
theorem toLower_ne_of_digitIn? {base : Nat} (hbase : base ∈ bases) {c mark : Char}
    (hc : isWordChar c = true) (hdigit : (digitIn? base c).isSome = true)
    (hmark : baseMark? base = some mark) : c.toLower ≠ mark := by
  have hall : ∀ base ∈ bases, ∀ n < 128, (digitIn? base (Char.ofNat n)).isSome = true →
      baseMark? base ≠ some (Char.ofNat n).toLower := by
    decide
  have hc' := hall base hbase c.toNat (toNat_lt_of_isWordChar hc)
  rw [Char.ofNat_toNat] at hc'
  rintro rfl
  exact hc' hdigit hmark

/-- **Digits of a base** can be read, if the base is not ten or there are not too many. -/
theorem isWhole_of_digits {base : Nat} (hbase : base ∈ bases) (hcs : IsWord cs)
    (hdigits : ∀ c ∈ cs, (digitIn? base c).isSome = true) :
    isWhole base cs = (base != 10 || decide (cs.length ≤ mostDigits)) := by
  have hnonempty : cs.isEmpty = false := List.isEmpty_eq_false_iff.mpr hcs.ne_nil
  have hall : cs.all (fun c => (digitIn? base c).isSome) = true := List.all_eq_true.mpr hdigits
  unfold isWhole
  rw [trimBlanks_of_word hcs.isWordChar, Kind.unsigned_of_word hcs]
  dsimp only
  split
  · next c rest mark hmark =>
    have hmem : c ∈ '0' :: c :: rest := List.mem_cons_of_mem _ List.mem_cons_self
    rw [if_neg (toLower_ne_of_digitIn? hbase (hcs.isWordChar c hmem) (hdigits c hmem) hmark),
      hnonempty, hall]
    rfl
  · rw [hnonempty, hall]
    rfl

/-- What is read of a word is the word. -/
theorem signless_unmarked {w : String} (hne : w ≠ "") (hw : ∀ c ∈ w.toList, c.isAlphanum = true) :
    signless (unmarked w) = .ok w.toList := by
  have hmarks : unmarked w = w.toList := List.filter_eq_self.mpr fun c hc => by
    have hmark : c ≠ '_' := by
      rintro rfl
      exact absurd (hw _ hc) (by decide)
    simpa using hmark
  have hword := isWord_toList hne fun c hc => isWordChar_of_isAlphanum (hw c hc)
  rw [hmarks]
  unfold signless
  split
  · next hnil => exact absurd hnil hword.ne_nil
  · rw [Kind.unsigned_of_word hword]

/-- **The forms of a whole number** that is a word. -/
theorem cases_of_isInt (hcs : IsWord cs) (hint : Kind.isInt cs = true) :
    (∃ digits, cs = '0' :: 'b' :: digits
      ∧ Kind.isRun (fun c => c == '0' || c == '1' || c == '_') digits = true)
    ∨ (∃ digits, cs = '0' :: 'x' :: digits ∧ Kind.isRun (fun c =>
        Kind.isDigitOrMark c || ('a' ≤ c && c ≤ 'f') || ('A' ≤ c && c ≤ 'F')) digits = true)
    ∨ cs = ['0']
    ∨ (∃ digits, cs = '0' :: digits
      ∧ Kind.isRun (fun c => ('0' ≤ c && c ≤ '7') || c == '_') digits = true)
    ∨ cs.head? ≠ some '0' ∧ Kind.isMarkedNumeral cs = true := by
  have hcolon : ':' ∉ cs := fun hmem => ne_of_mem_marks (hcs.isWordChar _ hmem) ':' (by decide) rfl
  unfold Kind.isInt at hint
  rw [Kind.unsigned_of_word hcs] at hint
  split at hint
  · exact .inl ⟨_, rfl, hint⟩
  · exact .inr (.inl ⟨_, rfl, hint⟩)
  · exact .inr (.inr (.inl rfl))
  · exact .inr (.inr (.inr (.inl ⟨_, rfl, hint⟩)))
  · next hzero =>
    rw [fields_of_not_mem hcolon] at hint
    refine .inr (.inr (.inr (.inr ⟨fun hhead => ?_, ?_⟩)))
    · obtain ⟨rest, rfl⟩ := List.head?_eq_some_iff.mp hhead
      exact hzero rest rfl
    · simpa using hint

/-- A run of digits of a base can be read. -/
theorem isWhole_of_isRun {base : Nat} (hbase : base ∈ bases) {test : Char → Bool}
    (hrun : Kind.isRun test cs = true) (hcs : ∀ c ∈ cs, c.isAlphanum = true)
    (htest : ∀ n < 128, (Char.ofNat n).isAlphanum = true → test (Char.ofNat n) = true →
      (digitIn? base (Char.ofNat n)).isSome = true) :
    isWhole base cs = (base != 10 || decide (cs.length ≤ mostDigits)) := by
  obtain ⟨hnonempty, hall⟩ := (Bool.and_eq_true ..).mp hrun
  have hword : IsWord cs :=
    ⟨fun hnil => by simp [hnil] at hnonempty, fun c hc => isWordChar_of_isAlphanum (hcs c hc)⟩
  refine isWhole_of_digits hbase hword fun c hc => ?_
  have hc' := htest c.toNat (toNat_lt_of_isAlphanum (hcs c hc))
  rw [Char.ofNat_toNat] at hc'
  exact hc' (hcs c hc) (List.all_eq_true.mp hall c hc)

variable {w : String}

/-- A number in base eight can be read. -/
theorem wholeFault?_of_octal (hw : ∀ c ∈ w.toList, c.isAlphanum = true) {digits : List Char}
    (hcs : w.toList = '0' :: digits)
    (hrun : Kind.isRun (fun c => ('0' ≤ c && c ≤ '7') || c == '_') digits = true) :
    wholeFault? w = .ok () := by
  obtain ⟨-, hall⟩ := (Bool.and_eq_true ..).mp hrun
  have hempty : w ≠ "" := by
    rintro rfl
    cases hcs
  have hwhole : isWhole 8 ('0' :: digits) = true := by
    have hrun' : Kind.isRun (fun c => ('0' ≤ c && c ≤ '7') || c == '_') ('0' :: digits) = true :=
      (Bool.and_eq_true ..).mpr ⟨rfl, by rw [List.all_cons, hall]; rfl⟩
    rw [isWhole_of_isRun (by decide) hrun' (hcs ▸ hw) (by decide)]
    rfl
  -- a digit of the base is not the mark of another
  have hother (c : Char) (hc : (('0' ≤ c && c ≤ '7') || c == '_') = false) (rest : List Char) :
      digits ≠ c :: rest := by
    rintro rfl
    rw [List.all_cons, hc] at hall
    exact absurd hall Bool.false_ne_true
  unfold wholeFault?
  rw [signless_unmarked hempty hw, hcs]
  simp only [bind, Except.bind]
  split
  · next heq => cases heq
  · rfl
  · next heq => exact absurd (List.cons.inj heq).2 (hother 'b' (by decide) _)
  · next heq => exact absurd (List.cons.inj heq).2 (hother 'x' (by decide) _)
  · next heq =>
    rw [← (List.cons.inj heq).2, hwhole]
    rfl
  · next hzero => exact absurd rfl (hzero digits)

/-- A decimal number can be read, unless it is too long. -/
theorem wholeFault?_of_decimal (hw : ∀ c ∈ w.toList, c.isAlphanum = true)
    (hhead : w.toList.head? ≠ some '0') (hnumeral : Kind.isMarkedNumeral w.toList = true) :
    wholeFault? w = if isTooLong w then .error .malformed else .ok () := by
  have hempty : w ≠ "" := by
    rintro rfl
    exact absurd hnumeral (by decide)
  have hword := isWord_toList hempty fun c hc => isWordChar_of_isAlphanum (hw c hc)
  have hcolon : ':' ∉ w.toList := fun hmem =>
    ne_of_mem_marks (hword.isWordChar _ hmem) ':' (by decide) rfl
  have hzero (rest : List Char) : w.toList ≠ '0' :: rest := fun heq => hhead (heq ▸ rfl)
  have hdigits : w.toList.all Char.isDigit = true := by
    cases hcs : w.toList with
    | nil => rfl
    | cons c rest =>
      rw [hcs] at hnumeral hw
      obtain ⟨hfirst, hrest⟩ := (Bool.and_eq_true ..).mp hnumeral
      rw [List.all_cons, hfirst, Bool.true_and, List.all_eq_true]
      intro d hd
      have hmark : d ≠ '_' := by
        rintro rfl
        exact absurd (hw _ (List.mem_cons_of_mem _ hd)) (by decide)
      simpa [Kind.isDigitOrMark, hmark] using List.all_eq_true.mp hrest d hd
  have hwhole : isWhole 10 w.toList = decide (w.toList.length ≤ mostDigits) := by
    have hrun : Kind.isRun Char.isDigit w.toList = true :=
      (Bool.and_eq_true ..).mpr ⟨by simp [hword.ne_nil], hdigits⟩
    rw [isWhole_of_isRun (by decide) hrun hw (by decide)]
    rfl
  have hlong : isTooLong w = !decide (w.toList.length ≤ mostDigits) := by
    rw [isTooLong, hdigits, bne_iff_ne.mpr hhead, Bool.true_and, Bool.true_and, ← decide_not,
      decide_eq_decide, Nat.not_le]
  unfold wholeFault?
  rw [signless_unmarked hempty hw, hlong]
  simp only [bind, Except.bind]
  split
  · next heq => exact absurd heq hword.ne_nil
  · next heq => exact absurd heq (hzero _)
  · next heq => exact absurd heq (hzero _)
  · next heq => exact absurd heq (hzero _)
  · next heq => exact absurd heq (hzero _)
  · rw [fields_of_not_mem hcolon, List.all_cons, hwhole, List.all_nil, Bool.and_true]
    cases decide (w.toList.length ≤ mostDigits) <;> rfl

/-- **A word that is a whole number can be read**, unless it is too long. -/
theorem wholeFault?_of_isInt (hw : ∀ c ∈ w.toList, c.isAlphanum = true)
    (hint : Kind.isInt w.toList = true) :
    wholeFault? w = if isTooLong w then .error .malformed else .ok () := by
  have hempty : w ≠ "" := by
    rintro rfl
    exact absurd hint (by decide)
  have hword := isWord_toList hempty fun c hc => isWordChar_of_isAlphanum (hw c hc)
  have hshort {rest : List Char} (hcs : w.toList = '0' :: rest) : isTooLong w = false := by
    simp [isTooLong, hcs]
  -- behind the mark of a base its digits can be read
  have hmarked {base : Nat} (hbase : base ∈ bases) {mark : Char} {digits : List Char}
      (hcs : w.toList = '0' :: mark :: digits) {test : Char → Bool}
      (hrun : Kind.isRun test digits = true)
      (htest : ∀ n < 128, (Char.ofNat n).isAlphanum = true → test (Char.ofNat n) = true →
        (digitIn? base (Char.ofNat n)).isSome = true) (hten : (base != 10) = true) :
      isWhole base digits = true := by
    rw [hcs, List.forall_mem_cons, List.forall_mem_cons] at hw
    rw [isWhole_of_isRun hbase hrun hw.2.2 htest, hten, Bool.true_or]
  rcases cases_of_isInt hword hint with ⟨digits, hcs, hrun⟩ | ⟨digits, hcs, hrun⟩ | hcs |
    ⟨digits, hcs, hrun⟩ | ⟨hhead, hnumeral⟩
  · unfold wholeFault?
    rw [signless_unmarked hempty hw, hshort hcs, hcs]
    show (if isWhole 2 digits = true then _ else _) = _
    rw [hmarked (by decide) hcs hrun (by decide) rfl]
    rfl
  · unfold wholeFault?
    rw [signless_unmarked hempty hw, hshort hcs, hcs]
    show (if isWhole 16 digits = true then _ else _) = _
    rw [hmarked (by decide) hcs hrun (by decide) rfl]
    rfl
  · unfold wholeFault?
    rw [signless_unmarked hempty hw, hshort hcs, hcs]
    rfl
  · rw [wholeFault?_of_octal hw hcs hrun, hshort hcs]
    rfl
  · exact wholeFault?_of_decimal hw hhead hnumeral

/-- A whole number starts with a digit. -/
theorem exists_digit_of_isInt (hcs : IsWord cs) (hint : Kind.isInt cs = true) :
    ∃ c rest, cs = c :: rest ∧ c.isDigit = true := by
  rcases cases_of_isInt hcs hint with ⟨digits, rfl, -⟩ | ⟨digits, rfl, -⟩ | rfl | ⟨digits, rfl, -⟩ |
    ⟨-, hnumeral⟩
  iterate 4 exact ⟨_, _, rfl, rfl⟩
  · obtain ⟨c, rest, rfl, -⟩ := hcs.exists_cons
    exact ⟨c, rest, rfl, ((Bool.and_eq_true ..).mp hnumeral).1⟩

/-- A numeral that is too long is a whole number all the same. -/
theorem isInt_of_isTooLong (hlong : isTooLong w = true) : Kind.isInt w.toList = true := by
  simp only [isTooLong, Bool.and_eq_true, bne_iff_ne, ne_eq, decide_eq_true_eq] at hlong
  obtain ⟨⟨hdigits, hhead⟩, hlength⟩ := hlong
  have hdigit : ∀ c ∈ w.toList, c.isDigit = true := List.all_eq_true.mp hdigits
  have halnum : ∀ c ∈ w.toList, isWordChar c = true := fun c hc => by
    simp [isWordChar, Char.isAlphanum, hdigit c hc]
  have hcolon : ':' ∉ w.toList := fun hmem => absurd (hdigit _ hmem) (by decide)
  have hword : IsWord w.toList := ⟨fun hnil => by simp [hnil] at hlength, halnum⟩
  have hzero (rest : List Char) : w.toList ≠ '0' :: rest := fun heq => hhead (heq ▸ rfl)
  unfold Kind.isInt
  rw [Kind.unsigned_of_word hword]
  split
  · next heq => exact absurd heq (hzero _)
  · next heq => exact absurd heq (hzero _)
  · next heq => exact absurd heq (hzero _)
  · next heq => exact absurd heq (hzero _)
  · rw [fields_of_not_mem hcolon]
    obtain ⟨c, rest, hcs, -⟩ := hword.exists_cons
    rw [hcs, List.forall_mem_cons] at hdigit
    have hrest : rest.all Kind.isDigitOrMark = true :=
      List.all_eq_true.mpr fun d hd => (Bool.or_eq_true ..).mpr (.inl (hdigit.2 d hd))
    simp [Kind.isMarkedNumeral, hcs, hdigit.1, hrest]

end Document.Scalar

/-! ## What a word says -/

namespace Flags

variable {w : String}

/-- Of the words that start with a digit one switches a flag on. -/
theorem eq_one_of_isOnWord (hw : ∀ c ∈ w.toList, c.isAlphanum = true)
    (hdigit : ∃ c rest, w.toList = c :: rest ∧ c.isDigit = true) (hon : isOnWord w = true) :
    w = "1" := by
  obtain ⟨c, rest, hcs, hc⟩ := hdigit
  have hlower : lowerChar c = c := by
    have hall : ∀ n < 128, (Char.ofNat n).isDigit = true → lowerChar (Char.ofNat n) = Char.ofNat n := by
      decide
    have hc' := hall c.toNat (toNat_lt_of_isAlphanum (hw c (hcs ▸ List.mem_cons_self)))
    rw [Char.ofNat_toNat] at hc'
    exact hc' hc
  have hlist : (Text.lower w).toList = c :: rest.map lowerChar := by
    rw [toList_lower_of_ascii fun d hd => toNat_lt_of_isAlphanum (hw d hd), hcs, List.map_cons, hlower]
  have hstarts : ∀ word ∈ onWords, word.toList.head?.any Char.isDigit = true → word = "1" := by
    decide
  have hone := hstarts _ (List.contains_iff_mem.mp hon) (by rw [hlist]; exact hc)
  rw [hone] at hlist
  obtain ⟨rfl, hrest⟩ := List.cons.inj (show ['1'] = c :: rest.map lowerChar from hlist)
  rw [← String.toList_inj, hcs, List.map_eq_nil_iff.mp hrest.symm]
  rfl

/-- **What the entry of a word says**: it is read as a scalar first. -/
theorem read_word (hw : ∀ c ∈ w.toList, c.isAlphanum = true) :
    ((Kind.ofPlain w).read w).map (fun d => (ofDatum? d).getD false)
      = if Scalar.isTooLong w then .error .malformed else .ok (isOnWord w && w != "1") := by
  by_cases hempty : w = ""
  · subst hempty
    rfl
  have hword := isWord_toList hempty fun c hc => isWordChar_of_isAlphanum (hw c hc)
  rw [Kind.ofPlain_of_word hword]
  split
  · next htruth =>
    have hall : ∀ w ∈ Kind.truthWords,
        Scalar.truthValues.lookup (Text.lower w) = some (isOnWord w)
          ∧ Scalar.isTooLong w = false ∧ (w != "1") = true := by
      decide
    obtain ⟨hlookup, hshort, hone⟩ := hall w (List.contains_iff_mem.mp htruth)
    rw [Kind.read, Scalar.truth, hlookup, hshort, hone, Bool.and_true]
    rfl
  · split
    · next hint =>
      rw [Kind.read, Scalar.wholeFault?_of_isInt hw hint]
      have hnever : (isOnWord w && w != "1") = false := by
        by_cases hon : isOnWord w = true
        · rw [eq_one_of_isOnWord hw (Scalar.exists_digit_of_isInt hword hint) hon]
          rfl
        · rw [Bool.eq_false_iff.mpr hon, Bool.false_and]
      cases Scalar.isTooLong w with
      | true => rfl
      | false =>
        rw [hnever]
        rfl
    · next hint =>
      have hshort : Scalar.isTooLong w = false :=
        Bool.eq_false_iff.mpr (mt Scalar.isInt_of_isTooLong hint)
      split
      · next hnull =>
        have hall : ∀ w ∈ Kind.nullWords, isOnWord w = false := by decide
        rw [hshort, hall w (List.contains_iff_mem.mp hnull)]
        rfl
      · have hone : (w != "1") = true := bne_iff_ne.mpr fun hone => hint (hone ▸ by decide)
        rw [hshort, hone, Bool.and_true]
        rfl

/-! ## Loading it -/

/-- The name of a flag can be the key of an entry. -/
theorem isWord_name (flag : Flag) : IsWord flag.name.toList := by
  have hchars : flag.name.toList.all isWordChar = true := by cases flag <;> decide
  exact isWord_toList (by cases flag <;> decide) (List.all_eq_true.mp hchars)

theorem length_name_le (flag : Flag) : flag.name.toList.length ≤ longestKey := by
  cases flag <;> decide

/-- The name of a flag is a text. -/
theorem ofPlain_name (flag : Flag) : Kind.ofPlain flag.name = .text := by
  rw [Kind.ofPlain_of_word (isWord_name flag)]
  cases flag <;> decide

theorem get_ofBools (setting : Flag → Bool) (flag : Flag) :
    (ofBools setting).get flag = .bool (setting flag) := by
  cases flag <;> rfl

variable {flag : Flag} {env : Environment}

/-- Where the variable of a flag is not set its entry decides. -/
theorem resolve_of_unset (hunset : env.lookup flag.variableName = none) (d : Datum) :
    resolve env ⟨[(flag.name, d)]⟩ flag = (ofDatum? d).getD false := by
  have hentry : Table.get? ⟨[(flag.name, d)]⟩ flag.name = some d := by
    simp [Table.get?]
  rw [resolve, hunset, hentry]
  rfl

/-- A word that is not known switches nothing on. -/
theorem getD_ofWord? (w : String) : (ofWord? w).getD false = isOnWord w := by
  unfold ofWord? isOnWord
  dsimp only
  split
  · next hon => exact hon.symm
  · next hoff =>
    rw [Bool.eq_false_iff.mpr hoff]
    split <;> rfl

/-- Where there are no entries the variable of a flag decides. -/
theorem resolve_empty (hset : env.lookup flag.variableName = some w) :
    resolve env .empty flag = isOnWord w := by
  rw [resolve, hset]
  show ((ofWord? w).or none).getD false = isOnWord w
  rw [Option.or_none, getD_ofWord?]

/-- What a flag is by its variable. -/
theorem load_variable (hset : env.lookup flag.variableName = some w) :
    (load env none).map (·.get flag) = .ok (.bool (isOnWord w)) := by
  show Except.ok ((ofBools (resolve env .empty)).get flag) = _
  rw [get_ofBools, resolve_empty hset]

/-- What a flag is by its entry. -/
theorem load_entry {tail : String} (hw : ∀ c ∈ w.toList, c.isAlphanum = true)
    (htail : tail = "" ∨ tail = "\n") (hunset : env.lookup flag.variableName = none) :
    (load env (some (flag.name ++ ": " ++ w ++ tail))).map (·.get flag)
      = if Scalar.isTooLong w then .error .malformed
        else .ok (.bool (isOnWord w && w != "1")) := by
  have hread := read_entry (isWord_name flag) (length_name_le flag) (ofPlain_name flag)
    (fun c hc => isWordChar_of_isAlphanum (hw c hc)) htail
  have hflag (d : Datum) : (ofBools (resolve env ⟨[(flag.name, d)]⟩)).get flag
      = .bool ((ofDatum? d).getD false) := by
    rw [get_ofBools, resolve_of_unset hunset]
  have hload : (load env (some (flag.name ++ ": " ++ w ++ tail))).map (·.get flag)
      = (((Kind.ofPlain w).read w).map fun d => (ofDatum? d).getD false).map Value.bool := by
    unfold load
    simp only [hread]
    cases (Kind.ofPlain w).read w with
    | error fault => rfl
    | ok d => exact congrArg Except.ok (hflag d)
  rw [hload, read_word hw]
  split <;> rfl

/-- **A flag by its entry and by its variable.** The document is one line, with its end or
without: the flag's name and a word of letters and digits; the variable holds the same
word. By the variable the flag is on exactly for the known words that switch it on. By the
entry it is so too, but never for "1"; and a decimal number that is too long makes the
document a faulty one. The two agree on every other word. -/
theorem load_word (flag : Flag) {w tail : String} (hw : ∀ c ∈ w.toList, c.isAlphanum = true)
    (htail : tail = "" ∨ tail = "\n") {env env' : Environment}
    (hunset : env.lookup flag.variableName = none)
    (hset : env'.lookup flag.variableName = some w) :
    let byEntry := (load env (some (flag.name ++ ": " ++ w ++ tail))).map (·.get flag)
    let byVariable := (load env' none).map (·.get flag)
    byVariable = .ok (.bool (isOnWord w))
    ∧ byEntry = (if Scalar.isTooLong w then .error .malformed
        else .ok (.bool (isOnWord w && w != "1")))
    ∧ (byEntry = byVariable ↔ w ≠ "1" ∧ Scalar.isTooLong w = false) := by
  intro byEntry byVariable
  have hvariable : byVariable = _ := load_variable hset
  have hentry : byEntry = _ := load_entry hw htail hunset
  refine ⟨hvariable, hentry, ?_⟩
  rw [hvariable, hentry]
  by_cases hone : w = "1"
  · have hon : isOnWord "1" = true := by decide
    have hshort : Scalar.isTooLong "1" = false := by decide
    simp [hone, hon, hshort]
  · by_cases hlong : Scalar.isTooLong w = true
    · simp [hlong]
    · simp [hlong, hone]

/-- The word "Yes" switches a flag on either way. -/
theorem load_word_yes :
    let env : Environment := [("QUICMETRICS_MAXIMUM_WRITABLE_STREAMS", "Yes")]
    let document := Flag.maximumWritableStreams.name ++ ": " ++ "Yes" ++ "\n"
    (load [] (some document)).map (·.get .maximumWritableStreams) = .ok (.bool true)
    ∧ (load env none).map (·.get .maximumWritableStreams) = .ok (.bool true) := by
  intro env document
  have hw : ∀ c ∈ "Yes".toList, c.isAlphanum = true := by simp
  have hunset : ([] : Environment).lookup Flag.maximumWritableStreams.variableName = none := rfl
  have hset : env.lookup Flag.maximumWritableStreams.variableName = some "Yes" := by decide
  obtain ⟨hvariable, -, hsame⟩ := load_word .maximumWritableStreams hw (.inr rfl) hunset hset
  have hon : isOnWord "Yes" = true := by decide
  rw [hon] at hvariable
  exact ⟨(hsame.mpr (by decide)).trans hvariable, hvariable⟩

/-- The word "1" switches a flag on in its variable, and not in its entry. -/
theorem load_one_differs :
    let env : Environment := [("QUICMETRICS_MAXIMUM_WRITABLE_STREAMS", "1")]
    let document := Flag.maximumWritableStreams.name ++ ": " ++ "1" ++ "\n"
    (load [] (some document)).map (·.get .maximumWritableStreams) = .ok (.bool false)
    ∧ (load env none).map (·.get .maximumWritableStreams) = .ok (.bool true) := by
  intro env document
  have hone : ∀ c ∈ "1".toList, c.isAlphanum = true := by simp
  have hset : env.lookup Flag.maximumWritableStreams.variableName = some "1" := by decide
  have hon : isOnWord "1" = true := by decide
  have hshort : Scalar.isTooLong "1" = false := by decide
  have hentry : (load [] (some document)).map (·.get .maximumWritableStreams) = _ :=
    load_entry hone (.inr rfl) (List.lookup_nil ..)
  have hvariable : (load env none).map (·.get .maximumWritableStreams) = _ := load_variable hset
  rw [hshort, hon] at hentry
  rw [hon] at hvariable
  exact ⟨hentry, hvariable⟩

end Flags
end QuicTelemetry
