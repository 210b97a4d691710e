import QuicTelemetry.Proofs.Log.Fields
import QuicTelemetry.Proofs.Log.JsonReading

/-!
# Values are read back from their JSON texts

Not every value can be: a tuple is written as a list, and what JSON has no form for as
some text. Those that can are built of nothing but what JSON has (`Value.IsJson`), and
**a mapping of such values is what its JSON text is read as** (`Json.read?_object`).

Collections are enclosed items, whatever the items are, so that lists and mappings
share one argument (`Json.readEnclosed?_intercalate`): an item is read back if nothing
but a mark follows it, and a comma or the closing mark always does. The depth to which
the reader goes bounds the recursion, and a text is longer than anything inside it.
-/

namespace QuicTelemetry.Json

/-! ## Items -/

theorem skipBlanks_cons {c : Char} (hc : isBlank c = false) (rest : List Char) :
    skipBlanks (c :: rest) = c :: rest :=
  List.dropWhile_cons_of_neg (by simp [hc])

/-- **A text that can be an item**: it starts with no blank and with no mark that
ends an item. -/
def StartsItem (text : List Char) : Prop :=
  ∃ c rest, text = c :: rest ∧ isBlank c = false ∧ c ∉ [',', ']', '\x7d']

section Items

variable {α : Type} {close : Char} {readItem? : List Char → Option (α × List Char)}
  {writeItem : α → List Char}

/-- A blank in front of the items is passed over. -/
theorem readItems?_blank (hblank : ∀ cs, readItem? (' ' :: cs) = readItem? cs) (fuel : Nat)
    (cs : List Char) :
    readItems? close readItem? fuel (' ' :: cs) = readItems? close readItem? fuel cs := by
  cases fuel with
  | zero => rfl
  | succ fuel => simp only [readItems?, hblank]

/-- **Items with commas between them are read back**, if each of them is. -/
theorem readItems?_intercalate (hclose : close ∈ [']', '\x7d'])
    (hblank : ∀ cs, readItem? (' ' :: cs) = readItem? cs) {items : List α} (hne : items ≠ [])
    (hread : ∀ item ∈ items, ∀ rest, Ends rest →
      readItem? (writeItem item ++ rest) = some (item, rest))
    {fuel : Nat} (hfuel : items.length ≤ fuel) (rest : List Char) :
    readItems? close readItem? fuel
      (List.intercalate [',', ' '] (items.map writeItem) ++ close :: rest) = some (items, rest) := by
  have hends : Ends (close :: rest) := ends_cons (List.mem_cons_of_mem _ hclose) rest
  have hmark : isBlank close = false ∧ close ≠ ',' := by
    simp only [List.mem_cons, List.not_mem_nil, or_false] at hclose
    rcases hclose with rfl | rfl <;> decide
  induction items generalizing fuel with
  | nil => exact absurd rfl hne
  | cons item items ih =>
    rw [List.forall_mem_cons] at hread
    cases fuel with
    | zero => cases hfuel
    | succ fuel =>
      -- what follows the item is the closing mark or a comma
      cases items with
      | nil =>
        rw [List.map_cons, List.map_nil, List.intercalate_singleton]
        simp only [readItems?, hread.1 _ hends, Option.bind_some, skipBlanks_cons hmark.1,
          if_neg hmark.2, if_true]
      | cons next items =>
        have hcomma := hread.1 (',' :: ' ' ::
          (List.intercalate [',', ' '] ((next :: items).map writeItem) ++ close :: rest))
          (ends_cons (by decide) _)
        have htail := ih (List.cons_ne_nil _ _) hread.2 (Nat.le_of_succ_le_succ hfuel)
        rw [List.map_cons, List.map_cons, List.intercalate_cons_cons, ← List.map_cons]
        simp only [List.append_assoc, List.cons_append, List.nil_append, readItems?, hcomma,
          Option.bind_some, skipBlanks_cons (by decide : isBlank ',' = false), if_true,
          readItems?_blank hblank, htail, Option.map_some]

/-- **Items between two marks are read back**, if each of them is. -/
theorem readEnclosed?_intercalate (hclose : close ∈ [']', '\x7d'])
    (hblank : ∀ cs, readItem? (' ' :: cs) = readItem? cs) {items : List α}
    (hstart : ∀ item ∈ items, StartsItem (writeItem item))
    (hread : ∀ item ∈ items, ∀ rest, Ends rest →
      readItem? (writeItem item ++ rest) = some (item, rest))
    {fuel : Nat} (hfuel : items.length ≤ fuel) (rest : List Char) :
    readEnclosed? close readItem? fuel
      (List.intercalate [',', ' '] (items.map writeItem) ++ close :: rest) = some (items, rest) := by
  unfold readEnclosed?
  by_cases hne : items = []
  · subst hne
    have hmark : isBlank close = false := by
      simp only [List.mem_cons, List.not_mem_nil, or_false] at hclose
      rcases hclose with rfl | rfl <;> decide
    rw [List.map_nil, List.intercalate_nil, List.nil_append, skipBlanks_cons hmark]
    exact if_pos rfl
  · have hitems := readItems?_intercalate hclose hblank hne hread hfuel rest
    obtain ⟨item, others, rfl⟩ := List.exists_cons_of_ne_nil hne
    obtain ⟨c, text, htext, hc, hother⟩ := hstart item List.mem_cons_self
    obtain ⟨more, hmore⟩ : ∃ more, List.intercalate [',', ' '] ((item :: others).map writeItem)
        ++ close :: rest = c :: more := by
      cases others with
      | nil => exact ⟨_, by rw [List.map_cons, List.map_nil, List.intercalate_singleton, htext]; rfl⟩
      | cons next others =>
        exact ⟨_, by rw [List.map_cons, List.map_cons, List.intercalate_cons_cons, htext]; rfl⟩
    have hclosed : c ≠ close := fun heq => hother (heq ▸ List.mem_cons_of_mem _ hclose)
    rw [hmore] at hitems ⊢
    rw [skipBlanks_cons hc]
    exact (if_neg hclosed).trans hitems

end Items

/-- A list of items has no more of them than its text has characters. -/
theorem length_le_intercalate (texts : List (List Char)) :
    texts.length ≤ (List.intercalate [',', ' '] texts).length + 1 := by
  induction texts with
  | nil => exact Nat.zero_le _
  | cons text texts ih =>
    cases texts with
    | nil => simp
    | cons next texts =>
      rw [List.intercalate_cons_cons]
      simp only [List.length_cons, List.length_append, List.length_nil] at ih ⊢
      omega

/-- An item is no longer than all of them with what stands between them. -/
theorem length_le_of_mem_intercalate {texts : List (List Char)} {text : List Char}
    (h : text ∈ texts) : text.length ≤ (List.intercalate [',', ' '] texts).length := by
  induction texts with
  | nil => cases h
  | cons first texts ih =>
    cases texts with
    | nil => rw [List.mem_singleton.mp h, List.intercalate_singleton]
    | cons next texts =>
      rw [List.intercalate_cons_cons, List.length_append, List.length_append]
      rcases List.mem_cons.mp h with rfl | h
      · omega
      · have := ih h
        omega

/-- So many steps as an enclosed text has characters behind its first mark are
enough for the items and for each of them. -/
theorem bounds_of_enclosed {left right : Char} {texts : List (List Char)} {fuel : Nat}
    (h : (enclosed left right texts).length ≤ fuel + 1) :
    texts.length ≤ fuel ∧ ∀ text ∈ texts, text.length ≤ fuel := by
  simp only [enclosed, List.cons_append, List.length_cons, List.length_append, List.length_nil] at h
  have hcount := length_le_intercalate texts
  refine ⟨by omega, fun text htext => ?_⟩
  have hlength := length_le_of_mem_intercalate htext
  omega

/-! ## Values -/

theorem writeAll_eq_map (textOf : Value → String) (items : List Value) :
    writeAll textOf items = items.map (write textOf) := by
  induction items with
  | nil => rfl
  | cons item items ih => rw [writeAll, ih, List.map_cons]

/-- The JSON text of an entry of a mapping. -/
def writeEntry (textOf : Value → String) (entry : String × Value) : List Char :=
  quoted entry.1 ++ ':' :: ' ' :: write textOf entry.2

theorem writeEntries_eq_map (textOf : Value → String) (entries : List (String × Value)) :
    writeEntries textOf entries = entries.map (writeEntry textOf) := by
  induction entries with
  | nil => rfl
  | cons entry entries ih => rw [writeEntries, ih, List.map_cons, writeEntry]

end QuicTelemetry.Json

namespace QuicTelemetry

/-- **The values that come back from their JSON text**: those that are built of
nothing but the absent value, truth values, whole numbers, texts, lists, and
mappings that have no key twice. -/
inductive Value.IsJson : Value → Prop
  | null : IsJson .null
  | bool (b : Bool) : IsJson (.bool b)
  | int (i : Int) : IsJson (.int i)
  | text (s : String) : IsJson (.text s)
  | list {items : List Value} (hitems : ∀ item ∈ items, IsJson item) : IsJson (.list items)
  | dict {entries : List (String × Value)} (hkeys : (entries.map Prod.fst).Nodup)
      (hentries : ∀ entry ∈ entries, IsJson entry.2) : IsJson (.dict entries)

end QuicTelemetry

namespace QuicTelemetry.Json

variable {textOf : Value → String}

/-- A numeral starts with its sign or with a digit. -/
theorem exists_head_toString (i : Int) :
    ∃ c rest, (toString i).toList = c :: rest ∧ (c = '-' ∨ c.isDigit = true) := by
  cases i with
  | ofNat n =>
    obtain ⟨c, rest, hdigits⟩ := List.exists_cons_of_ne_nil (Nat.toDigits_ne_nil (n := n) (b := 10))
    refine ⟨c, rest, (toList_toString_ofNat n).trans hdigits, .inr ?_⟩
    exact Nat.isDigit_of_mem_toDigits (by decide) (by decide) (hdigits ▸ List.mem_cons_self)
  | negSucc n => exact ⟨'-', _, toList_toString_negSucc n, .inl rfl⟩

/-- The first character of a numeral is no other one. -/
theorem ne_of_numeral {c d : Char} (hc : c = '-' ∨ c.isDigit = true) (hne : d ≠ '-')
    (hd : d.isDigit = false) : c ≠ d := by
  rintro rfl
  rcases hc with hc | hc
  · exact hne hc
  · rw [hd] at hc
    cases hc

theorem isBlank_of_numeral {c : Char} (hc : c = '-' ∨ c.isDigit = true) : isBlank c = false := by
  have hne (d : Char) (hd : d ≠ '-' ∧ d.isDigit = false) : c ≠ d := ne_of_numeral hc hd.1 hd.2
  simp [isBlank, hne ' ' (by decide), hne '\t' (by decide), hne '\n' (by decide),
    hne '\r' (by decide)]

/-- A numeral is no word. -/
theorem readWord?_of_numeral {c : Char} (hc : c = '-' ∨ c.isDigit = true) (rest : List Char) :
    readWord? (c :: rest) = none := by
  have hnone (d : Char) (word : List Char) (hd : d ≠ '-' ∧ d.isDigit = false) :
      (d :: word).isPrefixOf? (c :: rest) = none :=
    if_neg fun heq => ne_of_numeral hc hd.1 hd.2 (beq_iff_eq.mp heq).symm
  refine List.findSome?_eq_none_iff.mpr fun (word, v) hword => Option.map_eq_none_iff.mpr ?_
  simp only [words, List.mem_cons, List.not_mem_nil, or_false, Prod.mk.injEq] at hword
  rcases hword with ⟨rfl, -⟩ | ⟨rfl, -⟩ | ⟨rfl, -⟩
  · exact hnone 'n' _ (by decide)
  · exact hnone 't' _ (by decide)
  · exact hnone 'f' _ (by decide)

/-- What starts as a numeral does is read as a number. -/
theorem readValue?_of_numeral {c : Char} (hc : c = '-' ∨ c.isDigit = true) (fuel : Nat)
    (rest : List Char) : readValue? (fuel + 1) (c :: rest) = readNumber? (c :: rest) := by
  have hne (d : Char) (hd : d ≠ '-' ∧ d.isDigit = false) : c ≠ d := ne_of_numeral hc hd.1 hd.2
  simp only [readValue?, skipBlanks_cons (isBlank_of_numeral hc), hne '"' (by decide),
    hne '[' (by decide), hne '\x7b' (by decide), if_false, readWord?_of_numeral hc,
    Option.none_or]

/-- The JSON text of such a value can be an item. -/
theorem startsItem_write {v : Value} (hv : v.IsJson) : StartsItem (write textOf v) := by
  cases hv with
  | null => exact ⟨'n', ['u', 'l', 'l'], rfl, by decide, by decide⟩
  | bool b =>
    cases b with
    | true => exact ⟨'t', ['r', 'u', 'e'], rfl, by decide, by decide⟩
    | false => exact ⟨'f', ['a', 'l', 's', 'e'], rfl, by decide, by decide⟩
  | int i =>
    obtain ⟨c, rest, htext, hc⟩ := exists_head_toString i
    refine ⟨c, rest, htext, isBlank_of_numeral hc, fun hmark => ?_⟩
    simp only [List.mem_cons, List.not_mem_nil, or_false] at hmark
    rcases hmark with rfl | rfl | rfl <;> exact ne_of_numeral hc (by decide) (by decide) rfl
  | text s => exact ⟨'"', _, rfl, by decide, by decide⟩
  | list hitems => exact ⟨'[', _, rfl, by decide, by decide⟩
  | dict hkeys hentries => exact ⟨'\x7b', _, rfl, by decide, by decide⟩

theorem readValue?_blank (fuel : Nat) (cs : List Char) :
    readValue? fuel (' ' :: cs) = readValue? fuel cs := by
  cases fuel <;> rfl

theorem startsItem_writeEntry (entry : String × Value) : StartsItem (writeEntry textOf entry) :=
  ⟨'"', _, rfl, by decide, by decide⟩

theorem readField?_blank (readValue? : List Char → Option (Value × List Char)) (cs : List Char) :
    readField? readValue? (' ' :: cs) = readField? readValue? cs := rfl

/-- **An entry is read back**, if its value is. -/
theorem readField?_writeEntry {readValue? : List Char → Option (Value × List Char)}
    (hblank : ∀ cs, readValue? (' ' :: cs) = readValue? cs) {entry : String × Value}
    {rest : List Char} (hread : readValue? (write textOf entry.2 ++ rest) = some (entry.2, rest)) :
    readField? readValue? (writeEntry textOf entry ++ rest) = some (entry, rest) := by
  have htext := readText?_quoted entry.1 (':' :: ' ' :: (write textOf entry.2 ++ rest))
  simp only [writeEntry, quoted, readField?, List.cons_append, List.append_assoc, List.nil_append,
    skipBlanks_cons (by decide : isBlank '"' = false), htext, Option.bind_some,
    skipBlanks_cons (by decide : isBlank ':' = false), hblank, hread, Option.map_some,
    String.ofList_toList]

/-- **A value is read back from its JSON text**, whatever follows it. -/
theorem readValue?_write {fuel : Nat} {v : Value} (hv : v.IsJson)
    (hfuel : (write textOf v).length ≤ fuel) {rest : List Char} (hrest : Ends rest) :
    readValue? fuel (write textOf v ++ rest) = some (v, rest) := by
  -- on the bound and not on the value: what is inside is read with a bound of one less
  induction fuel generalizing v rest with
  | zero =>
    obtain ⟨c, text, htext, -⟩ : StartsItem (write textOf v) := startsItem_write hv
    rw [htext] at hfuel
    cases hfuel
  | succ fuel ih =>
    cases hv with
    | null => rfl
    | bool b => cases b <;> rfl
    | int i =>
      obtain ⟨c, text, htext, hc⟩ := exists_head_toString i
      have hread := readNumber?_toString i hrest
      show readValue? (fuel + 1) ((toString i).toList ++ rest) = _
      rw [htext, List.cons_append] at hread ⊢
      rw [readValue?_of_numeral hc, hread]
    | text s =>
      have hread := readText?_quoted s rest
      show readValue? (fuel + 1) (quoted s ++ rest) = _
      simp only [quoted, List.cons_append, List.append_assoc, List.nil_append, readValue?,
        skipBlanks_cons (by decide : isBlank '"' = false), if_true, hread, Option.map_some,
        String.ofList_toList]
    | @list items hitems =>
      have hwrite : write textOf (.list items) = enclosed '[' ']' (items.map (write textOf)) :=
        congrArg (enclosed '[' ']') (writeAll_eq_map textOf items)
      rw [hwrite] at hfuel ⊢
      obtain ⟨hcount, hlength⟩ := bounds_of_enclosed hfuel
      rw [List.length_map] at hcount
      have hread := readEnclosed?_intercalate (by decide : ']' ∈ _) (readValue?_blank fuel)
        (fun item hitem => startsItem_write (hitems item hitem))
        (fun item hitem rest hrest =>
          ih (hitems item hitem) (hlength _ (List.mem_map_of_mem hitem)) hrest) hcount rest
      simp only [enclosed, List.cons_append, List.append_assoc, List.nil_append, readValue?,
        skipBlanks_cons (by decide : isBlank '[' = false), Char.reduceEq, if_false, if_true, hread,
        Option.map_some]
    | @dict entries hkeys hentries =>
      have hwrite : write textOf (.dict entries)
          = enclosed '\x7b' '\x7d' (entries.map (writeEntry textOf)) :=
        congrArg (enclosed '\x7b' '\x7d') (writeEntries_eq_map textOf entries)
      rw [hwrite] at hfuel ⊢
      obtain ⟨hcount, hlength⟩ := bounds_of_enclosed hfuel
      rw [List.length_map] at hcount
      have hvalue (entry : String × Value) (hentry : entry ∈ entries) :
          (write textOf entry.2).length ≤ fuel := by
        have hall := hlength _ (List.mem_map_of_mem hentry)
        simp only [writeEntry, List.length_append, List.length_cons] at hall
        omega
      have hread := readEnclosed?_intercalate (by decide : '\x7d' ∈ _)
        (readField?_blank (readValue? fuel)) (fun entry _ => startsItem_writeEntry entry)
        (fun entry hentry rest hrest => readField?_writeEntry (readValue?_blank fuel)
          (ih (hentries entry hentry) (hvalue entry hentry) hrest)) hcount rest
      simp only [enclosed, List.cons_append, List.append_assoc, List.nil_append, readValue?,
        skipBlanks_cons (by decide : isBlank '\x7b' = false), Char.reduceEq, if_false, if_true,
        hread, Option.map_some, Fields.ofList_of_nodup hkeys]

/-- **A mapping is read back from its JSON text.** -/
theorem read?_object {entries : List (String × Value)} (hkeys : (entries.map Prod.fst).Nodup)
    (hentries : ∀ entry ∈ entries, entry.2.IsJson) :
    read? (object textOf entries) = some (.dict entries) := by
  have hread : readValue? (write textOf (.dict entries)).length (write textOf (.dict entries) ++ [])
      = some (.dict entries, []) :=
    readValue?_write (.dict hkeys hentries) (Nat.le_refl _) ends_nil
  rw [List.append_nil] at hread
  unfold read? object
  rw [String.length_ofList, String.toList_ofList, hread]
  rfl

-- texts that are not written like this are read as well, and what is no JSON is not
example : read? " [ -12 ,true,\"\\u00e9\\uD83D\\ude00\\/\"] "
    = some (.list [.int (-12), .bool true, .text "é😀/"]) := by cbv

example : read? "\x7b\"a\": 1, \"b\": null, \"a\": []\x7d"
    = some (.dict [("a", .list []), ("b", .null)]) := by cbv

example : read? "[1, ]" = none := by cbv

end QuicTelemetry.Json
