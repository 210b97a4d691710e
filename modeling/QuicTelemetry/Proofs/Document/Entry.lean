import QuicTelemetry.Document
import QuicTelemetry.Proofs.Document.Tokens
import QuicTelemetry.Proofs.Text.Fields

/-!
# Reading an entry

A line with a key and a value, both of them words, is read as a mapping of one entry.
The value is of the kind that its text asks for, and a word can ask for four of them
only (`Kind.ofPlain_of_word`): there is no point in it for a number with places, no dash
for a date, and no sign of its own. **What the document is read as is what the value is
read as, under its key** (`read_entry`); where the value cannot be read, neither can the
document.
-/

namespace QuicTelemetry.Document

open Text

/-! ## The kinds of words -/

namespace Kind

/-- The kinds that words have. -/
def ofWords : List Kind := [.bool, .int, .null, .text]

/-- The words that stand for nothing. -/
def nullWords : List String := ["~", "null", "Null", "NULL"]

theorem unsigned_of_word {cs : List Char} (h : IsWord cs) : unsigned cs = cs := by
  obtain ⟨c, rest, rfl, hc⟩ := h.exists_cons
  have hplus : c ≠ '+' := by
    rintro rfl
    exact absurd hc (by decide)
  have hdash : c ≠ '-' := ne_of_mem_marks hc _ (by decide)
  unfold unsigned
  split
  · next heq => exact absurd (List.cons.inj heq).1 hplus
  · next heq => exact absurd (List.cons.inj heq).1 hdash
  · rfl

/-- A word is no number with places. -/
theorem isReal_of_word {cs : List Char} (h : IsWord cs) : isReal cs = false := by
  have hpoint : '.' ∉ cs := fun hmem =>
    ne_of_mem_marks (h.isWordChar _ hmem) '.' (by decide) rfl
  have hother (words : List String) (hwords : ∀ word ∈ words, '.' ∈ word.toList) :
      words.contains (String.ofList cs) = false := by
    refine Bool.eq_false_iff.mpr fun hmem => hpoint ?_
    have hin := hwords _ (List.contains_iff_mem.mp hmem)
    rwa [String.toList_ofList] at hin
  unfold isReal
  dsimp only
  rw [unsigned_of_word h, hother _ (by decide), hother _ (by decide), cut?_of_not_mem hpoint,
    if_neg Bool.false_ne_true, if_neg Bool.false_ne_true]

/-- A word is no date. -/
theorem stamp?_of_word {cs : List Char} (h : IsWord cs) : stamp? false cs = none := by
  have hafter : after? '-' (cs.drop 4) = none := by
    cases hdrop : cs.drop 4 with
    | nil => rfl
    | cons c rest =>
      have hmem : c ∈ cs := List.mem_of_mem_drop (hdrop ▸ List.mem_cons_self)
      exact if_neg (ne_of_mem_marks (h.isWordChar c hmem) _ (by decide)).symm
  unfold stamp?
  rw [hafter]
  dsimp only
  split <;> rfl

/-- **The kind of a word.** -/
theorem ofPlain_of_word {w : String} (h : IsWord w.toList) :
    ofPlain w = if truthWords.contains w then .bool
      else if isInt w.toList then .int
      else if nullWords.contains w then .null
      else .text := by
  have hempty : w ≠ "" := by
    rintro rfl
    exact h.ne_nil rfl
  have hlast : w.toList.getLast? ≠ some '\n' := fun hlast =>
    absurd (h.isWordChar _ (List.mem_of_getLast? hlast)) (by decide)
  have hmark (mark : String) (hmark : ∃ c ∈ mark.toList, isWordChar c = false) : w ≠ mark := by
    rintro rfl
    obtain ⟨c, hc, hfalse⟩ := hmark
    rw [h.isWordChar c hc] at hfalse
    cases hfalse
  unfold ofPlain
  dsimp only
  have hothers : ["!", "&", "*"].contains w = false := by
    simp [hmark "!" ⟨'!', by decide⟩, hmark "&" ⟨'&', by decide⟩, hmark "*" ⟨'*', by decide⟩]
  rw [if_neg hempty, if_neg hlast, String.ofList_toList, isReal_of_word h, stamp?_of_word h,
    if_neg (hmark "<<" ⟨'<', by decide⟩), if_neg (hmark "=" ⟨'=', by decide⟩), hothers]
  rfl

/-- A word has one of four kinds, and so has the text without characters. -/
theorem ofPlain_mem_ofWords {w : String} (h : ∀ c ∈ w.toList, isWordChar c = true) :
    ofPlain w ∈ ofWords := by
  by_cases hempty : w = ""
  · subst hempty
    decide
  rw [ofPlain_of_word (isWord_toList hempty h)]
  split
  · decide
  · split
    · decide
    · split <;> decide

end Kind

/-! ## The graph -/

namespace Graph

/-- The nodes of a mapping of one entry. -/
def entry (key value : Node) : Graph := ⟨[⟨.mapping, .mapping [(1, 2)]⟩, key, value]⟩

theorem ofTokens?_entry (k w : String) :
    ofTokens? [.blockMapping, .key, .scalar k true, .value, .scalar w true, .blockEnd, .streamEnd]
      = .ok (entry ⟨.ofPlain k, .scalar k⟩ ⟨.ofPlain w, .scalar w⟩, some 0) := (rfl)

/-- Where no value stands there is the text without characters. -/
theorem ofTokens?_blank (k : String) :
    ofTokens? [.blockMapping, .key, .scalar k true, .value, .blockEnd, .streamEnd]
      = .ok (entry ⟨.ofPlain k, .scalar k⟩ ⟨.ofPlain "", .scalar ""⟩, some 0) := (rfl)

end Graph

/-! ## Going through it -/

namespace Visit

/-- **A scalar of a kind that words have** is read as its kind says. -/
theorem datum_scalar {r : Reading} {id : Nat} {kind : Kind} {text : String}
    (hget : r.graph.get id = ⟨kind, .scalar text⟩) (hkind : kind ∈ Kind.ofWords) :
    datum id r = (kind.read text).map (·, r) := by
  have hmain : r.graph.mainText (r.graph.size + 1) id = .ok text := by
    rw [Graph.mainText, hget]
  have hof : r.graph.kind id = kind := congrArg Node.kind hget
  have hlift (x : Except Fault Datum) : (liftM x : Visit Datum) r = x.map (·, r) := by
    cases x <;> rfl
  simp only [Kind.ofWords, List.mem_cons, List.not_mem_nil, or_false] at hkind
  unfold datum
  simp only [bind, StateT.bind, get, getThe, MonadStateOf.get, StateT.get, pure, Except.pure,
    Except.bind, hof, hmain]
  rcases hkind with rfl | rfl | rfl | rfl <;> exact hlift _

/-- A mapping of one entry, in the middle of reading. -/
def amidEntry (k w : String) (kind : Kind) : Reading where
  graph := .entry ⟨.text, .scalar k⟩ ⟨kind, .scalar w⟩
  met := [0]

variable {kind : Kind} (k w : String)

theorem entries_amidEntry (hkind : kind ∈ Kind.ofWords) :
    entries 0 (amidEntry k w kind)
      = (kind.read w).map fun d => ([(.text k, d)], amidEntry k w kind) := by
  have hkey : datum 1 (amidEntry k w kind) = .ok (.text k, amidEntry k w kind) :=
    datum_scalar (r := amidEntry k w kind) rfl (List.mem_of_getLast? rfl)
  have hvalue : datum 2 (amidEntry k w kind) = (kind.read w).map (·, amidEntry k w kind) :=
    datum_scalar rfl hkind
  have hmembers : entries 0 (amidEntry k w kind) = ([(1, 2)].mapM fun entry => do
      let key ← datum entry.1
      if key = .collection then throw .unreadable
      return (key, ← datum entry.2) : Visit (List (Datum × Datum))) (amidEntry k w kind) := (rfl)
  rw [hmembers, List.mapM_cons, List.mapM_nil]
  simp only [bind, StateT.bind, hkey, hvalue, Except.bind, reduceCtorEq, if_false]
  cases kind.read w <;> rfl

theorem all_amidEntry (hkind : kind ∈ Kind.ofWords) (fuel : Nat) :
    all (fuel + 1) { amidEntry k w kind with waiting := [0] }
      = (kind.read w).map fun d => ([(.text k, d)], amidEntry k w kind) := by
  have hfirst : all (fuel + 1) { amidEntry k w kind with waiting := [0] } = (do
      let found ← entries 0
      let _ ← all fuel
      return found : Visit (List (Datum × Datum))) (amidEntry k w kind) := (rfl)
  have hrest : all fuel (amidEntry k w kind) = .ok ([], amidEntry k w kind) := by
    cases fuel <;> rfl
  rw [hfirst]
  simp only [bind, StateT.bind, entries_amidEntry k w hkind]
  cases kind.read w with
  | error fault => rfl
  | ok d =>
    simp only [Except.map, Except.bind, hrest]
    rfl

/-- **The entries of the outermost mapping** are the one entry. -/
theorem root_entry (hkind : kind ∈ Kind.ofWords) :
    root 0 { graph := .entry ⟨.text, .scalar k⟩ ⟨kind, .scalar w⟩ }
      = (kind.read w).map fun d => ([(.text k, d)], amidEntry k w kind) := by
  have hroot : root 0 { graph := .entry ⟨.text, .scalar k⟩ ⟨kind, .scalar w⟩ } = (do
      let found ← all 4
      return if (← get).graph.kind 0 = .mapping then found else [] :
        Visit (List (Datum × Datum))) { amidEntry k w kind with waiting := [0] } := (rfl)
  rw [hroot]
  simp only [bind, StateT.bind, all_amidEntry k w hkind]
  cases kind.read w <;> rfl

end Visit

/-! ## The document -/

/-- Without a carriage return the line ends are as they are. -/
theorem unifyLineEnds_of_notMem {cs : List Char} (h : '\r' ∉ cs) : unifyLineEnds cs = cs := by
  induction cs with
  | nil => rfl
  | cons c cs ih =>
    rw [List.mem_cons, not_or] at h
    unfold unifyLineEnds
    split
    · next heq => exact absurd heq (List.cons_ne_nil c cs)
    · next heq => exact absurd (List.cons.inj heq).1.symm h.1
    · next heq => exact absurd (List.cons.inj heq).1.symm h.1
    · next heq =>
      obtain ⟨rfl, rfl⟩ := List.cons.inj heq
      rw [ih h.2]

variable {k w tail : String}

/-- The graph of an entry, with a value or without. -/
theorem ofTokens?_line (hk : IsWord k.toList) (hshort : k.toList.length ≤ longestKey)
    (hw : ∀ c ∈ w.toList, isWordChar c = true) (htail : tail.toList = [] ∨ tail.toList = ['\n']) :
    Graph.ofTokens? (tokens (k.toList ++ ':' :: ' ' :: (w.toList ++ tail.toList)))
      = .ok (.entry ⟨.ofPlain k, .scalar k⟩ ⟨.ofPlain w, .scalar w⟩, some 0) := by
  by_cases hempty : w = ""
  · subst hempty
    show Graph.ofTokens? (tokens (k.toList ++ ':' :: ' ' :: tail.toList)) = _
    rw [tokens_blank hk hshort htail, String.ofList_toList, Graph.ofTokens?_blank]
  · rw [tokens_entry hk hshort (isWord_toList hempty hw) htail, String.ofList_toList,
      String.ofList_toList, Graph.ofTokens?_entry]

/-- **Reading an entry**: a line with a key that is a text and a value, both words, with
its end or without; the value may be missing. It is read as the value is, under the
key. -/
theorem read_entry (hk : IsWord k.toList) (hshort : k.toList.length ≤ longestKey)
    (htext : Kind.ofPlain k = .text) (hw : ∀ c ∈ w.toList, isWordChar c = true)
    (htail : tail = "" ∨ tail = "\n") :
    read (k ++ ": " ++ w ++ tail) = ((Kind.ofPlain w).read w).map fun d => ⟨[(k, d)]⟩ := by
  have hlist : (k ++ ": " ++ w ++ tail).toList
      = k.toList ++ ':' :: ' ' :: (w.toList ++ tail.toList) := by
    simp [String.toList_append]
  have htail' : tail.toList = [] ∨ tail.toList = ['\n'] := by
    rcases htail with rfl | rfl
    · exact .inl rfl
    · exact .inr rfl
  have hchars : ∀ c ∈ k.toList ++ ':' :: ' ' :: (w.toList ++ tail.toList),
      c ≠ '\r' ∧ isAllowed c = true := by
    have hword {cs : List Char} (h : ∀ c ∈ cs, isWordChar c = true) :
        ∀ c ∈ cs, c ≠ '\r' ∧ isAllowed c = true :=
      fun c hc => of_isWordChar (P := fun c => c ≠ '\r' ∧ isAllowed c = true) (by decide) (h c hc)
    have hend : ∀ c ∈ tail.toList, c ≠ '\r' ∧ isAllowed c = true := by
      rcases htail' with h | h <;> rw [h]
      · exact fun _ hc => absurd hc List.not_mem_nil
      · exact List.forall_mem_singleton.mpr (by decide)
    rw [List.forall_mem_append, List.forall_mem_cons, List.forall_mem_cons, List.forall_mem_append]
    exact ⟨hword hk.isWordChar, by decide, by decide, hword hw, hend⟩
  have hunify := unifyLineEnds_of_notMem fun hmem => (hchars _ hmem).1 rfl
  have hallowed : (k.toList ++ ':' :: ' ' :: (w.toList ++ tail.toList)).all isAllowed = true :=
    List.all_eq_true.mpr fun c hc => (hchars c hc).2
  unfold read
  rw [hlist]
  dsimp only
  rw [hunify, hallowed, ofTokens?_line hk hshort hw htail', htext]
  simp only [bind, Except.bind, StateT.run, Visit.root_entry k w (Kind.ofPlain_mem_ofWords hw)]
  cases (Kind.ofPlain w).read w <;> rfl

end QuicTelemetry.Document
