import QuicTelemetry.Document.Token
import QuicTelemetry.Proofs.Text.Words

/-!
# The tokens of an entry

The smallest document with something in it is one line: a key, a colon, a blank and a
value. Where both are words nothing in them is a mark of the notation, so the reader
takes each of them whole. That the first is a key shows at the colon only: **the tokens
are those of a block mapping of one entry** (`tokens_entry`).

A state is named after what lies behind it. One lemma for each round says what the round
makes of the state; the tokens follow from the four of them.
-/

namespace QuicTelemetry.Document

open Text

variable {c : Char} {cs rest : List Char}

/-! ## Characters of words -/

/-- The characters that mean something in some place. -/
def marks : List Char :=
  ['%', '[', ']', '\x7b', '\x7d', ',', '-', '?', ':', '*', '&', '!', '|', '>', '\'', '"', '#', '@',
    '\x60', ' ', '.', '\r', '\uFEFF', endMark]

/-- No mark stands in a word. -/
theorem ne_of_mem_marks (h : isWordChar c = true) : ∀ mark ∈ marks, c ≠ mark := by
  have hmarks : marks.all (fun mark => !isWordChar mark) = true := by decide
  rintro mark hmark rfl
  have hnot := List.all_eq_true.mp hmarks c hmark
  rw [h] at hnot
  cases hnot

/-- No gap and no line end stands in a word. -/
theorem isGap_of_isWordChar (h : isWordChar c = true) : isGap c = false ∧ isBreak c = false :=
  of_isWordChar (P := fun c => isGap c = false ∧ isBreak c = false) (by decide) h

/-! ## The cursor -/

namespace Cursor

/-- The place behind a word. -/
theorem skip_append (h : ∀ c ∈ cs, isWordChar c = true) (rest : List Char)
    (index line column : Nat) :
    (⟨cs ++ rest, index, line, column⟩ : Cursor).skip cs.length
      = ⟨rest, index + cs.length, line, column + cs.length⟩ := by
  induction cs generalizing index column with
  | nil => rfl
  | cons c cs ih =>
    obtain ⟨hc, hcs⟩ := List.forall_mem_cons.mp h
    have hnext : (⟨c :: cs ++ rest, index, line, column⟩ : Cursor).next
        = ⟨cs ++ rest, index + 1, line, column + 1⟩ := by
      have hmark : c ≠ '\uFEFF' := ne_of_mem_marks hc _ (by decide)
      simp [next, (isGap_of_isWordChar hc).2, hmark]
    rw [List.length_cons, skip, hnext, ih hcs]
    congr 1 <;> omega

/-- Where neither a blank nor a comment stands, nothing is passed over. -/
theorem skipComment_of_ne (hblank : c ≠ ' ') (hmark : c ≠ '#') (index line column : Nat) :
    (⟨c :: rest, index, line, column⟩ : Cursor).skipComment = ⟨c :: rest, index, line, column⟩ := by
  have hskip : (⟨c :: rest, index, line, column⟩ : Cursor).skipWhile (· == ' ')
      = ⟨c :: rest, index, line, column⟩ := by
    simp [skipWhile, run, hblank, skip]
  unfold skipComment
  rw [hskip]
  exact if_neg hmark

/-- A blank is passed over. -/
theorem skipComment_blank (hblank : c ≠ ' ') (hmark : c ≠ '#') (index line column : Nat) :
    (⟨' ' :: c :: rest, index, line, column⟩ : Cursor).skipComment
      = ⟨c :: rest, index + 1, line, column + 1⟩ := by
  have hskip : (⟨' ' :: c :: rest, index, line, column⟩ : Cursor).skipWhile (· == ' ')
      = ⟨c :: rest, index + 1, line, column + 1⟩ := by
    simp [skipWhile, run, hblank, skip, next, isBreak]
  unfold skipComment
  rw [hskip]
  exact if_neg hmark

end Cursor

/-! ## Plain scalars -/

namespace Lexeme

/-- A part of a plain scalar goes on through a word. -/
theorem plainPart_append (h : ∀ c ∈ cs, isWordChar c = true) (hrest : plainPart false rest = []) :
    plainPart false (cs ++ rest) = cs := by
  induction cs with
  | nil => exact hrest
  | cons c cs ih =>
    obtain ⟨hc, hcs⟩ := List.forall_mem_cons.mp h
    have hends : endsPlain false c ((cs ++ rest).headD endMark) = false := by
      have hmark : c ≠ ':' := ne_of_mem_marks hc _ (by decide)
      simp [endsPlain, (isGap_of_isWordChar hc).1, hmark]
    rw [List.cons_append, plainPart, hends, if_neg Bool.false_ne_true, ih hcs]

/-- **A word is a plain scalar** if the gap behind it leads to no further part. -/
theorem plain_of_word (h : ∀ c ∈ cs, isWordChar c = true) (hrest : plainPart false rest = [])
    {column : Int} {index line place : Nat} {gap : PlainGap}
    (hgap : plainGap ⟨rest, index + cs.length, line, place + cs.length⟩ = gap)
    (hstop : gap.chars = [] ∨ gap.after.column < column) :
    plain false column ⟨cs ++ rest, index, line, place⟩ = ⟨cs, gap.broken, gap.after⟩ := by
  have hpart : (if (⟨cs ++ rest, index, line, place⟩ : Cursor).head = '#' then []
      else plainPart false (cs ++ rest)) = cs := by
    rw [plainPart_append h hrest]
    cases cs with
    | nil => exact ite_self _
    | cons c cs => exact if_neg (ne_of_mem_marks (h c List.mem_cons_self) _ (by decide))
  unfold plain plainFrom
  dsimp only
  rw [hpart, Cursor.skip_append h, hgap, if_pos]
  rcases hstop with hstop | hstop <;> simp [hstop]

/-- A word in front of a colon. -/
theorem plain_of_key (h : ∀ c ∈ cs, isWordChar c = true) (rest : List Char) (column : Int)
    (index line place : Nat) :
    plain false column ⟨cs ++ ':' :: ' ' :: rest, index, line, place⟩
      = ⟨cs, false, ⟨':' :: ' ' :: rest, index + cs.length, line, place + cs.length⟩⟩ :=
  plain_of_word h rfl rfl (.inl rfl)

/-- A word that comes last, or in front of the last line end. -/
theorem plain_of_last (h : ∀ c ∈ cs, isWordChar c = true) (hrest : rest = [] ∨ rest = ['\n'])
    {column : Int} (hcolumn : 0 < column) (index line place : Nat) :
    ∃ broken after, plain false column ⟨cs ++ rest, index, line, place⟩ = ⟨cs, broken, after⟩
      ∧ after.rest = [] := by
  rcases hrest with rfl | rfl
  · exact ⟨false, _, plain_of_word h rfl rfl (.inl rfl), rfl⟩
  · have hgap (index line place : Nat) :
        plainGap ⟨['\n'], index, line, place⟩ = ⟨[' '], true, ⟨[], index + 1, line + 1, 0⟩⟩ := rfl
    exact ⟨true, _, plain_of_word h rfl (hgap ..) (.inr hcolumn), rfl⟩

end Lexeme

/-! ## One round -/

namespace Scan

/-- At a word a plain scalar is read. -/
theorem read_of_word {s : Scan} (hc : isWordChar c = true) {index line place : Nat}
    (hcursor : s.cursor = ⟨c :: rest, index, line, place⟩) : s.read = s.readPlain := by
  have hmarks := ne_of_mem_marks hc
  simp only [marks, List.forall_mem_cons] at hmarks
  have hmarker : (⟨c :: rest, index, line, place⟩ : Cursor).seesMarker = false := by
    have hdash : '-' ≠ c := (ne_of_mem_marks hc _ (by decide)).symm
    have hpoint : '.' ≠ c := (ne_of_mem_marks hc _ (by decide)).symm
    simp [Cursor.seesMarker, Cursor.sees, List.isPrefixOf, hdash, hpoint]
  have hstarts (inFlow : Bool) (next : Char) : startsPlain inFlow c next = true := by
    simp [startsPlain, hmarks, (isGap_of_isWordChar hc).1]
  have hhead : (⟨c :: rest, index, line, place⟩ : Cursor).head = c := rfl
  simp [read, hcursor, hhead, hmarks, hmarker, hstarts]

/-- At a colon with a blank behind it a value starts. -/
theorem read_of_colon {s : Scan} {index line place : Nat}
    (hcursor : s.cursor = ⟨':' :: ' ' :: rest, index, line, place⟩) : s.read = s.readColon := by
  have hhead : (⟨':' :: ' ' :: rest, index, line, place⟩ : Cursor).head = ':' := rfl
  have hpeek : (⟨':' :: ' ' :: rest, index, line, place⟩ : Cursor).peek 1 = ' ' := rfl
  have hmarker : (⟨':' :: ' ' :: rest, index, line, place⟩ : Cursor).seesMarker = false := by
    simp [Cursor.seesMarker, Cursor.sees, List.isPrefixOf]
  have hgap : isGap ' ' = true := rfl
  simp [read, hcursor, hhead, hpeek, hmarker, hgap]

/-- A word at which a key may start is a candidate. -/
theorem read_of_keyAllowed {s : Scan} {p : Lexeme.Plain} (hread : s.read = s.readPlain)
    (hallowed : s.keyAllowed = true) (hcandidate : s.candidate = none) (hflow : s.candidates = [])
    (hcolumn : s.column < s.cursor.column)
    (hplain : Lexeme.plain false (s.column + 1) s.cursor = p) :
    s.read = .ok { s with
      cursor := p.after
      tokens := s.tokens ++ [.scalar (String.ofList p.chars) true]
      candidate := some ⟨s.tokens.length, false, s.cursor⟩
      keyAllowed := p.broken } := by
  obtain ⟨cursor, tokens, column, outer, candidate, candidates, keyAllowed⟩ := s
  cases hallowed
  cases hcandidate
  cases hflow
  have hrequired : (column == (cursor.column : Int)) = false :=
    beq_false_of_ne (Int.ne_of_lt hcolumn)
  rw [hread]
  unfold readPlain noteCandidate dropCandidate
  simp only [inFlow, bind, Except.bind, pure, Except.pure, if_true, List.isEmpty_nil, Bool.not_true,
    Bool.not_false, hrequired, Bool.and_false, hplain]
  rfl

/-- A word at which no key may start is read and no more. -/
theorem read_of_not_keyAllowed {s : Scan} {p : Lexeme.Plain} (hread : s.read = s.readPlain)
    (hallowed : s.keyAllowed = false) (hflow : s.candidates = [])
    (hplain : Lexeme.plain false (s.column + 1) s.cursor = p) :
    s.read = .ok { s with
      cursor := p.after
      tokens := s.tokens ++ [.scalar (String.ofList p.chars) true]
      keyAllowed := p.broken } := by
  obtain ⟨cursor, tokens, column, outer, candidate, candidates, keyAllowed⟩ := s
  cases hallowed
  cases hflow
  rw [hread]
  unfold readPlain noteCandidate
  simp only [inFlow, bind, Except.bind, pure, Except.pure, Bool.false_eq_true, if_false,
    List.isEmpty_nil, Bool.not_true, hplain]
  rfl

/-- The next token is behind the blanks, if no line ends there. -/
theorem nextLine_of_skipComment {c c' : Cursor} (hskip : c.skipComment = c')
    (hbreak : isBreak c'.head = false) (fuel : Nat) : nextLine (fuel + 1) c = (c', false) := by
  unfold nextLine
  dsimp only
  rw [hskip, hbreak, if_neg Bool.false_ne_true]

/-- A collection whose column is reached does not end. -/
theorem unwind_of_le {s : Scan} {column : Int} (h : s.column ≤ column) : s.unwind column = s := by
  have hunwound : unwound column s.column s.outer = (s.column, s.outer, 0) := by
    cases s.outer with
    | nil => rfl
    | cons next outer => exact if_neg (by omega)
  unfold unwind
  split
  · rfl
  · rw [hunwound]
    simp

/-- Going on to the next token, where no collection ends and no bracket is open. -/
theorem advance_of {s : Scan} {c : Cursor} {broken : Bool}
    (hnext : nextLine (s.cursor.rest.length + 1) s.cursor = (c, broken))
    (hflow : s.candidates = []) (htimely : timely c s.candidate = .ok s.candidate)
    (hcolumn : s.column ≤ c.column) :
    s.advance = .ok { s with cursor := c, keyAllowed := s.keyAllowed || broken } := by
  obtain ⟨cursor, tokens, column, outer, candidate, candidates, keyAllowed⟩ := s
  cases hflow
  unfold advance
  rw [hnext]
  simp only [dropLate, htimely, bind, Except.bind, pure, Except.pure, List.mapM_nil, inFlow,
    List.isEmpty_nil, Bool.not_true, Bool.not_false, Bool.and_true]
  exact congrArg _ (unwind_of_le hcolumn)

/-- One round: a token is read, or the sequence ends. Its equation is stated here, since
the one that is made for it takes long to make. -/
theorem run_succ (fuel : Nat) (s : Scan) :
    run (fuel + 1) s = match s.advance with
      | .error fault => s.settled ++ [.broken fault]
      | .ok s =>
        if s.cursor.head = endMark then
          match s.finish with
          | .error fault => s.settled ++ [.broken fault]
          | .ok s => s.tokens
        else
          match s.read with
          | .error fault => s.settled ++ [.broken fault]
          | .ok s => run fuel s := (rfl)

/-- A round in which a token is read. -/
theorem run_of_read {fuel : Nat} {s s' s'' : Scan} (hadvance : s.advance = .ok s')
    (hhead : s'.cursor.head ≠ endMark) (hread : s'.read = .ok s'') :
    run (fuel + 1) s = run fuel s'' := by
  rw [run_succ, hadvance]
  dsimp only
  rw [if_neg hhead, hread]

/-- The round in which the sequence ends, and a mapping in the first column with it. -/
theorem run_of_end {s s' : Scan} (hadvance : s.advance = .ok s') (hhead : s'.cursor.head = endMark)
    (hcolumn : s'.column = 0) (houter : s'.outer = [-1]) (hcandidate : s'.candidate = none)
    (hflow : s'.candidates = []) (fuel : Nat) :
    run (fuel + 1) s = s'.tokens ++ [.blockEnd, .streamEnd] := by
  obtain ⟨cursor, tokens, column, outer, candidate, candidates, keyAllowed⟩ := s'
  cases hcolumn
  cases houter
  cases hcandidate
  cases hflow
  rw [run_succ, hadvance]
  dsimp only
  rw [if_pos hhead]
  show (tokens ++ [.blockEnd]) ++ [.streamEnd] = tokens ++ [.blockEnd, .streamEnd]
  rw [List.append_assoc]
  rfl

/-! ## The rounds of an entry -/

variable {k w tail : List Char}

/-- In front of a document. -/
def inFront (cs : List Char) : Scan where
  cursor := ⟨cs, 0, 0, 0⟩

/-- Behind a word that starts a document and may be a key. -/
def behindKey (k rest : List Char) : Scan where
  cursor := ⟨':' :: ' ' :: rest, k.length, 0, k.length⟩
  tokens := [.scalar (String.ofList k) true]
  candidate := some ⟨0, false, ⟨k ++ ':' :: ' ' :: rest, 0, 0, 0⟩⟩
  keyAllowed := false

/-- Behind the colon that makes it one. -/
def behindColon (k rest : List Char) : Scan where
  cursor := ⟨' ' :: rest, k.length + 1, 0, k.length + 1⟩
  tokens := [.blockMapping, .key, .scalar (String.ofList k) true, .value]
  column := 0
  outer := [-1]
  keyAllowed := false

/-- Behind the value of the key. -/
def behindValue (k w : List Char) (cursor : Cursor) (keyAllowed : Bool) : Scan where
  cursor := cursor
  tokens := [.blockMapping, .key, .scalar (String.ofList k) true, .value,
    .scalar (String.ofList w) true]
  column := 0
  outer := [-1]
  keyAllowed := keyAllowed

/-- The word in front is read. -/
theorem run_inFront (hk : IsWord k) (rest : List Char) (fuel : Nat) :
    run (fuel + 1) (inFront (k ++ ':' :: ' ' :: rest)) = run fuel (behindKey k rest) := by
  have hplain := Lexeme.plain_of_key hk.isWordChar rest (-1 + 1) 0 0 0
  simp only [Nat.zero_add] at hplain
  obtain ⟨c, k', rfl, hc⟩ := hk.exists_cons
  have hnext (n : Nat) : nextLine (n + 1) (inFront (c :: k' ++ ':' :: ' ' :: rest)).cursor
      = ((inFront (c :: k' ++ ':' :: ' ' :: rest)).cursor, false) :=
    nextLine_of_skipComment (Cursor.skipComment_of_ne (ne_of_mem_marks hc _ (by decide))
      (ne_of_mem_marks hc _ (by decide)) ..) (isGap_of_isWordChar hc).2 n
  have hle : (-1 : Int) ≤ 0 := by decide
  have hadvance : (inFront (c :: k' ++ ':' :: ' ' :: rest)).advance
      = .ok (inFront (c :: k' ++ ':' :: ' ' :: rest)) :=
    advance_of (hnext _) rfl rfl hle
  have hword : (inFront (c :: k' ++ ':' :: ' ' :: rest)).read
      = (inFront (c :: k' ++ ':' :: ' ' :: rest)).readPlain := read_of_word hc rfl
  have hlt : (-1 : Int) < 0 := by decide
  have hread := read_of_keyAllowed hword rfl rfl rfl hlt hplain
  have hhead : (inFront (c :: k' ++ ':' :: ' ' :: rest)).cursor.head ≠ endMark :=
    ne_of_mem_marks hc _ (by decide)
  exact run_of_read hadvance hhead hread

/-- The colon is read, and the word was a key. -/
theorem run_behindKey (hshort : k.length ≤ longestKey) (rest : List Char) (fuel : Nat) :
    run (fuel + 1) (behindKey k rest) = run fuel (behindColon k rest) := by
  have hnext (n : Nat) : nextLine (n + 1) (behindKey k rest).cursor
      = ((behindKey k rest).cursor, false) :=
    nextLine_of_skipComment (Cursor.skipComment_of_ne (by decide) (by decide) ..) rfl n
  have hlate : decide (k.length - 0 > longestKey) = false := by simpa using hshort
  have htimely : timely (behindKey k rest).cursor (behindKey k rest).candidate
      = .ok (behindKey k rest).candidate := by
    unfold timely behindKey Candidate.isLate
    simp only [hlate]
    rfl
  have hle : (-1 : Int) ≤ (k.length : Int) := by omega
  have hadvance : (behindKey k rest).advance = .ok (behindKey k rest) :=
    advance_of (hnext _) rfl htimely hle
  have hread : (behindKey k rest).read = .ok (behindColon k rest) := by
    rw [read_of_colon rfl]
    rfl
  have hhead : (behindKey k rest).cursor.head ≠ endMark := by
    show ':' ≠ endMark
    decide
  exact run_of_read hadvance hhead hread

/-- The value is read, and nothing is left. -/
theorem run_behindColon (k : List Char) (hw : IsWord w) (htail : tail = [] ∨ tail = ['\n']) :
    ∃ cursor keyAllowed, cursor.rest = [] ∧ ∀ fuel,
      run (fuel + 1) (behindColon k (w ++ tail)) = run fuel (behindValue k w cursor keyAllowed) := by
  have hpos : (0 : Int) < 0 + 1 := by decide
  obtain ⟨broken, after, hplain, hafter⟩ :=
    Lexeme.plain_of_last hw.isWordChar htail hpos (k.length + 2) 0 (k.length + 2)
  refine ⟨after, broken, hafter, fun fuel => ?_⟩
  obtain ⟨c, w', rfl, hc⟩ := hw.exists_cons
  let atValue : Scan := { behindColon k (c :: w' ++ tail) with
    cursor := ⟨c :: w' ++ tail, k.length + 2, 0, k.length + 2⟩ }
  have hnext (n : Nat) : nextLine (n + 1) (behindColon k (c :: w' ++ tail)).cursor
      = (atValue.cursor, false) :=
    nextLine_of_skipComment (Cursor.skipComment_blank (ne_of_mem_marks hc _ (by decide))
      (ne_of_mem_marks hc _ (by decide)) ..) (isGap_of_isWordChar hc).2 n
  have hle : (0 : Int) ≤ ((k.length + 2 : Nat) : Int) := by omega
  have hadvance : (behindColon k (c :: w' ++ tail)).advance = .ok atValue :=
    advance_of (hnext _) rfl rfl hle
  have hword : atValue.read = atValue.readPlain := read_of_word hc rfl
  have hread := read_of_not_keyAllowed hword rfl rfl hplain
  have hhead : atValue.cursor.head ≠ endMark := ne_of_mem_marks hc _ (by decide)
  exact run_of_read hadvance hhead hread

/-- Nothing follows the value. -/
theorem run_behindValue (k w : List Char) {cursor : Cursor} (hcursor : cursor.rest = [])
    (keyAllowed : Bool) (fuel : Nat) :
    run (fuel + 1) (behindValue k w cursor keyAllowed)
      = (behindValue k w cursor keyAllowed).tokens ++ [.blockEnd, .streamEnd] := by
  obtain ⟨_, index, line, place⟩ := cursor
  cases hcursor
  have hle : (0 : Int) ≤ (place : Int) := by omega
  have hadvance : (behindValue k w ⟨[], index, line, place⟩ keyAllowed).advance
      = .ok { behindValue k w ⟨[], index, line, place⟩ keyAllowed with
        keyAllowed := keyAllowed || false } :=
    advance_of rfl rfl rfl hle
  exact run_of_end hadvance rfl rfl rfl rfl rfl fuel

/-- Nothing follows the colon but a blank. -/
theorem run_behindColon_blank (k : List Char) (htail : tail = [] ∨ tail = ['\n']) (fuel : Nat) :
    run (fuel + 1) (behindColon k tail) = (behindColon k tail).tokens ++ [.blockEnd, .streamEnd] := by
  obtain ⟨index, line, column, keyAllowed, hadvance⟩ : ∃ index line column keyAllowed,
      (behindColon k tail).advance = .ok { behindColon k tail with
        cursor := ⟨[], index, line, column⟩
        keyAllowed := keyAllowed } := by
    rcases htail with rfl | rfl
    · have hle : (0 : Int) ≤ ((k.length + 2 : Nat) : Int) := by omega
      exact ⟨_, _, _, _, advance_of rfl rfl rfl hle⟩
    · have hnext : nextLine 3 (behindColon k ['\n']).cursor = (⟨[], k.length + 3, 1, 0⟩, true) := rfl
      exact ⟨_, _, _, _, advance_of hnext rfl rfl (Int.le_refl 0)⟩
  exact run_of_end hadvance rfl rfl rfl rfl rfl fuel

end Scan

/-- A line with a key is read up to its colon. The key is found if the colon is near
enough. -/
theorem tokens_eq_run {k : List Char} (hk : IsWord k) (hshort : k.length ≤ longestKey)
    (rest : List Char) :
    tokens (k ++ ':' :: ' ' :: rest)
      = Scan.run (k.length + rest.length + 1) (Scan.behindColon k rest) := by
  have hlength : (k ++ ':' :: ' ' :: rest).length + 1 = k.length + rest.length + 1 + 1 + 1 := by
    simp only [List.length_append, List.length_cons]
    omega
  have hhead : (⟨k ++ ':' :: ' ' :: rest, 0, 0, 0⟩ : Cursor).head ≠ '\uFEFF' := by
    obtain ⟨c, k', rfl, hc⟩ := hk.exists_cons
    exact ne_of_mem_marks hc _ (by decide)
  unfold tokens
  dsimp only
  rw [if_neg hhead, hlength]
  rw [← Scan.run_behindKey hshort, ← Scan.run_inFront hk]
  rfl

variable {k w tail : List Char}

/-- **The tokens of an entry**: a line with a word, a colon and a word, and with its end
or without. -/
theorem tokens_entry (hk : IsWord k) (hshort : k.length ≤ longestKey) (hw : IsWord w)
    (htail : tail = [] ∨ tail = ['\n']) :
    tokens (k ++ ':' :: ' ' :: (w ++ tail))
      = [.blockMapping, .key, .scalar (String.ofList k) true, .value,
          .scalar (String.ofList w) true, .blockEnd, .streamEnd] := by
  obtain ⟨cursor, keyAllowed, hcursor, hvalue⟩ := Scan.run_behindColon k hw htail
  obtain ⟨fuel, hfuel⟩ : ∃ fuel, k.length + (w ++ tail).length + 1 = fuel + 1 + 1 := by
    have hpos := List.length_pos_iff.mpr hk.ne_nil
    exact ⟨k.length + (w ++ tail).length - 1, by omega⟩
  rw [tokens_eq_run hk hshort, hfuel]
  exact (hvalue _).trans (Scan.run_behindValue k w hcursor ..)

/-- The tokens of an entry without a value. -/
theorem tokens_blank (hk : IsWord k) (hshort : k.length ≤ longestKey)
    (htail : tail = [] ∨ tail = ['\n']) :
    tokens (k ++ ':' :: ' ' :: tail)
      = [.blockMapping, .key, .scalar (String.ofList k) true, .value, .blockEnd, .streamEnd] :=
  (tokens_eq_run hk hshort tail).trans (Scan.run_behindColon_blank k htail _)

end QuicTelemetry.Document
