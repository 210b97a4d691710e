import QuicTelemetry.Document.Lexeme

/-!
# Tokens

A document is a sequence of tokens. Most stand for marks and scalars as they
are written. The others make the layout explicit: where a block collection
starts and ends, which only its column tells, and where a key starts, which
only the colon behind it tells.

So a key is found in hindsight. Wherever one may start, the place is kept as a
*candidate*, one for each open bracket; a colon on the same line, at most 1024
characters on, makes it a key and puts the tokens for it in front of what was
read since. A candidate at the column of a block mapping has to become a key.

A document that is not well formed gives the tokens up to its fault, and the
fault. A token behind a candidate is not given in front of the fault, since
what it is was not settled yet.
-/

namespace QuicTelemetry.Document

/-- **A token.** -/
inductive Token where
  /-- A directive, on a line of its own. -/
  | directive (d : Lexeme.Directive)
  /-- The mark in front of a document. -/
  | documentStart
  /-- The mark behind a document. -/
  | documentEnd
  /-- The start of a block sequence. -/
  | blockSequence
  /-- The start of a block mapping. -/
  | blockMapping
  /-- The end of a block collection. -/
  | blockEnd
  /-- An opening bracket. -/
  | flowSequence
  /-- A closing bracket. -/
  | flowSequenceEnd
  /-- An opening brace. -/
  | flowMapping
  /-- A closing brace. -/
  | flowMappingEnd
  /-- A comma between brackets or braces. -/
  | flowEntry
  /-- The dash in front of an item. -/
  | blockEntry
  /-- The place in front of a key. -/
  | key
  /-- The colon in front of a value. -/
  | value
  /-- A reference to an anchored node. -/
  | alias (name : String)
  /-- The anchor of a node. -/
  | anchor (name : String)
  /-- The tag of a node. -/
  | tag (handle : Option String) (text : String)
  /-- A scalar, plain or not. -/
  | scalar (text : String) (plain : Bool)
  /-- The end of all documents. -/
  | streamEnd
  /-- The place of a fault, behind which nothing is read. -/
  | broken (fault : Fault)
  deriving Repr

/-- **A place where a key may start.** -/
structure Candidate where
  /-- How many tokens lie in front. -/
  position : Nat
  /-- Whether it has to become a key. -/
  required : Bool
  /-- The place itself. -/
  place : Cursor
  deriving Repr

/-- How far a colon may be away from the start of its key. -/
def longestKey : Nat := 1024

/-- Whether it is too late for a colon. -/
def Candidate.isLate (k : Candidate) (c : Cursor) : Bool :=
  k.place.line != c.line || decide (c.index - k.place.index > longestKey)

/-- **What is known in the middle of a document.** -/
structure Scan where
  /-- The place. -/
  cursor : Cursor
  /-- The tokens so far. -/
  tokens : List Token := []
  /-- The column of the innermost block collection; -1 outside of all. -/
  column : Int := -1
  /-- The columns of the collections around it. -/
  outer : List Int := []
  /-- The candidate inside the innermost brackets. -/
  candidate : Option Candidate := none
  /-- The candidates around each open bracket, the innermost first. -/
  candidates : List (Option Candidate) := []
  /-- Whether a key may start here. -/
  keyAllowed : Bool := true

namespace Scan

/-- Whether a bracket or a brace is open. -/
def inFlow (s : Scan) : Bool := !s.candidates.isEmpty

/-- The state with one more token. -/
def emit (s : Scan) (t : Token) : Scan := { s with tokens := s.tokens ++ [t] }

/-- The state at another place. -/
def moveTo (s : Scan) (c : Cursor) : Scan := { s with cursor := c }

/-- The state in which a key may start or not. -/
def allowKey (s : Scan) (allowed : Bool) : Scan := { s with keyAllowed := allowed }

/-- The tokens in front of every candidate. -/
def settled (s : Scan) : List Token :=
  (s.candidate :: s.candidates).foldl (fun tokens k =>
    match k with
    | some k => tokens.take k.position
    | none => tokens) s.tokens

/-! ## Columns -/

/-- The block collections that end in front of a column: the column of what
remains, those around it, and how many end. -/
def unwound (column : Int) : Int → List Int → Int × List Int × Nat
  | innermost, [] => (innermost, [], 0)
  | innermost, next :: outer =>
    if innermost > column then
      let (innermost, outer, n) := unwound column next outer
      (innermost, outer, n + 1)
    else (innermost, next :: outer, 0)

/-- Ends the block collections of larger columns. -/
def unwind (s : Scan) (column : Int) : Scan :=
  if s.inFlow then s
  else
    let (innermost, outer, n) := unwound column s.column s.outer
    { s with column := innermost, outer, tokens := s.tokens ++ List.replicate n .blockEnd }

/-- Whether a column starts a new block collection. -/
def opens (s : Scan) (column : Int) : Bool := !s.inFlow && s.column < column

/-- The state inside a new block collection. -/
def enter (s : Scan) (column : Int) : Scan := { s with column, outer := s.column :: s.outer }

/-- Starts a block collection at the cursor, if its column asks for one. -/
def openHere (s : Scan) (start : Token) : Scan :=
  if s.opens s.cursor.column then (s.enter s.cursor.column).emit start else s

/-! ## Candidates -/

/-- Gives the candidate up. -/
def dropCandidate (s : Scan) : Except Fault Scan :=
  match s.candidate with
  | some k => if k.required then .error .unreadable else .ok { s with candidate := none }
  | none => .ok s

/-- Makes the cursor the candidate, if a key may start there. -/
def noteCandidate (s : Scan) : Except Fault Scan := do
  if s.keyAllowed then
    let s ← s.dropCandidate
    let required := !s.inFlow && s.column == (s.cursor.column : Int)
    return { s with candidate := some ⟨s.tokens.length, required, s.cursor⟩ }
  else return s

/-- A candidate that is not late; one that has to become a key must not be
late. -/
def timely (c : Cursor) : Option Candidate → Except Fault (Option Candidate)
  | some k =>
    if k.isLate c then if k.required then .error .unreadable else .ok none else .ok (some k)
  | none => .ok none

/-- Gives the late candidates up. -/
def dropLate (s : Scan) : Except Fault Scan := do
  let candidate ← timely s.cursor s.candidate
  let candidates ← s.candidates.mapM (timely s.cursor)
  return { s with candidate, candidates }

/-- Makes the candidate a key. -/
def confirm (s : Scan) (k : Candidate) : Scan :=
  let s := { s with candidate := none }
  let column : Int := k.place.column
  -- the new tokens come in front of those that were read since the candidate
  if s.opens column then
    { s.enter column with
      tokens := s.tokens.take k.position ++ [.blockMapping, .key] ++ s.tokens.drop k.position }
  else { s with tokens := s.tokens.take k.position ++ [.key] ++ s.tokens.drop k.position }

/-! ## Single tokens -/

/-- Ends all block collections in front of a mark between documents. -/
def leaveAll (s : Scan) : Except Fault Scan := do
  let s ← (s.unwind (-1)).dropCandidate
  return s.allowKey false

/-- A directive. -/
def readDirective (s : Scan) : Except Fault Scan := do
  let s ← s.leaveAll
  let (d, c) ← Lexeme.directive s.cursor
  return (s.emit (.directive d)).moveTo c

/-- A mark between documents. -/
def readMarker (s : Scan) (t : Token) : Except Fault Scan := do
  let s ← s.leaveAll
  return (s.emit t).moveTo (s.cursor.skip 3)

/-- An opening bracket. -/
def readOpening (s : Scan) (t : Token) : Except Fault Scan := do
  let s ← s.noteCandidate
  let s := { s with candidates := s.candidate :: s.candidates, candidate := none }
  return ((s.emit t).moveTo s.cursor.next).allowKey true

/-- A closing bracket. -/
def readClosing (s : Scan) (t : Token) : Except Fault Scan := do
  let s ← s.dropCandidate
  let s := match s.candidates with
    | [] => s
    | candidate :: candidates => { s with candidate, candidates }
  return ((s.emit t).moveTo s.cursor.next).allowKey false

/-- A comma. -/
def readComma (s : Scan) : Except Fault Scan := do
  let s ← s.dropCandidate
  return ((s.emit .flowEntry).moveTo s.cursor.next).allowKey true

/-- A mark that only stands where a key may start, outside of brackets. -/
def requireKeyPlace (s : Scan) : Except Fault Unit :=
  if s.inFlow || s.keyAllowed then .ok () else .error .unreadable

/-- The dash in front of an item. -/
def readDash (s : Scan) : Except Fault Scan := do
  s.requireKeyPlace
  let s ← (s.openHere .blockSequence).dropCandidate
  return ((s.emit .blockEntry).moveTo s.cursor.next).allowKey true

/-- The question mark in front of a key. -/
def readQuestion (s : Scan) : Except Fault Scan := do
  s.requireKeyPlace
  let s ← (s.openHere .blockMapping).dropCandidate
  return ((s.emit .key).moveTo s.cursor.next).allowKey !s.inFlow

/-- The colon in front of a value. -/
def readColon (s : Scan) : Except Fault Scan := do
  match s.candidate with
  | some k =>
    -- behind a key found in hindsight no other key can start on the line
    let s := s.confirm k
    return ((s.emit .value).moveTo s.cursor.next).allowKey false
  | none =>
    s.requireKeyPlace
    let s := s.openHere .blockMapping
    return ((s.emit .value).moveTo s.cursor.next).allowKey !s.inFlow

/-- A token at which a key may start and behind which none may. -/
def readKeyed (s : Scan) (read : Cursor → Except Fault (Token × Cursor)) : Except Fault Scan := do
  let s ← s.noteCandidate
  let (t, c) ← read s.cursor
  return ((s.emit t).moveTo c).allowKey false

/-- A block scalar. -/
def readBlock (s : Scan) (folded : Bool) : Except Fault Scan := do
  let s ← s.dropCandidate
  let (text, c) ← Lexeme.block folded s.column s.cursor
  return ((s.emit (.scalar text false)).moveTo c).allowKey true

/-- A plain scalar. -/
def readPlain (s : Scan) : Except Fault Scan := do
  let s ← s.noteCandidate
  let p := Lexeme.plain s.inFlow (s.column + 1) s.cursor
  return ((s.emit (.scalar (String.ofList p.chars) true)).moveTo p.after).allowKey p.broken

/-- Whether a plain scalar can start with a character, given the next one. -/
def startsPlain (inFlow : Bool) (c next : Char) : Bool :=
  if c == '-' || (!inFlow && (c == '?' || c == ':')) then !isGap next
  else !isGap c && !"?:,[]\x7b\x7d#&*!|>'\"%@\x60".toList.contains c

/-- **Reads one token** at the cursor. -/
def read (s : Scan) : Except Fault Scan :=
  let c := s.cursor
  let next := c.peek 1
  let named (make : String → Token) (c : Cursor) : Except Fault (Token × Cursor) := do
    let (name, after) ← Lexeme.name Lexeme.endsAnchor c.next
    return (make name, after)
  let scalar (double : Bool) (c : Cursor) : Except Fault (Token × Cursor) := do
    let (text, after) ← Lexeme.quoted double c
    return (.scalar text false, after)
  if c.head = '%' ∧ c.column = 0 then s.readDirective
  else if c.column = 0 ∧ c.seesMarker then
    s.readMarker (if c.head = '-' then .documentStart else .documentEnd)
  else if c.head = '[' then s.readOpening .flowSequence
  else if c.head = '\x7b' then s.readOpening .flowMapping
  else if c.head = ']' then s.readClosing .flowSequenceEnd
  else if c.head = '\x7d' then s.readClosing .flowMappingEnd
  else if c.head = ',' then s.readComma
  else if c.head = '-' ∧ isGap next then s.readDash
  else if c.head = '?' ∧ (s.inFlow ∨ isGap next) then s.readQuestion
  else if c.head = ':' ∧ (s.inFlow ∨ isGap next) then s.readColon
  else if c.head = '*' then s.readKeyed (named .alias)
  else if c.head = '&' then s.readKeyed (named .anchor)
  else if c.head = '!' then
    s.readKeyed fun c => do
      let ((handle, text), after) ← Lexeme.tag c
      return (.tag handle text, after)
  else if c.head = '|' ∧ !s.inFlow then s.readBlock false
  else if c.head = '>' ∧ !s.inFlow then s.readBlock true
  else if c.head = '\'' then s.readKeyed (scalar false)
  else if c.head = '"' then s.readKeyed (scalar true)
  else if startsPlain s.inFlow c.head next then s.readPlain
  else .error .unreadable

/-! ## The whole document -/

/-- The place of the next token, and whether a line end lies in front. -/
def nextLine : Nat → Cursor → Cursor × Bool
  | 0, c => (c, false)
  | fuel + 1, c =>
    let c := c.skipComment
    if isBreak c.head then ((nextLine fuel c.lineBreak.2).1, true) else (c, false)

/-- Goes on to the next token: block collections end whose column it does not
reach. -/
def advance (s : Scan) : Except Fault Scan := do
  let (c, broken) := nextLine (s.cursor.rest.length + 1) s.cursor
  let s := { s with cursor := c, keyAllowed := s.keyAllowed || (broken && !s.inFlow) }
  let s ← s.dropLate
  return s.unwind s.cursor.column

/-- Ends the sequence of tokens. -/
def finish (s : Scan) : Except Fault Scan := do
  let s ← s.leaveAll
  return s.emit .streamEnd

/-- Reads the tokens from here on. -/
def run : Nat → Scan → List Token
  | 0, s => s.settled ++ [.broken .unreadable]
  | fuel + 1, s =>
    match s.advance with
    | .error fault => s.settled ++ [.broken fault]
    | .ok s =>
      if s.cursor.head = endMark then
        match s.finish with
        | .error fault => s.settled ++ [.broken fault]
        | .ok s => s.tokens
      else
        match s.read with
        | .error fault => s.settled ++ [.broken fault]
        | .ok s => run fuel s

end Scan

/-- **The tokens of a document.** A mark of byte order in front is passed
over. -/
def tokens (cs : List Char) : List Token :=
  let start : Cursor := ⟨cs, 0, 0, 0⟩
  let start := if start.head = '\uFEFF' then start.next else start
  Scan.run (cs.length + 1) { cursor := start }

end QuicTelemetry.Document
