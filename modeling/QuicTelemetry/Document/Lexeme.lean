import QuicTelemetry.Document.Cursor
import QuicTelemetry.Fault
import QuicTelemetry.Address

/-!
# Lexemes

The words of a document: names, tags, directives, and scalars in their five
forms. A plain scalar and a quoted one may run over several lines, which are
folded into one; a block scalar keeps its lines, or has them folded if it is
introduced by `>`.

A reader takes the cursor at the lexeme and gives what it read with the cursor
behind it. Readers that take several lines carry a bound on the number of
rounds; each round consumes a character, so the number of characters left is
bound enough.
-/

namespace QuicTelemetry.Document

namespace Lexeme

/-- A name, which a gap or one of some marks ends. -/
def name (ends : Char → Bool) (c : Cursor) : Except Fault (String × Cursor) :=
  let chars := c.run isNameChar
  let after := c.skip chars.length
  if chars ≠ [] ∧ ends after.head then .ok (String.ofList chars, after) else .error .unreadable

/-- Whether the name of a node may end in front of a character. -/
def endsAnchor (c : Char) : Bool := isGap c || "?:,]\x7d%@\x60".toList.contains c

/-- The rest of a line that may hold a comment, and its end. -/
def emptyLine (c : Cursor) : Except Fault Cursor :=
  let c := c.skipComment
  if isLineEnd c.head then .ok c.lineBreak.2 else .error .unreadable

/-! ## Tags -/

/-- Whether a character can be part of the main text of a tag. -/
def isTagChar (c : Char) : Bool := c.isAlphanum || "-;/?:@&=+$,_.!~*'()[]".toList.contains c

/-- The bytes written as a percent sign with two digits each. -/
def escapedBytes : Nat → Cursor → Except Fault (List UInt8 × Cursor)
  | 0, c => .ok ([], c)
  | fuel + 1, c =>
    if c.head = '%' then
      match Address.hexDigit? (c.peek 1), Address.hexDigit? (c.peek 2) with
      | some high, some low => do
        let (bytes, c) ← escapedBytes fuel (c.skip 3)
        return (UInt8.ofNat (16 * high + low) :: bytes, c)
      | _, _ => .error .unreadable
    else .ok ([], c)

/-- The main text of a tag, which may be empty here. -/
def tagChars : Nat → Cursor → Except Fault (List Char × Cursor)
  | 0, c => .ok ([], c)
  | fuel + 1, c =>
    if isTagChar c.head then do
      let (chars, after) ← tagChars fuel c.next
      return (c.head :: chars, after)
    else if c.head = '%' then do
      let (bytes, c) ← escapedBytes c.rest.length c
      match String.fromUTF8? ⟨bytes.toArray⟩ with
      | some s => do
        let (chars, after) ← tagChars fuel c
        return (s.toList ++ chars, after)
      | none => .error .unreadable
    else .ok ([], c)

/-- **The main text of a tag**, which is not empty. -/
def tagText (c : Cursor) : Except Fault (String × Cursor) := do
  let (chars, after) ← tagChars (c.rest.length + 1) c
  if chars = [] then .error .unreadable else .ok (String.ofList chars, after)

/-- The handle of a tag: an exclamation mark, or a name between two. -/
def tagHandle (c : Cursor) : Except Fault (String × Cursor) :=
  if c.head ≠ '!' then .error .unreadable
  else
    let chars := if c.peek 1 = ' ' then [] else c.next.run isNameChar
    let after := c.skip (chars.length + 1)
    if c.peek 1 = ' ' then .ok ("!", after)
    else if after.head = '!' then
      .ok (String.ofList ('!' :: chars ++ ['!']), after.next)
    else .error .unreadable

/-- **A tag**: its handle, if it has one, and its main text. -/
def tag (c : Cursor) : Except Fault ((Option String × String) × Cursor) := do
  let (parts, after) ← parts
  if isStop after.head then return (parts, after) else .error .unreadable
where
  /-- The parts of the tag, whatever stands behind it. -/
  parts : Except Fault ((Option String × String) × Cursor) :=
    if c.peek 1 = '<' then do
      let (text, after) ← tagText (c.skip 2)
      if after.head = '>' then return ((none, text), after.next) else .error .unreadable
    else if isGap (c.peek 1) then .ok ((none, "!"), c.next)
    else if (c.next.run (!isStop ·)).contains '!' then do
      let (handle, c) ← tagHandle c
      let (text, after) ← tagText c
      return ((some handle, text), after)
    else do
      let (text, after) ← tagText c.next
      return ((some "!", text), after)

/-! ## Directives -/

/-- **A directive.** -/
inductive Directive where
  /-- The version of the notation. -/
  | version (major minor : Nat)
  /-- A handle for tags with a common front. -/
  | handle (name front : String)
  /-- Any other directive, which has no effect. -/
  | other
  deriving DecidableEq, Repr

/-- A number in decimal digits. -/
def number (c : Cursor) : Except Fault (Nat × Cursor) :=
  let digits := c.run Char.isDigit
  if digits = [] then .error .unreadable
  else .ok (Numeral.natOf digits, c.skip digits.length)

/-- What a directive says behind its name. -/
def directiveBody (word : String) (c : Cursor) : Except Fault (Directive × Cursor) :=
  let blanks (c : Cursor) : Cursor := c.skipWhile (· == ' ')
  match word with
  | "YAML" => do
    let (major, c) ← number (blanks c)
    if c.head ≠ '.' then throw .unreadable
    let (minor, c) ← number c.next
    if isStop c.head then return (.version major minor, c) else throw .unreadable
  | "TAG" => do
    let (handle, c) ← tagHandle (blanks c)
    if c.head ≠ ' ' then throw .unreadable
    let (front, c) ← tagText (blanks c)
    if isStop c.head then return (.handle handle front, c) else throw .unreadable
  | _ => .ok (.other, c.skipWhile (!isLineEnd ·))

/-- **A directive**, with its line. -/
def directive (c : Cursor) : Except Fault (Directive × Cursor) := do
  let (word, c) ← name isStop c.next
  let (directive, c) ← directiveBody word c
  return (directive, ← emptyLine c)

/-! ## Quoted scalars -/

/-- The character an escape of one letter stands for. -/
def escape? (c : Char) : Option Char :=
  [('0', '\x00'), ('a', '\x07'), ('b', '\x08'), ('t', '\x09'), ('\t', '\x09'), ('n', '\n'),
    ('v', '\x0B'), ('f', '\x0C'), ('r', '\r'), ('e', '\x1B'), (' ', ' '), ('"', '"'),
    ('\\', '\\'), ('/', '/'), ('N', '\x85'), ('_', '\xA0'), ('L', '\u2028'),
    ('P', '\u2029')].lookup c

/-- How many digits an escape by number has. -/
def escapeWidth? (c : Char) : Option Nat := [('x', 2), ('u', 4), ('U', 8)].lookup c

/-- The character with a number. Half of a pair of surrogates is no character
and becomes the replacement character. -/
def charOf (n : Nat) : Except Fault Char :=
  if n ≥ 0x80000000 then .error .overflow
  else if n > 0x10FFFF then .error .malformed
  else if 0xD800 ≤ n ∧ n ≤ 0xDFFF then .ok '\uFFFD'
  else .ok (Char.ofNat n)

/-- The value of some hexadecimal digits. -/
def hexadecimal? (digits : List Char) : Option Nat :=
  digits.foldlM (fun n d => (Address.hexDigit? d).map (16 * n + ·)) 0

/-- The line ends and the blanks from here on. A mark between documents must
not stand at the front of a line. -/
def foldedBreaks : Nat → Cursor → Except Fault (List Char × Cursor)
  | 0, c => .ok ([], c)
  | fuel + 1, c =>
    if c.seesMarker then .error .unreadable
    else
      let c := c.skipWhile isSpacing
      if isBreak c.head then do
        let (breaks, after) ← foldedBreaks fuel c.lineBreak.2
        return (c.lineBreak.1 ++ breaks, after)
      else .ok ([], c)

/-- One line end folded with those that follow: alone it is a blank, otherwise
it falls away. -/
def foldBreak (first breaks : List Char) : List Char :=
  if first ≠ ['\n'] then first ++ breaks
  else if breaks = [] then [' ']
  else breaks

/-- What an escape stands for; the cursor is at the character behind the
backslash. -/
def escaped (c : Cursor) : Except Fault (List Char × Cursor) :=
  match escape? c.head, escapeWidth? c.head with
  | some ch, _ => .ok ([ch], c.next)
  | none, some width =>
    match hexadecimal? ((List.range width).map fun i => c.peek (i + 1)) with
    | some n => do return ([← charOf n], c.skip (width + 1))
    | none => .error .unreadable
  | none, none =>
    if isBreak c.head then foldedBreaks c.rest.length c.lineBreak.2 else .error .unreadable

/-- A quoted scalar up to the next gap or up to its closing quote. -/
def quotedPart (double : Bool) : Nat → Cursor → Except Fault (List Char × Cursor)
  | 0, c => .ok ([], c)
  | fuel + 1, c =>
    if isGap c.head then .ok ([], c)
    else if double then
      if c.head = '"' then .ok ([], c)
      else if c.head = '\\' then do
        let (chars, c) ← escaped c.next
        let (more, c) ← quotedPart double fuel c
        return (chars ++ more, c)
      else do
        let (more, after) ← quotedPart double fuel c.next
        return (c.head :: more, after)
    else if c.head = '\'' then
      if c.peek 1 = '\'' then do
        let (more, after) ← quotedPart double fuel (c.skip 2)
        return ('\'' :: more, after)
      else .ok ([], c)
    else do
      let (more, after) ← quotedPart double fuel c.next
      return (c.head :: more, after)

/-- What the gap inside a quoted scalar stands for. -/
def quotedGap (c : Cursor) : Except Fault (List Char × Cursor) :=
  let blanks := c.run isSpacing
  let c := c.skip blanks.length
  if c.head = endMark then .error .unreadable
  else if isBreak c.head then do
    let (breaks, after) ← foldedBreaks c.rest.length c.lineBreak.2
    return (foldBreak c.lineBreak.1 breaks, after)
  else .ok (blanks, c)

/-- A quoted scalar from here up to its closing quote. -/
def quotedRest (double : Bool) : Nat → Cursor → Except Fault (List Char × Cursor)
  | 0, _ => .error .unreadable
  | fuel + 1, c => do
    let (chars, c) ← quotedPart double (c.rest.length + 1) c
    if c.head = (if double then '"' else '\'') then return (chars, c.next)
    let (gap, c) ← quotedGap c
    let (more, c) ← quotedRest double fuel c
    return (chars ++ gap ++ more, c)

/-- **A quoted scalar.** -/
def quoted (double : Bool) (c : Cursor) : Except Fault (String × Cursor) := do
  let (chars, after) ← quotedRest double (c.rest.length + 1) c.next
  return (String.ofList chars, after)

/-! ## Plain scalars -/

/-- Whether a plain scalar ends here: at a gap, at a colon with a gap behind
it, and inside brackets at their marks too. -/
def endsPlain (inFlow : Bool) (c next : Char) : Bool :=
  isGap c || (c == ':' && (isGap next || (inFlow && ",[]\x7b\x7d".toList.contains next)))
    || (inFlow && ",?[]\x7b\x7d".toList.contains c)

/-- The characters of a plain scalar up to the next gap. -/
def plainPart (inFlow : Bool) : List Char → List Char
  | [] => []
  | ch :: rest =>
    if endsPlain inFlow ch (rest.headD endMark) then [] else ch :: plainPart inFlow rest

/-- The line ends and blanks in front of the next line of a plain scalar; none
if a mark between documents stands at the front of a line. -/
def plainBreaks : Nat → Cursor → Option (List Char) × Cursor
  | 0, c => (some [], c)
  | fuel + 1, c =>
    if c.seesMarker then (none, c)
    else
      let c := c.skipWhile (· == ' ')
      if isBreak c.head then
        let (breaks, after) := plainBreaks fuel c.lineBreak.2
        (breaks.map (c.lineBreak.1 ++ ·), after)
      else (some [], c)

/-- What stands between two parts of a plain scalar. -/
structure PlainGap where
  /-- What it stands for; empty if the scalar ends here. -/
  chars : List Char
  /-- Whether there is a line end in it. -/
  broken : Bool
  /-- The place behind it. -/
  after : Cursor

/-- The gap behind a part of a plain scalar. -/
def plainGap (c : Cursor) : PlainGap :=
  let blanks := c.run (· == ' ')
  let c := c.skip blanks.length
  if isBreak c.head then
    let (breaks, after) := plainBreaks (c.rest.length + 1) c.lineBreak.2
    ⟨(breaks.map (foldBreak c.lineBreak.1)).getD [], true, after⟩
  else ⟨blanks, false, c⟩

/-- What a plain scalar was read as. -/
structure Plain where
  /-- Its text. -/
  chars : List Char
  /-- Whether a line end comes last, behind which a key may start. -/
  broken : Bool
  /-- The place behind it. -/
  after : Cursor

/-- A plain scalar from here on, whose further lines stand at the given column
at least. -/
def plainFrom (inFlow : Bool) (column : Int) : Nat → Cursor → Plain
  | 0, c => ⟨[], false, c⟩
  | fuel + 1, c =>
    let chars := if c.head = '#' then [] else plainPart inFlow c.rest
    let gap := plainGap (c.skip chars.length)
    if gap.chars = [] || gap.after.head = '#' || (!inFlow && gap.after.column < column) then
      ⟨chars, gap.broken, gap.after⟩
    else
      let next := gap.after
      -- a tab or a mark may stand here, with which no part of a scalar starts
      if plainPart inFlow next.rest = [] then ⟨chars, gap.broken, next⟩
      else
        let more := plainFrom inFlow column fuel next
        ⟨chars ++ gap.chars ++ more.chars, more.broken, more.after⟩

/-- **A plain scalar.** -/
def plain (inFlow : Bool) (column : Int) (c : Cursor) : Plain :=
  plainFrom inFlow column (c.rest.length + 1) c

/-! ## Block scalars -/

/-- What becomes of the line ends behind a block scalar. -/
inductive Chomping where
  /-- All are dropped. -/
  | strip
  /-- The first is kept. -/
  | clip
  /-- All are kept. -/
  | keep
  deriving DecidableEq, Repr

/-- The sign of a chomping. -/
def chomping? : Char → Option Chomping
  | '+' => some .keep
  | '-' => some .strip
  | _ => none

/-- The sign and the digit behind the mark of a block scalar, in any order. -/
def blockHeader (c : Cursor) : Except Fault ((Chomping × Option Nat) × Cursor) := do
  let (first, c) := sign c
  let (step, c) := digit c
  let (second, c) := if first.isSome || step.isNone then (none, c) else sign c
  if step = some 0 || !isStop c.head then .error .unreadable
  else return (((first.or second).getD .clip, step), c)
where
  /-- A sign, if there is one. -/
  sign (c : Cursor) : Option Chomping × Cursor :=
    match chomping? c.head with
    | some chomping => (some chomping, c.next)
    | none => (none, c)
  /-- A digit, if there is one. -/
  digit (c : Cursor) : Option Nat × Cursor :=
    if c.head.isDigit then (some (c.head.toNat - '0'.toNat), c.next) else (none, c)

/-- The blanks in front of a column. -/
def skipTo (column : Int) : Nat → Cursor → Cursor
  | 0, c => c
  | fuel + 1, c =>
    if c.head = ' ' ∧ c.column < column then skipTo column fuel c.next else c

/-- The line ends from here on, with the blanks in front of a column. -/
def blockBreaks (column : Int) : Nat → Cursor → List (List Char) × Cursor
  | 0, c => ([], c)
  | fuel + 1, c =>
    let c := skipTo column c.rest.length c
    if isBreak c.head then
      let (breaks, after) := blockBreaks column fuel c.lineBreak.2
      (c.lineBreak.1 :: breaks, after)
    else ([], c)

/-- The empty lines in front of the first line, and the largest column that a
line reached by blanks. -/
def blockIndentation : Nat → Nat → Cursor → List (List Char) × Nat × Cursor
  | 0, widest, c => ([], widest, c)
  | fuel + 1, widest, c =>
    if c.head = ' ' then blockIndentation fuel (max widest c.next.column) c.next
    else if isBreak c.head then
      let (breaks, widest, after) := blockIndentation fuel widest c.lineBreak.2
      (c.lineBreak.1 :: breaks, widest, after)
    else ([], widest, c)

/-- What a line end between two lines of a block scalar stands for. It is
folded if neither line starts with a blank: then it is a blank, or nothing if
empty lines follow. -/
def blockJoin (folded textBefore textAfter : Bool) (first : List Char)
    (breaks : List (List Char)) : List Char :=
  if folded && first == ['\n'] && textBefore && textAfter then
    if breaks = [] then [' '] else []
  else first

/-- The lines of a block scalar at a column, with the line ends in front of
them. -/
def blockLines (folded : Bool) (chomping : Chomping) (column : Int) :
    Nat → List (List Char) → Cursor → List Char × Cursor
  | 0, _, c => ([], c)
  | fuel + 1, breaks, c =>
    let line := c.run (!isLineEnd ·)
    let c' := c.skip line.length
    let (first, c') := c'.lineBreak
    let (more, after) := blockBreaks column (c'.rest.length + 1) c'
    let front := breaks.flatten ++ line
    -- a line that is indented less ends the scalar, and its breaks are chomped
    if after.column = column ∧ after.head ≠ endMark then
      let (rest, last) := blockLines folded chomping column fuel more after
      (front ++ blockJoin folded (!isSpacing c.head) (!isSpacing after.head) first more ++ rest,
        last)
    else
      match chomping with
      | .strip => (front, after)
      | .clip => (front ++ first, after)
      | .keep => (front ++ first ++ more.flatten, after)

/-- **A block scalar** inside a collection at the given column. -/
def block (folded : Bool) (outer : Int) (c : Cursor) : Except Fault (String × Cursor) := do
  let ((chomping, step), c) ← blockHeader c.next
  let c ← emptyLine c
  let least := max 1 (outer + 1)
  let (breaks, column, c) := match step with
    | none =>
      let (breaks, widest, c) := blockIndentation (c.rest.length + 1) 0 c
      (breaks, max least widest, c)
    | some step =>
      let column := least + step - 1
      let (breaks, c) := blockBreaks column (c.rest.length + 1) c
      (breaks, column, c)
  if c.column = column ∧ c.head ≠ endMark then
    let (chars, after) := blockLines folded chomping column (c.rest.length + 1) breaks c
    return (String.ofList chars, after)
  else
    return (String.ofList (if chomping = .keep then breaks.flatten else []), c)

end Lexeme

end QuicTelemetry.Document
