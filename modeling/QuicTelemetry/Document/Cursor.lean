/-!
# Reading a document

A document is read from the front, one character at a time. A cursor holds
what is left and where it stands, because the notation is laid out by lines
and columns: the column of an entry tells to which collection it belongs.

Behind the last character there is a mark, the null character, which no
document contains. So every test on the next character is also a test for the
end.
-/

namespace QuicTelemetry.Document

/-! ## Characters -/

/-- The mark behind the last character. -/
def endMark : Char := '\x00'

/-- Whether a character ends a line. -/
def isBreak (c : Char) : Bool :=
  c == '\n' || c == '\x85' || c == '\u2028' || c == '\u2029'

/-- Whether a line ends here. -/
def isLineEnd (c : Char) : Bool := c == endMark || isBreak c

/-- Whether a line ends here, or a blank stands here. -/
def isStop (c : Char) : Bool := c == ' ' || isLineEnd c

/-- Whether a line ends here, or a blank or a tab stands here. -/
def isGap (c : Char) : Bool := c == '\t' || isStop c

/-- Whether a character is a blank or a tab. -/
def isSpacing (c : Char) : Bool := c == ' ' || c == '\t'

/-- Whether a character can be part of a name. -/
def isNameChar (c : Char) : Bool := c.isAlphanum || c == '-' || c == '_'

/-- Whether a character may stand in a document at all. -/
def isAllowed (c : Char) : Bool :=
  let n := c.toNat
  n == 0x9 || n == 0xA || n == 0xD || (0x20 ≤ n && n ≤ 0x7E) || n == 0x85 ||
    (0xA0 ≤ n && n ≤ 0xFFFD) || 0x10000 ≤ n

/-- The text in which every line end is a line feed, where it was a carriage
return or both. -/
def unifyLineEnds : List Char → List Char
  | [] => []
  | '\r' :: '\n' :: rest => '\n' :: unifyLineEnds rest
  | '\r' :: rest => '\n' :: unifyLineEnds rest
  | c :: rest => c :: unifyLineEnds rest

/-! ## The cursor -/

/-- **A place in a document.** -/
structure Cursor where
  /-- What is left. -/
  rest : List Char
  /-- How many characters lie in front. -/
  index : Nat := 0
  /-- How many lines lie in front. -/
  line : Nat := 0
  /-- How many characters of the line lie in front. -/
  column : Nat := 0
  deriving Repr

namespace Cursor

/-- The character `n` places ahead. -/
def peek (c : Cursor) (n : Nat) : Char := c.rest.getD n endMark

/-- The next character. -/
def head (c : Cursor) : Char := c.peek 0

/-- **The place behind the next character.** The mark of byte order takes no
column. -/
def next (c : Cursor) : Cursor :=
  match c.rest with
  | [] => c
  | ch :: rest =>
    if isBreak ch then ⟨rest, c.index + 1, c.line + 1, 0⟩
    else if ch = '\uFEFF' then ⟨rest, c.index + 1, c.line, c.column⟩
    else ⟨rest, c.index + 1, c.line, c.column + 1⟩

/-- The place some characters ahead. -/
def skip (c : Cursor) : Nat → Cursor
  | 0 => c
  | n + 1 => c.next.skip n

/-- The characters ahead that pass a test. -/
def run (c : Cursor) (test : Char → Bool) : List Char := c.rest.takeWhile test

/-- The place behind the characters that pass a test. -/
def skipWhile (c : Cursor) (test : Char → Bool) : Cursor := c.skip (c.run test).length

/-- Whether the given text comes next. -/
def sees (c : Cursor) (s : String) : Bool := s.toList.isPrefixOf c.rest

/-- Whether a mark between documents stands here. -/
def seesMarker (c : Cursor) : Bool := (c.sees "---" || c.sees "...") && isGap (c.peek 3)

/-- The text a line end stands for, which is a line feed except for the two
separators, and the place behind it; nothing if no line ends here. -/
def lineBreak (c : Cursor) : List Char × Cursor :=
  if isBreak c.head then
    (if c.head = '\u2028' ∨ c.head = '\u2029' then [c.head] else ['\n'], c.next)
  else ([], c)

/-- The place behind the blanks and the comment that stand here. -/
def skipComment (c : Cursor) : Cursor :=
  let c := c.skipWhile (· == ' ')
  if c.head = '#' then c.skipWhile (!isLineEnd ·) else c

end Cursor

end QuicTelemetry.Document
