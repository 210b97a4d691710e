import QuicTelemetry.Text.Printable

/-!
# Quoted texts

A text between quotes, on one line and with only printable characters: what
messages and nested label texts show of a text. The single quote is preferred;
a text that has single quotes and no double one stands between double quotes,
so the quote is escaped only where both occur.
-/

namespace QuicTelemetry.Text

/-- The quote a text stands between. -/
def quoteFor (cs : List Char) : Char :=
  if cs.contains '\'' && !cs.contains '"' then '"' else '\''

/-- `width` hexadecimal digits of a number. -/
def hexadecimal (width n : Nat) : List Char :=
  let digits := Nat.toDigits 16 n
  List.replicate (width - digits.length) '0' ++ digits

/-- A character between the given quotes. -/
def quoteChar (quote c : Char) : List Char :=
  if c = quote ∨ c = '\\' then ['\\', c]
  else if c = '\n' then ['\\', 'n']
  else if c = '\r' then ['\\', 'r']
  else if c = '\t' then ['\\', 't']
  else if isPrintable c then [c]
  else if c.toNat < 0x100 then '\\' :: 'x' :: hexadecimal 2 c.toNat
  else if c.toNat < 0x10000 then '\\' :: 'u' :: hexadecimal 4 c.toNat
  else '\\' :: 'U' :: hexadecimal 8 c.toNat

/-- **The quoted form of a text.** -/
def quote (s : String) : String :=
  let mark := quoteFor s.toList
  String.ofList (mark :: s.toList.flatMap (quoteChar mark) ++ [mark])

/-- The quoted form of raw bytes: a `b` in front, and all but printable ASCII
escaped. -/
def quoteBytes (bytes : List UInt8) : String :=
  let cs := bytes.map fun b => Char.ofNat b.toNat
  let mark := quoteFor cs
  let one (c : Char) : List Char :=
    if c.toNat < 127 then quoteChar mark c else '\\' :: 'x' :: hexadecimal 2 c.toNat
  String.ofList ('b' :: mark :: cs.flatMap one ++ [mark])

/-- Items between two marks, with a comma and a blank between them. -/
def enclose (left right : String) (items : List String) : String :=
  left ++ ", ".intercalate items ++ right

/-- The quoted forms of some texts between brackets. -/
def quoteList (texts : List String) : String := enclose "[" "]" (texts.map quote)

end QuicTelemetry.Text
