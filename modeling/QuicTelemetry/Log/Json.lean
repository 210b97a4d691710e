import QuicTelemetry.Value.Limits

/-!
# JSON texts of values

A value as a JSON text in printable ASCII on one line: every other character is
escaped, by the two units of its pair if it is beyond the first 65536. Items
are separated by a comma and a blank, keys from values by a colon and a blank.

A value that JSON has no form for is written as a text, and which one that is
the caller says. Infinities and `nan` are written by name.

The limits of what is written are those of the texts of values: an integer has so
many digits at most, and a collection takes a level of the stack.
-/

namespace QuicTelemetry.Json

/-- An escape by number, of a unit of sixteen bits. -/
def escapeUnit (n : Nat) : List Char := '\\' :: 'u' :: Text.hexadecimal 4 n

/-- **A character inside quotes.** -/
def escapeChar (c : Char) : List Char :=
  if c = '"' then ['\\', '"']
  else if c = '\\' then ['\\', '\\']
  else if c = '\n' then ['\\', 'n']
  else if c = '\r' then ['\\', 'r']
  else if c = '\t' then ['\\', 't']
  else if c = '\x08' then ['\\', 'b']
  else if c = '\x0c' then ['\\', 'f']
  else if 0x20 ≤ c.toNat ∧ c.toNat < 0x7f then [c]
  else if c.toNat < 0x10000 then escapeUnit c.toNat
  else
    let beyond := c.toNat - 0x10000
    escapeUnit (0xd800 + beyond / 0x400) ++ escapeUnit (0xdc00 + beyond % 0x400)

/-- A text in quotes. -/
def quoted (s : String) : List Char := '"' :: s.toList.flatMap escapeChar ++ ['"']

/-- Items between two marks. -/
def enclosed (left right : Char) (items : List (List Char)) : List Char :=
  left :: (List.intercalate [',', ' '] items) ++ [right]

mutual

/-- **The JSON text of a value.** -/
def write (textOf : Value → String) : Value → List Char
  | .null => "null".toList
  | .bool true => "true".toList
  | .bool false => "false".toList
  | .int i => (toString i).toList
  | .real x => (x.render Decimal.Layout.json).toList
  | .text s => quoted s
  | .list items | .tuple items => enclosed '[' ']' (writeAll textOf items)
  | .dict entries => enclosed '\x7b' '\x7d' (writeEntries textOf entries)
  | other => quoted (textOf other)

/-- The JSON texts of some values. -/
def writeAll (textOf : Value → String) : List Value → List (List Char)
  | [] => []
  | item :: rest => write textOf item :: writeAll textOf rest

/-- The JSON texts of the entries of a mapping. -/
def writeEntries (textOf : Value → String) : List (String × Value) → List (List Char)
  | [] => []
  | (key, value) :: rest =>
    (quoted key ++ ':' :: ' ' :: write textOf value) :: writeEntries textOf rest

end

/-- The JSON text of a mapping. -/
def object (textOf : Value → String) (entries : List (String × Value)) : String :=
  String.ofList (write textOf (.dict entries))

mutual

/-- **What keeps the JSON text of a value from being written**, with integers of
some digits at most and room for some levels of collections. A value that JSON has
no form for is asked for the given one. -/
def obstacle? (digits : Nat) (form : Value.Form) : Value → Nat → Option Obstacle
  | .int i, _ => if Nat.pow 10 digits ≤ i.natAbs then some .tooLong else none
  | .null, _ | .bool _, _ | .real _, _ | .text _, _ => none
  | .list items, room | .tuple items, room =>
    Obstacle.inside room fun room => (obstacles digits form items room).findSome? id
  | .dict entries, room =>
    Obstacle.inside room fun room => (entryObstacles digits form entries room).findSome? id
  | other, room => other.obstacle? digits form room

/-- What keeps the JSON texts of some values from being written. -/
def obstacles (digits : Nat) (form : Value.Form) : List Value → Nat → List (Option Obstacle)
  | [], _ => []
  | item :: rest, room => obstacle? digits form item room :: obstacles digits form rest room

/-- What keeps the JSON texts of the values of a mapping from being written. -/
def entryObstacles (digits : Nat) (form : Value.Form) :
    List (String × Value) → Nat → List (Option Obstacle)
  | [], _ => []
  | (_, value) :: rest, room =>
    obstacle? digits form value room :: entryObstacles digits form rest room

end

end QuicTelemetry.Json
