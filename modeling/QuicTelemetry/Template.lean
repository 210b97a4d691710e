import QuicTelemetry.Amount
import QuicTelemetry.Number.Rounded

/-!
# Templates

A text with places for values. A place starts with a percent sign and ends with
the letter that tells how the value is written; between them stand the name of
the value, if it is taken by name, flags, a width and a precision. Two percent
signs with nothing between them stand for one.

Values are taken in order, and there have to be as many as there are places,
unless they are taken from a mapping.
-/

namespace QuicTelemetry

/-- **A place of a template.** -/
structure TemplatePlace where
  /-- Whether blanks come behind the value and not in front. -/
  left : Bool := false
  /-- Whether a plus sign stands in front of what is not negative. -/
  plus : Bool := false
  /-- Whether a blank stands there. -/
  blank : Bool := false
  /-- Whether the other form of the letter is meant. -/
  other : Bool := false
  /-- Whether zeros fill up a number. -/
  zero : Bool := false
  /-- The least width. -/
  width : Nat := 0
  /-- The precision. -/
  precision : Option Nat := none
  deriving Repr

/-- **The values for a template** that are left. -/
structure TemplateValues where
  /-- The values to be taken in order. -/
  rest : List Value
  /-- The mapping from which values are taken by name. -/
  mapping : Option (List (String × Value)) := none

namespace Template

/-- The next value in order. -/
def takeValue (values : TemplateValues) : Except Fault (Value × TemplateValues) :=
  match values.rest with
  | v :: rest => .ok (v, { values with rest })
  | [] => .error .mistyped

/-! ## Writing a value -/

/-- A text filled up with blanks. -/
def fill (place : TemplatePlace) (cs : List Char) : List Char :=
  let blanks := List.replicate (place.width - cs.length) ' '
  if place.left then cs ++ blanks else blanks ++ cs

/-- A number filled up: its sign, the mark of its base, and its digits. Zeros
come between the mark and the digits, blanks around all. -/
def fillNumber (place : TemplatePlace) (negative : Bool) (mark digits : List Char) : List Char :=
  let sign := if negative then ['-'] else if place.plus then ['+'] else if place.blank then [' ']
    else []
  let front := sign ++ mark
  if place.zero && !place.left then
    front ++ List.replicate (place.width - (front.length + digits.length)) '0' ++ digits
  else fill place (front ++ digits)

/-- A text with all but ASCII escaped. -/
def asciiOnly (cs : List Char) : List Char :=
  cs.flatMap fun c => if c.toNat < 128 then [c] else
    if c.toNat < 0x100 then '\\' :: 'x' :: Text.hexadecimal 2 c.toNat
    else if c.toNat < 0x10000 then '\\' :: 'u' :: Text.hexadecimal 4 c.toNat
    else '\\' :: 'U' :: Text.hexadecimal 8 c.toNat

/-- The whole number a value is cut down to. -/
def cutDown : Value → Except Fault Int
  | .bool b => .ok (if b then 1 else 0)
  | .int i => .ok i
  | .real x =>
    match x.truncate? with
    | some i => .ok i
    | none => .error (if x.isFinite || x.eq x then .overflow else .malformed)
  | .address a => .ok a.toNat
  | _ => .error .mistyped

/-- The whole number a value is. -/
def wholeOf : Value → Except Fault Int
  | .bool b => .ok (if b then 1 else 0)
  | .int i => .ok i
  | _ => .error .mistyped

/-- A whole number in a base. -/
def writeWhole (place : TemplatePlace) (base : Nat) (mark : List Char) (i : Int) : List Char :=
  let digits := Nat.toDigits base i.natAbs
  let digits := List.replicate (place.precision.getD 0 - digits.length) '0' ++ digits
  fillNumber place (decide (i < 0)) (if place.other then mark else []) digits

/-- The number a value is. -/
def realOf (v : Value) : Except Fault Binary64 := do (← Amount.ofValue v).toReal

/-- A binary64 number, its magnitude written as told. -/
def writeReal (place : TemplatePlace) (write : Nat → List Char) : Binary64 → List Char
  | .finite negative units _ => fillNumber place negative [] (write units)
  | .infinite negative => fillNumber place negative [] "inf".toList
  | .nan => fillNumber place false [] "nan".toList

/-- A single character. -/
def character : Value → Except Fault (List Char)
  | .text s => if s.length = 1 then .ok s.toList else .error .mistyped
  | v => do
    let i ← wholeOf v
    if 0 ≤ i ∧ i < 0x110000 then return [Char.ofNat i.toNat] else .error .overflow

/-- **Writes a value** as the letter of its place tells. -/
def writeValue (place : TemplatePlace) (letter : Char) (v : Value) : Except Fault (List Char) :=
  let cut (s : String) : List Char :=
    match place.precision with
    | some n => s.toList.take n
    | none => s.toList
  let places := place.precision.getD 6
  let upper (cs : List Char) : List Char := cs.map Char.toUpper
  match letter with
  | 's' => .ok (fill place (cut v.toText))
  | 'r' => .ok (fill place (cut v.literal))
  | 'a' => .ok (fill place (cut (String.ofList (asciiOnly v.literal.toList))))
  | 'c' => do return fill place (← character v)
  | 'd' | 'i' | 'u' => do return writeWhole place 10 [] (← cutDown v)
  | 'o' => do return writeWhole place 8 ['0', 'o'] (← wholeOf v)
  | 'x' => do return writeWhole place 16 ['0', 'x'] (← wholeOf v)
  | 'X' => do return upper (writeWhole place 16 ['0', 'x'] (← wholeOf v))
  | 'f' => do return writeReal place (Decimal.fixed place.other places) (← realOf v)
  | 'F' => do return upper (writeReal place (Decimal.fixed place.other places) (← realOf v))
  | 'e' => do return writeReal place (Decimal.scientific place.other places) (← realOf v)
  | 'E' => do
    return upper (writeReal place (Decimal.scientific place.other places) (← realOf v))
  | 'g' => do return writeReal place (Decimal.general place.other places) (← realOf v)
  | 'G' => do return upper (writeReal place (Decimal.general place.other places) (← realOf v))
  | _ => .error .malformed

/-! ## Reading a place -/

/-- The name between round brackets, which may stand inside each other, and
what follows; the first argument is the number of those that are open. -/
def name? : Nat → List Char → Option (List Char × List Char)
  | _, [] => none
  | depth, c :: rest =>
    if c = ')' ∧ depth = 0 then some ([], rest)
    else
      let depth := if c = '(' then depth + 1 else if c = ')' then depth - 1 else depth
      (name? depth rest).map fun (name, rest) => (c :: name, rest)

/-- The value with a name. -/
def choose (values : TemplateValues) (cs : List Char) :
    Except Fault (List Char × TemplateValues) :=
  match cs with
  | '(' :: rest =>
    match values.mapping with
    | none => .error .mistyped
    | some entries =>
      match name? 0 rest with
      | none => .error .malformed
      | some (name, rest) =>
        match entries.lookup (String.ofList name) with
        | some v => .ok (rest, { values with rest := [v] })
        | none => .error .missingKey
  | cs => .ok (cs, values)

/-- The flags of a place. -/
def flags (place : TemplatePlace) : List Char → TemplatePlace × List Char
  | '-' :: rest => flags { place with left := true } rest
  | '+' :: rest => flags { place with plus := true } rest
  | ' ' :: rest => flags { place with blank := true } rest
  | '#' :: rest => flags { place with other := true } rest
  | '0' :: rest => flags { place with zero := true } rest
  | rest => (place, rest)

/-- The largest width. -/
def widthLimit : Nat := 0x7fffffffffffffff

/-- The largest precision. -/
def precisionLimit : Nat := 0x7fffffff

/-- A number in digits, or a star for the next value, neither beyond the limit. -/
def size (limit : Nat) (values : TemplateValues) (cs : List Char) :
    Except Fault (Option Int × List Char × TemplateValues) :=
  match cs with
  | '*' :: rest => do
    let (v, values) ← takeValue values
    let i ← wholeOf v
    if -(limit : Int) - 1 ≤ i ∧ i ≤ limit then return (some i, rest, values)
    else throw .overflow
  | cs =>
    let digits := cs.takeWhile Char.isDigit
    if digits = [] then .ok (none, cs, values)
    else if Numeral.natOf digits ≤ limit then
      .ok (some (Numeral.natOf digits), cs.drop digits.length, values)
    else .error .malformed

/-- The precision of a place; a point alone stands for none at all. -/
def precision (values : TemplateValues) (cs : List Char) :
    Except Fault (Option Nat × List Char × TemplateValues) :=
  match cs with
  | '.' :: rest => do
    let (n, rest, values) ← size precisionLimit values rest
    return (some (n.getD 0).toNat, rest, values)
  | cs => .ok (none, cs, values)

/-- A letter for the size of numbers, which has no effect. -/
def dropSize : List Char → List Char
  | c :: rest => if c = 'h' ∨ c = 'l' ∨ c = 'L' then rest else c :: rest
  | [] => []

/-- Writes the place behind a percent sign. -/
def writePlace (values : TemplateValues) (cs : List Char) :
    Except Fault (List Char × List Char × TemplateValues) := do
  let (cs, values) ← choose values cs
  let (place, cs) := flags {} cs
  let (width, cs, values) ← size widthLimit values cs
  let place := { place with
    left := place.left || decide (width.getD 0 < 0), width := (width.getD 0).natAbs }
  let (precision, cs, values) ← precision values cs
  -- a template that ends too early fails before it asks for a value
  match dropSize cs with
  | [] => throw .malformed
  | letter :: rest =>
    let (v, values) ← takeValue values
    return (← writeValue { place with precision } letter v, rest, values)

/-- Writes a template from here on; the first argument bounds the number of
rounds. -/
def write : Nat → TemplateValues → List Char → Except Fault (List Char)
  | 0, _, _ => .ok []
  | _, values, [] =>
    if values.rest = [] || values.mapping.isSome then .ok [] else .error .mistyped
  | fuel + 1, values, '%' :: '%' :: rest => do return '%' :: (← write fuel values rest)
  | fuel + 1, values, '%' :: rest => do
    let (written, rest, values) ← writePlace values rest
    return written ++ (← write fuel values rest)
  | fuel + 1, values, c :: rest => do return c :: (← write fuel values rest)

/-- **Fills a template** with values. A mapping alone that is not empty gives
values by name. Without values the text is no template. -/
def render (template : String) (args : List Value) : Except Fault String :=
  let values : TemplateValues := match args with
    | [.dict (entry :: entries)] =>
      ⟨[.dict (entry :: entries)], some (entry :: entries)⟩
    | args => ⟨args, none⟩
  if args = [] then .ok template
  else (write (template.length + 1) values template.toList).map String.ofList

end Template

end QuicTelemetry
