import QuicTelemetry.Address.Network
import QuicTelemetry.Label
import QuicTelemetry.Number.Decimal
import QuicTelemetry.Text.Quoted

/-!
# Kinds of values

What a caller can pass where a label, an amount, a setting or a log field is
asked for. Most operations take a few kinds only and refuse the others, so the
kinds are one type and each operation says what it makes of them.

Exceptions are values with a class and arguments. Most of them are shown by
their arguments; those of some classes have a form of their own, which is told
here part by part (`Value.failureParts`), since what an argument contributes may
be its text or its literal.
-/

namespace QuicTelemetry

/-- **A value.** -/
inductive Value where
  /-- The absence of a value. -/
  | null
  /-- A truth value, which counts as one or zero where a number is asked
  for. -/
  | bool (b : Bool)
  /-- A whole number of any size. -/
  | int (i : Int)
  /-- A binary64 number. -/
  | real (x : Binary64)
  /-- A text. -/
  | text (s : String)
  /-- Raw bytes. -/
  | bytes (b : List UInt8)
  /-- A list. -/
  | list (items : List Value)
  /-- A tuple. -/
  | tuple (items : List Value)
  /-- A mapping of texts to values, in the order of their insertion. -/
  | dict (entries : List (String × Value))
  /-- A label. -/
  | label (l : Label)
  /-- An address. -/
  | address (a : Address)
  /-- A network. -/
  | network (n : Network)
  /-- An exception: its class and its arguments. -/
  | failure (kind : String) (args : List Value)
  /-- A pending result that a task waits for. -/
  | future (id : String)
  /-- An object of any other class. It makes its text and its literal itself,
  and where it raises an exception instead, that is the class of the
  exception. -/
  | object (kind : String) (text literal : Except String String)
  deriving Repr

instance : Inhabited Value := ⟨.null⟩

namespace Value

/-! ## Numbers -/

/-- The integer a value is: a truth value is one, too, but no binary64 number is,
even if it is whole. -/
def integer? : Value → Option Int
  | .bool b => some (if b then 1 else 0)
  | .int i => some i
  | _ => none

/-! ## Items -/

/-- The items of a value that has some: the characters of a text, the numbers
of raw bytes, the keys of a mapping. -/
def items? : Value → Option (List Value)
  | .text s => some (s.toList.map fun c => .text (String.singleton c))
  | .bytes b => some (b.map fun n => .int n.toNat)
  | .list items | .tuple items => some items
  | .dict entries => some (entries.map fun entry => .text entry.1)
  | .network n => some [.address n.first]
  | _ => none

/-! ## Classes of exceptions -/

/-- The class of an operating-system error with the given number. -/
def systemErrorClass (number : Int) : String :=
  if number ∈ [1, 13] then "PermissionError"
  else if number = 2 then "FileNotFoundError"
  else if number = 3 then "ProcessLookupError"
  else if number = 4 then "InterruptedError"
  else if number = 10 then "ChildProcessError"
  else if number ∈ [11, 114, 115] then "BlockingIOError"
  else if number = 17 then "FileExistsError"
  else if number = 20 then "NotADirectoryError"
  else if number = 21 then "IsADirectoryError"
  else if number ∈ [32, 108] then "BrokenPipeError"
  else if number = 103 then "ConnectionAbortedError"
  else if number = 104 then "ConnectionResetError"
  else if number = 110 then "TimeoutError"
  else if number = 111 then "ConnectionRefusedError"
  else "OSError"

/-- **The class of an exception.** An operating-system error of some arguments
is of the class its number names. -/
def failureClass (kind : String) (args : List Value) : String :=
  match kind, args with
  | "OSError", number :: _ :: _ =>
    if args.length ≤ 5 then ((number.integer?).map systemErrorClass).getD kind else kind
  | _, _ => kind

/-- Whether exceptions of a class carry the number and the text of an
operating-system error. -/
def isSystemError (kind : String) : Bool :=
  ["OSError", "PermissionError", "FileNotFoundError", "ProcessLookupError", "InterruptedError",
    "ChildProcessError", "BlockingIOError", "FileExistsError", "NotADirectoryError",
    "IsADirectoryError", "BrokenPipeError", "ConnectionError", "ConnectionAbortedError",
    "ConnectionResetError", "TimeoutError", "ConnectionRefusedError"].contains kind

/-! ## The texts of exceptions -/

/-- **A part of the text of an exception.** -/
inductive FailurePart where
  /-- What stands there whatever the arguments show. -/
  | mark (s : String)
  /-- The text of an argument. -/
  | text (i : Nat)
  /-- The literal of an argument. -/
  | literal (i : Nat)
  /-- The literal of the tuple of the arguments. -/
  | tuple
  /-- A character in front of the first one of a text. -/
  | outside

/-- The parts of an exception without a form of its own: its one argument, or the
tuple of them. -/
def argumentParts : List Value → List FailurePart
  | [] => []
  | [_] => [.text 0]
  | _ => [.tuple]

/-- Whether an operating-system error of a class names a file by a value. Where
an operation would block, an integer tells how much was written. -/
def isFile (kind : String) : Value → Bool
  | .null => false
  | .int _ | .bool _ => kind != "BlockingIOError"
  | _ => true

/-- The parts of an operating-system error: its number, its message and the files
it names. -/
def systemErrorParts (kind : String) (args : List Value) : List FailurePart :=
  let numbered : List FailurePart := [.mark "[Errno ", .text 0, .mark "] ", .text 1]
  let named : List FailurePart := [.mark ": ", .literal 2]
  match args with
  | [_, _] => numbered
  | [_, _, file] | [_, _, file, _] => if isFile kind file then numbered ++ named else numbered
  | [_, _, file, _, second] =>
    if isFile kind file then
      numbered ++ named ++ (if isFile "" second then [.mark " -> ", .literal 4] else [])
    else numbered
  | _ => argumentParts args

/-- The number of arguments that the literal of an exception shows. An
operating-system error that names a file keeps its number and message only. -/
def shownArguments (kind : String) (args : List Value) : Nat :=
  match args with
  | [_, _, file] | [_, _, file, _] | [_, _, file, _, _] =>
    if isSystemError kind && isFile (failureClass kind args) file then 2 else args.length
  | _ => args.length

/-- The name of a file without the directories in front of it. -/
def baseName (path : String) : String :=
  String.ofList (path.toList.reverse.takeWhile (· != '/')).reverse

/-- A number of 64 bits with a sign; beyond their range it is minus one. -/
def longText (i : Int) : String :=
  toString (if -0x8000000000000000 ≤ i ∧ i < 0x8000000000000000 then i else -1)

/-- The parts of a syntax error: its message, then the file and the line if it
has them. -/
def syntaxErrorParts : List Value → List FailurePart
  | [] => [.mark "None"]
  | [_, place] =>
    match place.items?.getD [] with
    | .text file :: .int line :: _ =>
      [.text 0, .mark (" (" ++ baseName file ++ ", line " ++ longText line ++ ")")]
    | .text file :: _ => [.text 0, .mark (" (" ++ baseName file ++ ")")]
    | _ :: .int line :: _ => [.text 0, .mark (" (line " ++ longText line ++ ")")]
    | _ => [.text 0]
  | _ => [.text 0]

/-- The parts that tell where a codec fails: at one unit of a text, which is
shown, or between two positions. -/
def codecParts (what one many : String) (shown : Int → FailurePart) (length : Nat)
    (start stop : Int) (reason : String) : List FailurePart :=
  if start < length ∧ stop = start + 1 then
    [.mark (what ++ " " ++ one ++ " "), shown start,
      .mark (" in position " ++ toString start ++ ": " ++ reason)]
  else
    [.mark (what ++ " " ++ many ++ " in position " ++ toString start ++ "-" ++ toString (stop - 1)
      ++ ": " ++ reason)]

/-- A character of a text by its number. -/
def numberedCharacter (s : String) (i : Int) : FailurePart :=
  match if i < 0 then none else s.toList[i.toNat]? with
  | none => .outside
  | some c =>
    let shown : List Char :=
      if c.toNat < 0x100 then 'x' :: Text.hexadecimal 2 c.toNat
      else if c.toNat < 0x10000 then 'u' :: Text.hexadecimal 4 c.toNat
      else 'U' :: Text.hexadecimal 8 c.toNat
    .mark (String.ofList ('\'' :: '\\' :: shown ++ ['\'']))

/-- A byte by its number. In front of the first one the bits are all set. -/
def numberedByte (b : List UInt8) (i : Int) : FailurePart :=
  let byte := if i < 0 then 0xff else (b.getD i.toNat 0).toNat
  .mark ("0x" ++ String.ofList (Text.hexadecimal 2 byte))

/-- The parts of an exception of a codec, if it is one. -/
def codecErrorParts? (kind : String) (args : List Value) : Option (List FailurePart) :=
  match kind, args with
  | "UnicodeEncodeError", [.text codec, .text s, start, stop, .text reason] => do
    return codecParts ("'" ++ codec ++ "' codec can't encode") "character" "characters"
      (numberedCharacter s) s.length (← start.integer?) (← stop.integer?) reason
  | "UnicodeDecodeError", [.text codec, .bytes b, start, stop, .text reason] => do
    return codecParts ("'" ++ codec ++ "' codec can't decode") "byte" "bytes" (numberedByte b)
      b.length (← start.integer?) (← stop.integer?) reason
  | "UnicodeTranslateError", [.text s, start, stop, .text reason] => do
    return codecParts "can't translate" "character" "characters" (numberedCharacter s) s.length
      (← start.integer?) (← stop.integer?) reason
  | _, _ => none

/-- **The parts of the text of an exception.** -/
def failureParts (kind : String) (args : List Value) : List FailurePart :=
  if isSystemError kind then systemErrorParts (failureClass kind args) args
  else if ["SyntaxError", "IndentationError", "TabError"].contains kind then syntaxErrorParts args
  else if ["ExceptionGroup", "BaseExceptionGroup"].contains kind then
    let count := ((args[1]?.bind items?).map List.length).getD 0
    [.text 0, .mark (" (" ++ toString count ++ " sub-exception" ++ (if count = 1 then "" else "s")
      ++ ")")]
  else
    match kind, args with
    | "KeyError", [_] => [.literal 0]
    | _, _ => (codecErrorParts? kind args).getD (argumentParts args)

namespace FailurePart

/-- A part as it reads, from the texts and the literals of the arguments. -/
def write (texts literals : List String) : FailurePart → String
  | .mark s => s
  | .text i => texts.getD i ""
  | .literal i => literals.getD i ""
  | .tuple => Text.enclose "(" ")" literals
  | .outside => ""

end FailurePart

end Value

end QuicTelemetry
