import QuicTelemetry.Number.Numeral
import QuicTelemetry.Value.Kind

/-!
# Values

A value has two texts. Its *text* is what a series carries as a label; its
*literal* shows which kind it is, with texts in quotes, and is what messages
and the inside of collections show. Both are told here as if they could always be
written; what keeps them from it is in `QuicTelemetry.Value.Limits`.
-/

namespace QuicTelemetry.Value

/-! ## Texts -/

mutual

/-- **The literal of a value**, which shows its kind. -/
def literal : Value → String
  | .null => "None"
  | .bool true => "True"
  | .bool false => "False"
  | .int i => toString i
  | .real x => x.text
  | .text s => Text.quote s
  | .bytes b => Text.quoteBytes b
  | .list items => Text.enclose "[" "]" (literals items)
  | .tuple [item] => "(" ++ literal item ++ ",)"
  | .tuple items => Text.enclose "(" ")" (literals items)
  | .dict entries => Text.enclose "\x7b" "\x7d" (entryLiterals entries)
  | .label l => "<" ++ l.fullName ++ ": " ++ Text.quote l.text ++ ">"
  | .address a => s!"IPv{a.version}Address(" ++ Text.quote a.text ++ ")"
  | .network n => s!"IPv{n.first.version}Network(" ++ Text.quote n.text ++ ")"
  | .failure kind args =>
    Text.enclose (failureClass kind args ++ "(") ")"
      ((literals args).take (shownArguments kind args))
  | .future id => "<Future " ++ Text.quote id ++ ">"
  | .object _ _ shown => shown.toOption.getD ""

/-- The literals of some values. -/
def literals : List Value → List String
  | [] => []
  | item :: rest => literal item :: literals rest

/-- The literals of the entries of a mapping. -/
def entryLiterals : List (String × Value) → List String
  | [] => []
  | (key, value) :: rest => (Text.quote key ++ ": " ++ literal value) :: entryLiterals rest

end

mutual

/-- **The text of a value**, which is what a label shows of it. -/
def toText : Value → String
  | .text s => s
  | .label l => l.text
  | .address a => a.text
  | .network n => n.text
  | .failure kind args =>
    String.join ((failureParts kind args).map (FailurePart.write (texts args) (literals args)))
  | .object _ said _ => said.toOption.getD ""
  | other => other.literal

/-- The texts of some values. -/
def texts : List Value → List String
  | [] => []
  | item :: rest => toText item :: texts rest

end

/-- The name of the kind of a value. -/
def kindName : Value → String
  | .null => "NoneType"
  | .bool _ => "bool"
  | .int _ => "int"
  | .real _ => "float"
  | .text _ => "str"
  | .bytes _ => "bytes"
  | .list _ => "list"
  | .tuple _ => "tuple"
  | .dict _ => "dict"
  | .label l => l.dimension.title
  | .address a => s!"IPv{a.version}Address"
  | .network n => s!"IPv{n.first.version}Network"
  | .failure kind args => failureClass kind args
  | .future _ => "Future"
  | .object kind .. => kind

/-! ## Readings -/

/-- **Whether a value counts as true**: all do but the absent one, false, the
zeros and what is empty. -/
def truthy : Value → Bool
  | .null => false
  | .bool b => b
  | .int i => i != 0
  | .real x => !x.eq (Binary64.zero false)
  | .text s => s != ""
  | .bytes b => !b.isEmpty
  | .list items | .tuple items => !items.isEmpty
  | .dict entries => !entries.isEmpty
  | _ => true

mutual

/-- Whether a value can be looked up in a table: all but lists, mappings and
the tuples that hold one. -/
def isKey : Value → Bool
  | .list _ | .dict _ => false
  | .tuple items => areKeys items
  | _ => true

/-- Whether all of some values can be looked up. -/
def areKeys : List Value → Bool
  | [] => true
  | item :: rest => isKey item && areKeys rest

end

/-- The whole number a value is equal to, if there is one. -/
def whole? : Value → Option Int
  | .bool b => some (if b then 1 else 0)
  | .int i => some i
  | .real x =>
    match x.units? with
    | some units =>
      if units % Binary64.unitsPerOne = 0 then some (units / Binary64.unitsPerOne) else none
    | none => none
  | _ => none

/-- **The peer address a value stands for**: an address itself or a text that
reads as one. -/
def peerAddress? : Value → Option Address
  | .text s => Address.read? s
  | .address a => some a
  | _ => none

/-- **The label a peer is reduced to**, if the value is a peer address. -/
def peerLabel? (v : Value) : Option String := v.peerAddress?.map fun a => (Network.ofPeer a).text

end QuicTelemetry.Value
