import QuicTelemetry.Document
import QuicTelemetry.Flags
import QuicTelemetry.Settings

/-!
# Loading flags

Flags come from a document and from the environment. The variable of a flag
decides if it holds one of the known words; otherwise the entry of the document
decides, and a flag that neither names is off.

The document is read whatever the environment says, so a faulty one is always
reported.
-/

namespace QuicTelemetry.Flags

/-- The words that switch a flag on. -/
def onWords : List String := ["1", "true", "on", "yes"]

/-- The words that switch a flag off. -/
def offWords : List String := ["0", "false", "off", "no"]

/-- Whether a word switches a flag on, letter case aside. -/
def isOnWord (s : String) : Bool := onWords.contains (Text.lower s)

/-- What a word in the environment says, if it is a known one. -/
def ofWord? (s : String) : Option Bool :=
  let word := Text.lower s
  if onWords.contains word then some true
  else if offWords.contains word then some false
  else none

/-- What an entry of a document says: a truth value itself, a text if it is a
word; entries of other kinds say nothing. -/
def ofDatum? : Document.Datum → Option Bool
  | .bool b => some b
  | .text s => some (isOnWord s)
  | _ => none

/-- Whether a flag is on: by its variable, else by its entry. -/
def resolve (env : Environment) (entries : Table String Document.Datum) (flag : Flag) : Bool :=
  let said := (env.lookup flag.variableName).bind ofWord?
  (said.or ((entries.get? flag.name).bind ofDatum?)).getD false

/-- **Loads the flags** from the environment and from a document, if there is
one. -/
def load (env : Environment) (document : Option String) : Except Fault Flags := do
  let entries ← match document with
    | some s => Document.read s
    | none => pure .empty
  return ofBools (resolve env entries)

end QuicTelemetry.Flags
