import QuicTelemetry.Document.Node
import QuicTelemetry.Document.Scalar
import QuicTelemetry.Store.Table

/-!
# Documents

The notation in which flags are written down: mappings, sequences and scalars,
laid out by columns or between brackets. `Document.read` gives the entries of
the outermost mapping.

The whole document is read, with everything in it, so a fault anywhere is a
fault of the document. Collections are gone through in the order in which they
are met, each after the one that holds it.
-/

namespace QuicTelemetry.Document

/-! ## Merging -/

namespace Graph

/-- The entries of a mapping. -/
def entries (g : Graph) (id : Nat) : List (Nat × Nat) :=
  match (g.get id).content with
  | .mapping entries => entries
  | _ => []

/-- The kind of a node. -/
def kind (g : Graph) (id : Nat) : Kind := (g.get id).kind

/-- The mappings a value stands for that is to be merged, the last to be
merged first. -/
def sources (g : Graph) (id : Nat) : Except Fault (List Nat) :=
  let isMapping (id : Nat) : Bool := match (g.get id).content with
    | .mapping _ => true
    | _ => false
  match (g.get id).content with
  | .mapping _ => .ok [id]
  | .sequence items =>
    if items.all isMapping then .ok items.reverse else .error .unreadable
  | .scalar _ => .error .unreadable

/-- Makes keys for a main value plain texts. -/
def plainKeys (g : Graph) (entries : List (Nat × Nat)) : Graph :=
  entries.foldl (fun g (key, _) =>
    if g.kind key = .default then g.set key { g.get key with kind := .text } else g) g

/-- **The graph in which a mapping holds what it merges**: the entries of the
merged mappings come in front of its own, which therefore win. The first
argument bounds the depth. -/
def merge : Nat → Graph → Nat → Except Fault Graph
  | 0, g, _ => .ok g
  | fuel + 1, g, id => do
    let all := g.entries id
    let own := all.filter fun (key, _) => g.kind key ≠ .merge
    let merged := all.filter fun (key, _) => g.kind key = .merge
    let g := g.plainKeys own
    if merged = [] then return g
    -- the mapping loses its merge keys first, so one that merges itself comes to an end
    let g := g.set id { g.get id with content := .mapping own }
    let sources ← merged.mapM fun (_, value) => g.sources value
    let (g, inherited) ← sources.flatten.foldlM (fun (g, inherited) source => do
      let g ← merge fuel g source
      return (g, inherited ++ g.entries source)) (g, [])
    return g.set id { g.get id with content := .mapping (inherited ++ own) }

/-- The text of a scalar, or of the main value of a mapping. -/
def mainText : Nat → Graph → Nat → Except Fault String
  | 0, _, _ => .error .unreadable
  | fuel + 1, g, id =>
    match (g.get id).content with
    | .scalar text => .ok text
    | .sequence _ => .error .unreadable
    | .mapping entries =>
      match entries.find? fun (key, _) => g.kind key = .default with
      | some (_, value) => mainText fuel g value
      | none => .error .unreadable

end Graph

/-! ## Reading -/

/-- **What is known in the middle of reading a graph.** -/
structure Reading where
  /-- The graph, in which some mappings are merged. -/
  graph : Graph
  /-- The collections that were met and not gone through. -/
  waiting : List Nat := []
  /-- The collections that were met. -/
  met : List Nat := []

/-- A step of the reading. -/
abbrev Visit := StateT Reading (Except Fault)

namespace Visit

/-- **What a node is read as.** A collection is gone through later. -/
def datum (id : Nat) : Visit Datum := do
  let r ← get
  match r.graph.kind id with
  | .sequence | .mapping | .set | .pairs =>
    if !r.met.contains id then
      set { r with waiting := r.waiting ++ [id], met := id :: r.met }
    return .collection
  | .merge | .default | .unknown => throw .unreadable
  | .time =>
    let text ← r.graph.mainText (r.graph.size + 1) id
    match (r.graph.get id).content with
    | .scalar _ => Kind.time.read text
    | _ => throw .mistyped
  | kind => kind.read (← r.graph.mainText (r.graph.size + 1) id)

/-- The entries of a mapping. A collection is no key. -/
def entries (id : Nat) : Visit (List (Datum × Datum)) := do
  match ((← get).graph.get id).content with
  | .mapping _ =>
    let graph ← (← get).graph.merge ((← get).graph.size + 1) id
    modify fun r => { r with graph }
    (graph.entries id).mapM fun (key, value) => do
      let key ← datum key
      if key = .collection then throw .unreadable
      return (key, ← datum value)
  | _ => throw .unreadable

/-- Goes through a sequence of mappings of one entry each. -/
def pairs (id : Nat) : Visit Unit := do
  match ((← get).graph.get id).content with
  | .sequence items =>
    items.forM fun item => do
      match ((← get).graph.get item).content with
      | .mapping [(key, value)] =>
        let _ ← datum key
        let _ ← datum value
      | _ => throw .unreadable
  | _ => throw .unreadable

/-- Goes through a collection. -/
def members (id : Nat) : Visit (List (Datum × Datum)) := do
  match (← get).graph.kind id with
  | .mapping | .set => entries id
  | .pairs => pairs id; return []
  | _ =>
    match ((← get).graph.get id).content with
    | .sequence items => items.forM fun item => do let _ ← datum item
    | _ => throw .unreadable
    return []

/-- Goes through all collections that wait, and gives the entries of the
first. -/
def all : Nat → Visit (List (Datum × Datum))
  | 0 => return []
  | fuel + 1 => do
    match (← get).waiting with
    | [] => return []
    | id :: waiting =>
      -- what this collection holds is met now and comes after all that wait already
      modify fun r => { r with waiting }
      let found ← members id
      let _ ← all fuel
      return found

/-- **The entries of the outermost mapping.** -/
def root (id : Nat) : Visit (List (Datum × Datum)) := do
  let _ ← datum id
  let found ← all ((← get).graph.size + 1)
  return if (← get).graph.kind id = .mapping then found else []

end Visit

/-- The entries whose keys are texts, where a later one takes the place of an
earlier one of its key. -/
def named (entries : List (Datum × Datum)) : Table String Datum :=
  entries.foldl (fun table (key, value) =>
    match key with
    | .text name => table.put name value
    | _ => table) .empty

/-- **Reads a document**: the entries of its outermost mapping. A text without
a document, and a document that is no mapping, have no entries. -/
def read (s : String) : Except Fault (Table String Datum) := do
  let cs := unifyLineEnds s.toList
  if !cs.all isAllowed then throw .unreadable
  match ← Graph.ofTokens? (tokens cs) with
  | (_, none) => return .empty
  | (graph, some id) =>
    let (found, _) ← (Visit.root id).run { graph }
    return named found

end QuicTelemetry.Document
