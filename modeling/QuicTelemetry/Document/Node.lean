import QuicTelemetry.Document.Kind
import QuicTelemetry.Document.Token

/-!
# Nodes

A document is a graph of nodes: scalars, sequences and mappings. Nodes are
numbered in the order in which they start, and a collection names its members
by number, so an alias is one more mention of a number and a collection may
even hold itself.

`Graph.ofTokens?` builds the graph. It follows the grammar of the notation:
which token may come next is told by the collection that is open, and where a
node is missing, an empty plain scalar stands.
-/

namespace QuicTelemetry.Document

/-- **What a node holds.** -/
inductive Content where
  /-- A scalar with its text. -/
  | scalar (text : String)
  /-- A sequence of nodes. -/
  | sequence (items : List Nat)
  /-- A mapping of nodes to nodes, as it is written. -/
  | mapping (entries : List (Nat × Nat))
  deriving DecidableEq, Repr

/-- **A node.** -/
structure Node where
  /-- What it stands for. -/
  kind : Kind
  /-- What it holds. -/
  content : Content
  deriving DecidableEq, Repr

/-- **The nodes of a document**, by number. -/
structure Graph where
  /-- The nodes. -/
  nodes : List Node := []
  deriving Repr

namespace Graph

/-- The node with a number. -/
def get (g : Graph) (id : Nat) : Node := g.nodes.getD id ⟨.null, .scalar ""⟩

/-- The graph with a node changed. -/
def set (g : Graph) (id : Nat) (n : Node) : Graph := ⟨g.nodes.set id n⟩

/-- The graph with one more node. -/
def push (g : Graph) (n : Node) : Graph := ⟨g.nodes ++ [n]⟩

/-- How many nodes there are. -/
def size (g : Graph) : Nat := g.nodes.length

end Graph

/-! ## Building the graph -/

/-- **What is known in the middle of building a graph.** -/
structure Building where
  /-- The tokens that are left. -/
  tokens : List Token
  /-- The nodes so far. -/
  graph : Graph := {}
  /-- The anchored nodes. -/
  anchors : List (String × Nat) := []
  /-- What the handles of tags stand for. -/
  handles : List (String × String) := []

/-- A step of the building. -/
abbrev Build := StateT Building (Except Fault)

namespace Build

/-- The next token. -/
def peek : Build Token := do
  match (← get).tokens with
  | [] => throw .unreadable
  | .broken fault :: _ => throw fault
  | t :: _ => return t

/-- Passes over the next token. -/
def drop : Build Unit := modify fun b => { b with tokens := b.tokens.drop 1 }

/-- A new node. -/
def push (n : Node) : Build Nat := do
  let b ← get
  set { b with graph := b.graph.push n }
  return b.graph.size

/-- The empty scalar that stands where a node is missing. -/
def missing : Build Nat := push ⟨.null, .scalar ""⟩

/-- Gives a collection its content. -/
def fill (id : Nat) (content : Content) : Build Unit :=
  modify fun b => { b with graph := b.graph.set id { b.graph.get id with content } }

/-- Gives a node a name. No two nodes have the same. -/
def name (anchor : Option String) (id : Nat) : Build Unit := do
  match anchor with
  | none => return
  | some anchor => modify fun b => { b with anchors := (anchor, id) :: b.anchors }

/-- Refuses a name that a node has already. -/
def checkName (anchor : Option String) : Build Unit := do
  match anchor with
  | none => return
  | some anchor => if ((← get).anchors.lookup anchor).isSome then throw .unreadable

/-! ### Anchors and tags -/

/-- The anchor that comes next, if one does. -/
def anchor? : Build (Option String) := do
  match ← peek with
  | .anchor name => drop; return some name
  | _ => return none

/-- The tag that comes next, if one does, without its handle resolved. -/
def tag? : Build (Option (Option String × String)) := do
  match ← peek with
  | .tag handle text => drop; return some (handle, text)
  | _ => return none

/-- The full text of a tag. -/
def fullTag : Option (Option String × String) → Build (Option String)
  | none => return none
  | some (none, text) => return some text
  | some (some handle, text) => do
    match (← get).handles.lookup handle with
    | some front => return some (front ++ text)
    | none => throw .unreadable

/-- The anchor and the tag of a node, in either order. -/
def properties : Build (Option String × Option String) := do
  match ← anchor? with
  | some anchor => return (some anchor, ← fullTag (← tag?))
  | none =>
    let tag ← tag?
    let anchor ← if tag.isSome then anchor? else pure none
    return (anchor, ← fullTag tag)

/-- The kind of a scalar. A lone exclamation mark has the kind told by the
text. -/
def scalarKind (tag : Option String) (plain : Bool) (text : String) : Kind :=
  match tag with
  | none => if plain then .ofPlain text else .text
  | some "!" => .ofPlain text
  | some tag => .ofTag tag

/-- The kind of a collection, given the one it has without a tag. -/
def collectionKind (tag : Option String) (otherwise : Kind) : Kind :=
  match tag with
  | none | some "!" => otherwise
  | some tag => .ofTag tag

/-- A node of a scalar. -/
def scalar (anchor : Option String) (kind : Kind) (text : String) : Build Nat := do
  checkName anchor
  let id ← push ⟨kind, .scalar text⟩
  name anchor id
  return id

/-- A node of a collection, whose content comes later. -/
def collection (anchor tag : Option String) (otherwise : Kind) : Build Nat := do
  checkName anchor
  let id ← push ⟨collectionKind tag otherwise, .sequence []⟩
  name anchor id
  return id

/-! ### Collections -/

mutual

/-- **A node.** The flags tell whether block collections are allowed, and
whether a sequence may start without a deeper column. The first argument
bounds the depth. -/
def node (fuel : Nat) (block undeepened : Bool) : Build Nat := do
  match fuel with
  | 0 => throw .unreadable
  | fuel + 1 =>
    if let .alias anchor ← peek then
      drop
      match (← get).anchors.lookup anchor with
      | some id => return id
      | none => throw .unreadable
    else
      let (anchor, tag) ← properties
      match ← peek with
      | .blockEntry =>
        if undeepened then
          let id ← collection anchor tag .sequence
          fill id (.sequence (← undeepenedItems fuel))
          return id
        else lone anchor tag
      | .scalar text plain =>
        drop
        scalar anchor (scalarKind tag plain text) text
      | .flowSequence =>
        drop
        let id ← collection anchor tag .sequence
        fill id (.sequence (← flowItems fuel true))
        return id
      | .flowMapping =>
        drop
        let id ← collection anchor tag .mapping
        fill id (.mapping (← flowEntries fuel true))
        return id
      | .blockSequence =>
        if block then
          drop
          let id ← collection anchor tag .sequence
          fill id (.sequence (← blockItems fuel))
          return id
        else lone anchor tag
      | .blockMapping =>
        if block then
          drop
          let id ← collection anchor tag .mapping
          fill id (.mapping (← blockEntries fuel))
          return id
        else lone anchor tag
      | _ => lone anchor tag

/-- What an anchor and a tag alone stand for: an empty scalar. Without either
the node is missing. -/
def lone (anchor tag : Option String) : Build Nat :=
  match anchor, tag with
  | none, none => throw .unreadable
  | anchor, tag => scalar anchor (scalarKind tag true "") ""

/-- The items of a block sequence. -/
def blockItems (fuel : Nat) : Build (List Nat) := do
  match fuel with
  | 0 => throw .unreadable
  | fuel + 1 =>
    match ← peek with
    | .blockEntry =>
      drop
      let item ← match ← peek with
        | .blockEntry | .blockEnd => missing
        | _ => node fuel true false
      return item :: (← blockItems fuel)
    | .blockEnd => drop; return []
    | _ => throw .unreadable

/-- The items of a sequence in the column of the mapping around it. -/
def undeepenedItems (fuel : Nat) : Build (List Nat) := do
  match fuel with
  | 0 => throw .unreadable
  | fuel + 1 =>
    match ← peek with
    | .blockEntry =>
      drop
      let item ← match ← peek with
        | .blockEntry | .key | .value | .blockEnd => missing
        | _ => node fuel true false
      return item :: (← undeepenedItems fuel)
    | _ => return []

/-- The entries of a block mapping. -/
def blockEntries (fuel : Nat) : Build (List (Nat × Nat)) := do
  match fuel with
  | 0 => throw .unreadable
  | fuel + 1 =>
    match ← peek with
    | .key =>
      drop
      let key ← blockMember fuel
      let value ← if let .value ← peek then drop; blockMember fuel else missing
      return (key, value) :: (← blockEntries fuel)
    | .blockEnd => drop; return []
    | _ => throw .unreadable

/-- A key or a value of a block mapping, which may be missing. -/
def blockMember (fuel : Nat) : Build Nat := do
  match fuel with
  | 0 => throw .unreadable
  | fuel + 1 =>
    match ← peek with
    | .key | .value | .blockEnd => missing
    | _ => node fuel true true

/-- The items between brackets. A colon makes an item a mapping of one entry.
The flag tells whether the first item comes next. -/
def flowItems (fuel : Nat) (first : Bool) : Build (List Nat) := do
  match fuel with
  | 0 => throw .unreadable
  | fuel + 1 =>
    if let .flowSequenceEnd ← peek then drop; return []
    comma first
    match ← peek with
    | .flowSequenceEnd => drop; return []
    | .key =>
      drop
      let id ← collection none none .mapping
      let key ← flowMember fuel true
      let value ← flowValue fuel
      fill id (.mapping [(key, value)])
      return id :: (← flowItems fuel false)
    | _ =>
      let item ← node fuel false false
      return item :: (← flowItems fuel false)

/-- The entries between braces. -/
def flowEntries (fuel : Nat) (first : Bool) : Build (List (Nat × Nat)) := do
  match fuel with
  | 0 => throw .unreadable
  | fuel + 1 =>
    if let .flowMappingEnd ← peek then drop; return []
    comma first
    match ← peek with
    | .flowMappingEnd => drop; return []
    | .key =>
      drop
      let key ← flowMember fuel true
      let value ← flowValue fuel
      return (key, value) :: (← flowEntries fuel false)
    | _ =>
      let key ← node fuel false false
      let value ← missing
      return (key, value) :: (← flowEntries fuel false)

/-- The comma that has to stand in front of all but the first. -/
def comma (first : Bool) : Build Unit := do
  if !first then
    match ← peek with
    | .flowEntry => drop
    | _ => throw .unreadable

/-- The value of an entry between brackets or braces, which may be missing. -/
def flowValue (fuel : Nat) : Build Nat := do
  match fuel with
  | 0 => throw .unreadable
  | fuel + 1 =>
    if let .value ← peek then drop; flowMember fuel false else missing

/-- A key or a value of an entry between brackets or braces. -/
def flowMember (fuel : Nat) (isKey : Bool) : Build Nat := do
  match fuel with
  | 0 => throw .unreadable
  | fuel + 1 =>
    match ← peek with
    | .flowEntry | .flowSequenceEnd | .flowMappingEnd => missing
    | .value => if isKey then missing else node fuel false false
    | _ => node fuel false false

end

/-! ### Documents -/

/-- The handles that every document has. -/
def ownHandles : List (String × String) := [("!", "!"), ("!!", Kind.tagFront)]

/-- The directives in front of a document. No handle is declared twice, and
the version is stated once at most. -/
def directives (versioned : Bool) (handles : List (String × String)) :
    List Token → Except Fault (List (String × String) × List Token)
  | .directive (.version major _) :: rest =>
    if versioned || major != 1 then .error .unreadable else directives true handles rest
  | .directive (.handle name front) :: rest =>
    if (handles.lookup name).isSome then .error .unreadable
    else directives versioned ((name, front) :: handles) rest
  | .directive .other :: rest => directives versioned handles rest
  | tokens => .ok (handles, tokens)

/-- Passes over the marks behind a document. -/
def dropEnds : List Token → List Token
  | .documentEnd :: rest => dropEnds rest
  | tokens => tokens

/-- A document with a mark in front; none if nothing is left. -/
def marked (fuel : Nat) : Build (Option Nat) := do
  modify fun b => { b with tokens := dropEnds b.tokens }
  match ← peek with
  | .streamEnd => return none
  | _ =>
    let (handles, tokens) ← directives false [] (← get).tokens
    modify fun b => { b with tokens, handles := handles ++ ownHandles }
    match ← peek with
    | .documentStart =>
      drop
      match ← peek with
      | .directive _ | .documentStart | .documentEnd | .streamEnd => return some (← missing)
      | _ => return some (← node fuel true false)
    | _ => throw .unreadable

/-- The only document, if there is one. -/
def single (fuel : Nat) : Build (Option Nat) := do
  let root ← match ← peek with
    | .directive _ | .documentStart | .streamEnd => marked fuel
    | _ =>
      modify fun b => { b with handles := ownHandles }
      pure (some (← node fuel true false))
  if root.isSome then
    modify fun b => { b with tokens := dropEnds b.tokens }
    match ← peek with
    | .streamEnd => return root
    | _ => throw .unreadable
  else return none

end Build

/-- **The graph of a text with at most one document**, with the number of its
root. -/
def Graph.ofTokens? (tokens : List Token) : Except Fault (Graph × Option Nat) := do
  let (root, b) ← (Build.single (4 * tokens.length + 4)).run { tokens }
  return (b.graph, root)

end QuicTelemetry.Document
