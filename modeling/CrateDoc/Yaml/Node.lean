import CrateDoc.Yaml.Tag
import CrateDoc.Yaml.Token

/-!
# Nodes

The tokens of a document are put together into a graph of nodes. An alias is an edge to the node
with its anchor, so that a node may be reached in several ways, and even contain itself.
-/

namespace CrateDoc.Yaml

open CrateDoc.Text

/-- A node; the nodes in it are given by their places in the graph. -/
inductive Node
  | scalar (tag : Tag) (text : List Char)
  | sequence (tag : Tag) (items : List Nat)
  | mapping (tag : Tag) (entries : List (Nat × Nat))
  deriving DecidableEq, Repr

/-- The tag of a node. -/
def Node.tag : Node → Tag
  | .scalar tag _ | .sequence tag _ | .mapping tag _ => tag

/-- The state of putting a document together. -/
structure Composer where
  tokens : List Token
  nodes : Array Node := #[]
  /-- The nodes that have an anchor. -/
  anchors : List (List Char × Nat) := []
  /-- What the handles of tags stand for. -/
  handles : List (List Char × List Char) := []

/-- Putting a document together. -/
abbrev Composing := StateT Composer (Except Fault)

namespace Composer

/-- Whether one of some tokens comes next. -/
def nextIs (p : Token → Bool) : Composing Bool :=
  return ((← get).tokens.head?.map p).getD false

/-- Takes the next token. -/
def drop : Composing Unit := modify fun c => { c with tokens := c.tokens.drop 1 }

/-- Takes a token if it comes next. -/
def accept (token : Token) : Composing Bool := do
  if ← nextIs (· == token) then
    drop
    return true
  else return false

/-- Takes a token that must come next. -/
def require (token : Token) : Composing Unit := do
  unless ← accept token do throw .malformed

/-- Adds a node. -/
def add (node : Node) : Composing Nat := do
  let c ← get
  set { c with nodes := c.nodes.push node }
  return c.nodes.size

/-- Puts another node in the place of one. -/
def put (place : Nat) (node : Node) : Composing Unit :=
  modify fun c => { c with nodes := c.nodes.setIfInBounds place node }

/-- The scalar for something that is left out. -/
def addEmpty : Composing Nat := add (.scalar .null [])

/-- Takes an anchor, if one comes next. -/
def anchor? : Composing (Option (List Char)) := do
  match (← get).tokens with
  | .anchor name :: _ => do
    drop
    return some name
  | _ => return none

/-- Takes a tag, if one comes next: its full name. -/
def tagName? : Composing (Option (List Char)) := do
  match (← get).tokens with
  | .tag ⟨none, suffix⟩ :: _ => do
    drop
    return some suffix
  | .tag ⟨some handle, suffix⟩ :: _ => do
    drop
    match (← get).handles.find? (·.1 == handle) with
    | some (_, meaning) => return some (meaning ++ suffix)
    | none => throw .malformed
  | _ => return none

/-- Gives a node its anchor, which must be new. -/
def setAnchor (anchor : Option (List Char)) (place : Nat) : Composing Unit := do
  match anchor with
  | none => return
  | some name =>
    let c ← get
    if c.anchors.any (·.1 == name) then throw .malformed
    set { c with anchors := (name, place) :: c.anchors }

/-- The tag of a collection. -/
def collectionTag (plain : Tag) (name? : Option (List Char)) : Tag :=
  match name? with
  | none => plain
  | some name => if name = ['!'] then plain else Tag.ofName name

/-- The tag of a scalar. -/
def scalarTag (text : List Char) (plain : Bool) (name? : Option (List Char)) : Tag :=
  match name? with
  | none => if plain then Tag.ofPlain text else .text
  | some name => if name = ['!'] then Tag.ofPlain text else Tag.ofName name

mutual

/-- Reads a node. In a block, block collections may stand; after a key, also a sequence that is
not indented. `fuel` bounds the number of steps on any path. -/
def node : Nat → (block unindented : Bool) → Composing Nat
  | 0, _, _ => throw .malformed
  | fuel + 1, block, unindented => do
    match (← get).tokens with
    | .alias name :: _ =>
      drop
      match (← get).anchors.find? (·.1 == name) with
      | some (_, place) => return place
      | none => throw .malformed
    | _ =>
      let first ← anchor?
      let tag ← tagName?
      let anchor ← if first.isNone && tag.isSome then anchor? else pure first
      let start (node : Node) : Composing Nat := do
        let c ← get
        if anchor.isSome && c.anchors.any fun (name, _) => some name == anchor then
          throw .malformed
        let place ← add node
        setAnchor anchor place
        return place
      let sequence (items : Composing (List Nat)) : Composing Nat := do
        let place ← start (.sequence (collectionTag .list tag) [])
        put place (.sequence (collectionTag .list tag) (← items))
        return place
      let mapping (entries : Composing (List (Nat × Nat))) : Composing Nat := do
        let place ← start (.mapping (collectionTag .mapping tag) [])
        put place (.mapping (collectionTag .mapping tag) (← entries))
        return place
      match (← get).tokens with
      | .scalar text plain :: _ =>
        drop
        start (.scalar (scalarTag text plain tag) text)
      | .flowSequenceStart :: _ =>
        drop
        sequence (flowItems fuel true)
      | .flowMappingStart :: _ =>
        drop
        mapping (flowEntries fuel true)
      | token :: _ =>
        if unindented && token == .blockEntry then sequence (unindentedItems fuel)
        else if block && token == .blockSequenceStart then do
          drop
          sequence (blockItems fuel)
        else if block && token == .blockMappingStart then do
          drop
          mapping (blockEntries fuel)
        else if anchor.isSome || tag.isSome then start (.scalar (scalarTag [] true tag) [])
        else throw .malformed
      | [] =>
        if anchor.isSome || tag.isSome then start (.scalar (scalarTag [] true tag) [])
        else throw .malformed

/-- Reads a node, or nothing if one of some tokens comes next. -/
def nodeUnless : Nat → (block unindented : Bool) → (Token → Bool) → Composing Nat
  | 0, _, _, _ => throw .malformed
  | fuel + 1, block, unindented, ends => do
    if ← nextIs ends then addEmpty else node fuel block unindented

/-- Reads the entries of a block sequence. -/
def blockItems : Nat → Composing (List Nat)
  | 0 => throw .malformed
  | fuel + 1 => do
    if ← accept .blockEntry then
      let item ← nodeUnless fuel true false fun t => t == .blockEntry || t == .blockEnd
      return item :: (← blockItems fuel)
    else
      require .blockEnd
      return []

/-- Reads the entries of a sequence that is not indented. -/
def unindentedItems : Nat → Composing (List Nat)
  | 0 => throw .malformed
  | fuel + 1 => do
    if ← accept .blockEntry then
      let item ← nodeUnless fuel true false fun t =>
        t == .blockEntry || t == .key || t == .value || t == .blockEnd
      return item :: (← unindentedItems fuel)
    else return []

/-- Reads the entries of a block mapping. -/
def blockEntries : Nat → Composing (List (Nat × Nat))
  | 0 => throw .malformed
  | fuel + 1 => do
    let ends (t : Token) : Bool := t == .key || t == .value || t == .blockEnd
    if ← accept .key then
      let key ← nodeUnless fuel true true ends
      let value ← if ← accept .value then nodeUnless fuel true true ends else addEmpty
      return (key, value) :: (← blockEntries fuel)
    else
      require .blockEnd
      return []

/-- Reads the entries of a sequence in brackets. -/
def flowItems : Nat → (first : Bool) → Composing (List Nat)
  | 0, _ => throw .malformed
  | fuel + 1, first => do
    if ← accept .flowSequenceEnd then return []
    unless first do require .flowEntry
    if ← accept .key then
      let place ← add (.mapping .mapping [])
      let key ← nodeUnless fuel false false fun t =>
        t == .value || t == .flowEntry || t == .flowSequenceEnd
      let value ← if ← accept .value then
          nodeUnless fuel false false fun t => t == .flowEntry || t == .flowSequenceEnd
        else addEmpty
      put place (.mapping .mapping [(key, value)])
      return place :: (← flowItems fuel false)
    else if ← accept .flowSequenceEnd then return []
    else
      let item ← node fuel false false
      return item :: (← flowItems fuel false)

/-- Reads the entries of a mapping in braces. -/
def flowEntries : Nat → (first : Bool) → Composing (List (Nat × Nat))
  | 0, _ => throw .malformed
  | fuel + 1, first => do
    if ← accept .flowMappingEnd then return []
    unless first do require .flowEntry
    if ← accept .key then
      let key ← nodeUnless fuel false false fun t =>
        t == .value || t == .flowEntry || t == .flowMappingEnd
      let value ← if ← accept .value then
          nodeUnless fuel false false fun t => t == .flowEntry || t == .flowMappingEnd
        else addEmpty
      return (key, value) :: (← flowEntries fuel false)
    else if ← accept .flowMappingEnd then return []
    else
      let key ← node fuel false false
      let value ← addEmpty
      return (key, value) :: (← flowEntries fuel false)

end

/-- Reads directives: what the handles of tags stand for. -/
def directives : Nat → Bool → List (List Char × List Char) →
    Composing (List (List Char × List Char))
  | 0, _, handles => return handles
  | fuel + 1, versioned, handles => do
    match (← get).tokens with
    | .directive directive :: _ =>
      drop
      match directive with
      | .version major _ =>
        if versioned || major ≠ 1 then throw .malformed
        directives fuel true handles
      | .handle handle meaning =>
        if handles.any (·.1 == handle) then throw .malformed
        directives fuel versioned ((handle, meaning) :: handles)
      | .other => directives fuel versioned handles
    | _ => return handles

/-- What the handles stand for that need no directive. -/
def standardHandles : List (List Char × List Char) :=
  [("!".toList, "!".toList), ("!!".toList, Tag.standard)]

/-- Moves over marks of the end of a document. -/
def dropEnds : Composing Unit :=
  modify fun c => { c with tokens := c.tokens.dropWhile (· == .documentEnd) }

/-- Reads the only document of a text: its first node, or nothing if there is no document. -/
def document : Composing (Option Nat) := do
  let tokens := (← get).tokens
  if tokens.isEmpty then return none
  let fuel := 4 * tokens.length + 8
  let starts (t : Token) : Bool := match t with
    | .directive _ | .documentStart => true
    | _ => false
  let root ← if ← nextIs starts then do
      let handles ← directives tokens.length false []
      modify fun c => { c with handles := handles ++ standardHandles }
      require .documentStart
      let isOver := (← get).tokens.isEmpty || (← nextIs fun t => starts t || t == .documentEnd)
      if isOver then addEmpty else node fuel true false
    else do
      modify fun c => { c with handles := standardHandles }
      node fuel true false
  dropEnds
  if (← get).tokens.isEmpty then return some root else throw .malformed

end Composer

/-- The nodes of a document and its first node, if there is a document. -/
structure Graph where
  nodes : Array Node
  root : Option Nat

/-- The graph of a document. -/
def Graph.ofText (text : List Char) : Except Fault Graph := do
  let tokens ← tokens text
  let (root, c) ← Composer.document.run { tokens := tokens }
  return ⟨c.nodes, root⟩

end CrateDoc.Yaml
