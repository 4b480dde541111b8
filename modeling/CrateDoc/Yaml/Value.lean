import CrateDoc.Yaml.Node
import CrateDoc.Yaml.Number

/-!
# Values

What the nodes of a document stand for. All nodes are checked first (`Graph.check`), level by
level from the root, so that a fault anywhere in a document is found; then a value is read off
the graph as far down as it is asked for (`Graph.value`), since a graph may be without end.
-/

namespace CrateDoc.Yaml

open CrateDoc.Text

/-- A value of a document. -/
inductive Value
  | null
  | bool (b : Bool)
  | int (n : Int)
  | float (x : Binary64)
  | text (s : String)
  | bytes (bytes : List Nat)
  /-- A date, with or without a time. -/
  | time
  | list (items : List Value)
  | set (members : List Value)
  /-- Entries in order; a later one replaces an earlier one with the same key. -/
  | mapping (entries : List (Value × Value))
  deriving Inhabited

namespace Value

/-- The value under a key that is a text. -/
def get? (key : String) (entries : List (Value × Value)) : Option Value :=
  (entries.reverse.find? fun (k, _) => match k with
    | .text s => s == key
    | _ => false).map (·.2)

/-- Whether a value counts as nothing: null, false, zero, and what is empty. -/
def isNothing : Value → Bool
  | .null => true
  | .bool b => !b
  | .int n => n == 0
  | .float x => x.isZero
  | .text s => s.isEmpty
  | .bytes content => content.isEmpty
  | .time => false
  | .list items => items.isEmpty
  | .set members => members.isEmpty
  | .mapping entries => entries.isEmpty

end Value

/-- Whether a tag stands for a collection. -/
def Tag.isCollection (tag : Tag) : Bool :=
  tag == .list || tag == .mapping || tag == .set || tag == .pairs

/-- The truth value that a word stands for. -/
def boolOf? (s : List Char) : Option Bool :=
  match String.ofList (lowerCase s) with
  | "yes" | "true" | "on" => some true
  | "no" | "false" | "off" => some false
  | _ => none

/-- The value of a scalar with a tag. -/
def scalarValue (tag : Tag) (s : List Char) : Except Fault Value :=
  match tag with
  | .null => .ok .null
  | .bool => match boolOf? s with
    | some b => .ok (.bool b)
    | none => .error .notBoolean
  | .int => (readInteger s).map .int
  | .float => (readFloat s).map .float
  | .binary => (readBytes s).map .bytes
  | .timestamp => (checkTimestamp s).map fun _ => .time
  | .text => .ok (.text (String.ofList s))
  | _ => .error .malformed

/-- The state of checking a graph. -/
structure Checker where
  nodes : Array Node
  /-- The nodes that have been met. -/
  met : List Nat := []
  /-- The collections that have been met and are still to be checked. -/
  waiting : List Nat := []

/-- Checking a graph. -/
abbrev Checking := StateT Checker (Except Fault)

namespace Checker

/-- The node at a place. -/
def nodeAt (place : Nat) : Checking Node := do
  match (← get).nodes[place]? with
  | some node => return node
  | none => throw .malformed

/-- Puts another node at a place. -/
def put (place : Nat) (node : Node) : Checking Unit :=
  modify fun c => { c with nodes := c.nodes.setIfInBounds place node }

/-- The text of a node that is to be a scalar: of a mapping, that of its value key. `fuel` bounds
how deep it lies. -/
def scalarText (nodes : Array Node) : Nat → Nat → Except Fault (List Char)
  | 0, _ => .error .malformed
  | fuel + 1, place =>
    match nodes[place]? with
    | some (.scalar _ text) => .ok text
    | some (.mapping _ entries) =>
      match entries.find? fun (key, _) => (nodes[key]?.map Node.tag) == some .value with
      | some (_, value) => scalarText nodes fuel value
      | none => .error .malformed
    | _ => .error .malformed

/-- Meets a node: a collection waits to be checked, anything else is checked now. Says whether
the node may be a key. -/
def meet (place : Nat) : Checking Bool := do
  let node ← nodeAt place
  if node.tag.isCollection then
    modify fun c => if c.met.contains place then c
      else { c with met := place :: c.met, waiting := c.waiting ++ [place] }
    return false
  else
    let nodes := (← get).nodes
    let _ ← (scalarText nodes (nodes.size + 1) place).bind (scalarValue node.tag)
    return true

mutual

/-- Merges the mappings under merge keys into a mapping, from the entry at `index` on; `merged`
are the entries found so far. `fuel` bounds the number of steps. -/
def flattenFrom : Nat → (place index : Nat) → (merged : List (Nat × Nat)) → Checking Unit
  | 0, _, _, _ => throw .malformed
  | fuel + 1, place, index, merged => do
    match ← nodeAt place with
    | .mapping tag entries =>
      match entries[index]? with
      | none =>
        if !merged.isEmpty then put place (.mapping tag (merged ++ entries))
      | some (key, value) =>
        match ← nodeAt key with
        | .scalar .value text =>
          put key (.scalar .text text)
          flattenFrom fuel place (index + 1) merged
        | keyNode =>
          if keyNode.tag == .merge then
            put place (.mapping tag (entries.eraseIdx index))
            match ← nodeAt value with
            | .mapping _ _ =>
              let more ← flattened fuel value
              flattenFrom fuel place index (merged ++ more)
            | .sequence _ items =>
              let more ← flattenedAll fuel items
              flattenFrom fuel place index (merged ++ more.reverse.flatten)
            | .scalar _ _ => throw .malformed
          else flattenFrom fuel place (index + 1) merged
    | _ => throw .malformed

/-- The entries of a mapping after merging. -/
def flattened : Nat → Nat → Checking (List (Nat × Nat))
  | 0, _ => throw .malformed
  | fuel + 1, place => do
    flattenFrom fuel place 0 []
    match ← nodeAt place with
    | .mapping _ entries => return entries
    | _ => throw .malformed

/-- The entries of several mappings after merging. -/
def flattenedAll : Nat → List Nat → Checking (List (List (Nat × Nat)))
  | 0, _ => throw .malformed
  | _ + 1, [] => return []
  | fuel + 1, place :: rest => do
    let entries ← flattened fuel place
    return entries :: (← flattenedAll fuel rest)

end

/-- Checks a collection. -/
def checkCollection (fuel place : Nat) : Checking Unit := do
  let node ← nodeAt place
  match node.tag, node with
  | .list, .sequence _ items => for item in items do let _ ← meet item
  | .pairs, .sequence _ items =>
    for item in items do
      match ← nodeAt item with
      | .mapping _ [(key, value)] => do
        let _ ← meet key
        let _ ← meet value
      | _ => throw .malformed
  | .mapping, .mapping _ _ | .set, .mapping _ _ =>
    for (key, value) in ← flattened fuel place do
      unless ← meet key do throw .malformed
      let _ ← meet value
  | _, _ => throw .malformed

/-- Checks the collections that wait; `fuel` bounds their number, `depth` the steps in each. -/
def checkAll (depth : Nat) : Nat → Checking Unit
  | 0 => return
  | fuel + 1 => do
    match (← get).waiting with
    | [] => return
    | place :: rest =>
      modify fun c => { c with waiting := rest }
      checkCollection depth place
      checkAll depth fuel

end Checker

namespace Graph

/-- How many entries and items there are in a graph. -/
def weight (nodes : Array Node) : Nat :=
  nodes.foldl (fun n node => n + match node with
    | .scalar _ _ => 1
    | .sequence _ items => items.length + 2
    | .mapping _ entries => entries.length + 2) 1

/-- Checks all nodes of a graph, and merges mappings where they are to be merged. -/
def check (graph : Graph) : Except Fault Graph :=
  match graph.root with
  | none => .ok graph
  | some root =>
    let weight := weight graph.nodes
    let checking : Checking Unit := do
      let _ ← Checker.meet root
      Checker.checkAll (weight * weight + 8) (graph.nodes.size + 1)
    (checking.run { nodes := graph.nodes }).map fun (_, c) => { graph with nodes := c.nodes }

/-- The value at a place, as deep down as `depth` says; what lies deeper is left empty. -/
def valueAt (nodes : Array Node) : Nat → Nat → Value
  | 0, _ => .null
  | depth + 1, place =>
    let below := valueAt nodes depth
    match nodes[place]? with
    | none => .null
    | some node => match node.tag, node with
      | .list, .sequence _ items => .list (items.map below)
      | .pairs, .sequence _ items => .list (items.map below)
      | .mapping, .mapping _ entries =>
        .mapping (entries.map fun (key, value) => (below key, below value))
      | .set, .mapping _ entries => .set (entries.map fun (key, _) => below key)
      | tag, _ =>
        match (Checker.scalarText nodes (nodes.size + 1) place).bind (scalarValue tag) with
        | .ok value => value
        | .error _ => .null

end Graph

/-- Reads a document, as deep down as `depth` says. -/
def Value.ofText (depth : Nat) (text : List Char) : Except Fault Value := do
  let graph ← (← Graph.ofText text).check
  return (graph.root.map (Graph.valueAt graph.nodes depth)).getD .null

end CrateDoc.Yaml
