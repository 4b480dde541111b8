import CrateDoc.Rust.Node

/-!
# Parsed snippets

A snippet is either a list of declarations, which can be taken apart, or a text that is kept as
it is. Of a list of declarations it is known whether it names an external crate and whether it
has an entry point.

The nodes of a snippet are read one after the other (`Reading.step`). Whether the last one was a
macro call is carried along, since a semicolon right behind it belongs to the call. The parser that
gives the nodes is a parameter of `Parsed.ofParser`; `Parsed.ofSource` is for `Rust.nodes?`.
-/

namespace CrateDoc.Doctest

open CrateDoc.Rust CrateDoc.Text

/-- The name of the function with which a program starts. -/
def entryPoint : String := "main"

/-- A snippet taken apart. -/
structure Structured where
  /-- Declarations and comments, in order. -/
  items : List String := []
  /-- Attributes of the crate, in order. -/
  crateAttributes : List String := []
  hasExternCrate : Bool := false
  hasEntryPoint : Bool := false
deriving DecidableEq

/-- A snippet after parsing. -/
inductive Parsed
  | structured (s : Structured)
  | verbatim (text : String)
deriving DecidableEq

/-- Items of which the last is a macro call, with the semicolon that ends the call. -/
def endMacro : List String → List String
  | [] => []
  | [call] => [call ++ ";"]
  | item :: rest => item :: endMacro rest

/-- The types of nodes that are declarations. -/
def itemTypes : List String :=
  ["associated_type", "attribute_item", "const_item", "empty_statement", "enum_item",
    "extern_crate_declaration", "foreign_mod_item", "function_item", "function_signature_item",
    "impl_item", "macro_definition", "macro_invocation", "mod_item", "static_item", "struct_item",
    "trait_item", "type_item", "union_item", "use_declaration"]

/-- The types of nodes that are comments. -/
def commentTypes : List String := ["line_comment", "block_comment"]

/-- Whether a node is a declaration. A macro call that ends in a semicolon is a statement. -/
def isItem (node : Node) : Bool :=
  itemTypes.contains node.type ||
    (node.type == "expression_statement" && node.namedChildren == ["macro_invocation"])

/-- The name of a function, empty if it has none. -/
def nameOfFunction (node : Node) : String := String.ofList (node.name?.getD [])

/-- Whether a node is the function with which a program starts. -/
def isEntryPoint (node : Node) : Bool :=
  node.type == "function_item" && nameOfFunction node == entryPoint

/-- How far the nodes of a snippet are read. -/
structure Reading where
  /-- What the nodes hold. -/
  found : Structured := {}
  /-- Whether the last node is a macro call that a semicolon may end. -/
  openMacro : Bool := false

namespace Reading

/-- Whether a node can end a macro call. -/
def isSemicolon (node : Node) : Bool := node.type == ";" || node.type == "empty_statement"

/-- Reads one more node, unless it is no declaration. A comment loses the line ends at its end, and
punctuation is passed over. -/
def step (r : Reading) (node : Node) : Option Reading :=
  if r.openMacro && isSemicolon node then
    some { found := { r.found with items := endMacro r.found.items } }
  else
    let openMacro : Bool := node.type == "macro_invocation"
    let text := String.ofList node.text
    if !node.isNamed then some { r with openMacro }
    else if node.type = "inner_attribute_item" then
      some ⟨{ r.found with crateAttributes := r.found.crateAttributes ++ [text] }, openMacro⟩
    else if node.type ∈ commentTypes then
      let kept := String.ofList (dropTrailing (· == '\n') node.text)
      some ⟨{ r.found with items := r.found.items ++ [kept] }, openMacro⟩
    else if !isItem node then none
    else
      some ⟨{ r.found with
        items := r.found.items ++ [text]
        hasExternCrate := r.found.hasExternCrate || node.type == "extern_crate_declaration"
        hasEntryPoint := r.found.hasEntryPoint || isEntryPoint node }, openMacro⟩

end Reading

namespace Parsed

/-- A snippet from its nodes, if all of them are declarations or comments. -/
def ofNodes? (nodes : List Node) : Option Structured :=
  (nodes.foldlM Reading.step {}).map (·.found)

/-- Parses the source of a snippet with some parser, which gives its nodes unless there is a syntax
error. -/
def ofParser (parser : List Char → Option (List Node)) (source : String) : Parsed :=
  match (parser source.toList).bind ofNodes? with
  | some s => .structured s
  | none => .verbatim source

/-- Parses the source of a snippet. -/
def ofSource (source : String) : Parsed := ofParser nodes? source

end Parsed

end CrateDoc.Doctest
