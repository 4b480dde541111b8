import CrateDoc.Rust.Grammar

/-!
# The top-level nodes of a Rust text

A text that consists of declarations, statements and comments is a list of nodes, each a slice of
the text, with nothing but white space between them (`nodes?`). A text with a syntax error anywhere
has no nodes.

* A comment and an attribute are nodes of their own. The line end behind a documentation comment
  belongs to it.
* A macro call and the semicolon behind it are one node, with the white space between them; a
  comment between the two is not allowed. A macro call without a semicolon has a type of its own,
  because a parser may make the semicolon another node.

The types of nodes are named as in the grammar of an editor, so that other parsers can take the
place of this one.
-/

namespace CrateDoc.Rust

open Syntax

/-- What a parser says of a node besides its text. -/
structure NodeInfo where
  /-- The name of its type in the grammar. Punctuation is its own type. -/
  type : String
  /-- Whether the type has a name, as all but punctuation has. -/
  isNamed : Bool := true
  /-- The types of the named nodes right below it. -/
  namedChildren : List String := []
  /-- The text of its field `name`. -/
  name? : Option (List Char) := none
deriving DecidableEq

/-- A node with its text. -/
structure Node extends NodeInfo where
  text : List Char
deriving DecidableEq

/-- What stands in front of the name of a function. -/
def functionPrelude : Syntax :=
  Peg.opt (ref .visibility) ++ Peg.opt (ref .modifiers) ++ word "fn"

/-- A function with a body. -/
def functionItem : Syntax := Peg.opt (ref .visibility) ++ ref .functionHead ++ ref .block

/-- The name of the function at the start of a text. -/
def functionName (s : List Char) : List Char :=
  match (readSyntax functionPrelude s).bind fun rest => word? (skip rest) with
  | some (name, _) => name
  | none => []

/-- Whether a line comment is a documentation comment, read behind its two slashes. -/
def isLineDoc : List Char → Bool
  | '/' :: '/' :: _ => false
  | '/' :: _ => true
  | '!' :: _ => true
  | _ => false

/-- What follows the comment at the start of a text, a documentation comment taking the line end
with it. -/
def afterCommentNode? (s : List Char) : Option (List Char) :=
  match s, afterComment? s with
  | '/' :: '/' :: body, some ('\n' :: rest) =>
    if isLineDoc body then some rest else some ('\n' :: rest)
  | _, behind => behind

/-- The type of the comment at the start of a text. -/
def commentType : List Char → String
  | '/' :: '*' :: _ => "block_comment"
  | _ => "line_comment"

/-- How declarations begin, the earlier ones first, and their types. -/
def itemBeginnings : List (Syntax × String) :=
  [(ref .functionHead, "function_signature_item"), (word "mod", "mod_item"),
    (word "struct", "struct_item"), (word "union", "union_item"), (word "enum", "enum_item"),
    (associatedType, "associated_type"), (word "type", "type_item"), (word "const", "const_item"),
    (word "static", "static_item"), (word "use", "use_declaration"),
    (word "extern" ++ word "crate", "extern_crate_declaration"),
    (Peg.opt (word "unsafe") ++ word "trait", "trait_item"),
    (Peg.opt (word "unsafe") ++ word "impl", "impl_item"),
    (externModifier, "foreign_mod_item")]

/-- The type of the declaration at the start of a text. -/
def itemType (s : List Char) : String :=
  match itemBeginnings.find? fun (beginning, _) =>
    (readSyntax (Peg.opt (ref .visibility) ++ beginning) s).isSome with
  | some (_, type) => type
  | none => "foreign_mod_item"

/-- The type of the attribute or definition of a macro at the start of a text. -/
def attributeType (s : List Char) : String :=
  if (readSyntax (ref .attributeItem) s).isSome then "attribute_item" else "macro_definition"

/-- What follows the macro call at the start of a text, and what the call is: with a semicolon
behind it, and only white space between them, it is a statement. -/
def afterMacro? (s : List Char) : Option (NodeInfo × List Char) := do
  let rest ← readSyntax (Peg.unless (wordOf declarationWords) ++ ref .macroCall) s
  match skip rest with
  | ';' :: behind =>
    if rest.dropWhile isSpace = ';' :: behind then
      some ({ type := "expression_statement", namedChildren := ["macro_invocation"] }, behind)
    else none
  | '<' :: _ => none
  | _ => some ({ type := "macro_invocation" }, rest)

/-- What follows the declaration at the start of a text, and what the declaration is. -/
def afterItem? (s : List Char) : Option (NodeInfo × List Char) :=
  match readSyntax (ref .innerAttributeItem) s with
  | some rest => some ({ type := "inner_attribute_item" }, rest)
  | none =>
    match readSyntax (ref .attributeItem <|> ref .macroDefinition) s with
    | some rest => some ({ type := attributeType s }, rest)
    | none =>
      match readSyntax functionItem s with
      | some rest => some ({ type := "function_item", name? := some (functionName s) }, rest)
      | none =>
        match readSyntax (ref .item) s with
        | some rest => some ({ type := itemType s }, rest)
        | none => afterMacro? s

/-- A statement that is no declaration. Of what an expression is made nothing more is known. -/
def statementInfo (s : List Char) : NodeInfo :=
  if (readSyntax letDeclaration s).isSome then { type := "let_declaration" }
  else { type := "expression_statement", namedChildren := ["_expression"] }

/-- What follows the node at the start of a text, and what the node is. -/
def afterNode? (s : List Char) : Option (NodeInfo × List Char) :=
  match s, afterCommentNode? s with
  | s, some rest => some ({ type := commentType s }, rest)
  | ';' :: rest, none => some ({ type := "empty_statement" }, rest)
  | s, none =>
    match afterItem? s with
    | some found => some found
    | none => (readSyntax (ref .statement) s).map fun rest => (statementInfo s, rest)

/-- The nodes of a text, read from the start of one of them. A node is at least one character
long. -/
def nodesFrom? (s : List Char) : Option (List Node) :=
  match s with
  | [] => some []
  | c :: cs =>
    if isSpace c then nodesFrom? cs
    else do
      let (info, rest) ← afterNode? (c :: cs)
      let size := cs.length - rest.length
      let more ← nodesFrom? (cs.drop size)
      some (⟨info, c :: cs.take size⟩ :: more)
termination_by s.length
decreasing_by
  · simp
  · simp only [List.length_drop, List.length_cons]
    omega

/-- The text behind a byte order mark, which may stand at its start. -/
def withoutMark : List Char → List Char
  | '\ufeff' :: rest => rest
  | s => s

/-- Whether a text opens with the line that names its interpreter. -/
def hasInterpreterLine (s : List Char) : Bool :=
  match skip s with
  | '#' :: '!' :: rest =>
    let blank (c : Char) : Bool := c = '\r' || c = '\t' || c = '\x0b' || c = '\x0c' || c = ' '
    let line := rest.takeWhile (· ≠ '\n')
    line.length < rest.length &&
      (line.all blank || (line.dropWhile blank).head? ≠ some '[' || line.head?.any blank)
  | _ => false

/-- The top-level nodes of a text, if it has no syntax error. -/
def nodes? (source : List Char) : Option (List Node) :=
  if source.contains '\x00' || hasInterpreterLine (withoutMark source) then none
  else nodesFrom? (withoutMark source)

end CrateDoc.Rust
