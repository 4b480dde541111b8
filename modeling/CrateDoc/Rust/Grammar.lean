import CrateDoc.Peg
import CrateDoc.Rust.Lexeme

/-!
# The grammar of Rust

The syntax of Rust texts as a parsing expression grammar, as lenient as an editor's grammar is:
names are not resolved, types are not checked, and a word is a keyword only where the grammar
gives it a meaning. Operators need no precedence here, since only membership matters: an
expression is an operand followed by any number of tails.

Two parameters run through the expressions. In a `bare` one a brace behind a path does not open a
structure, because the condition of `if`, `while` and `match` is followed by a block. With `lets`,
a `let` may stand behind `&&`.
-/

namespace CrateDoc.Rust

/-- The names of the rules. -/
inductive Phrase
  | path
  | segmentPath
  | bracketedType
  | typeArguments
  | typeParameters
  | bounds
  | whereClause
  | type
  | simpleType
  | pathType
  | parameters
  | pattern
  | simplePattern
  | expression (bare lets : Bool)
  | operand (bare : Bool)
  | tail (bare lets : Bool)
  | condition (bare : Bool)
  | blockLike
  | block
  | matchArm
  | closure (bare : Bool)
  | statement
  | declaration
  | declarationList
  | item
  | attribute
  | attributeItem
  | innerAttributeItem
  | visibility
  | modifiers
  | functionHead
  | useClause
  | macroCall
  | tokenTree
  | ruleTree
  | rulePattern
  | macroDefinition

/-- A parsing expression of the grammar. -/
abbrev Syntax := Peg Phrase

namespace Syntax

/-- One given word. -/
def word (w : String) : Syntax := .lexeme (readWord w.toList)

/-- One given sign, unless one of the characters `not` follows it. -/
def sign (mark : String) (not : String := "") : Syntax :=
  .lexeme (readSign mark.toList not.toList)

/-- The brace that opens a body. -/
def openBrace : Syntax := sign "\x7b"

/-- The brace that closes a body. -/
def closeBrace : Syntax := sign "\x7d"

/-- The rule of a name. -/
def ref (name : Phrase) : Syntax := .rule name

/-- An identifier. -/
def name : Syntax := .lexeme (readIdentifier [])

/-- An identifier that is none of the given words. -/
def nameExcept (reserved : List String) : Syntax :=
  .lexeme (readIdentifier (reserved.map String.toList))

/-- A variable of a macro. -/
def metavariable : Syntax := .lexeme readMetavariable

/-- A number of any form. -/
def number : Syntax := .lexeme readFloat <|> .lexeme readInteger

/-- A literal. -/
def literal : Syntax :=
  .lexeme readText <|> .lexeme readChar <|> number <|> word "true" <|> word "false"

/-- A lifetime or label. -/
def lifetime : Syntax := sign "\x27" ++ name

/-- A label in front of a loop or a block. -/
def label : Syntax := lifetime ++ sign ":" ":"

/-- Any number of `p` with commas between them and perhaps one at the end. -/
def commaList (p : Syntax) : Syntax := Peg.listOf (sign ",") p

/-- An expression. -/
def expr : Syntax := ref (.expression false false)

/-- Any number of attributes. -/
def attributes : Syntax := .star (ref .attributeItem)

/-- One of several words. -/
def wordOf (ws : List String) : Syntax := Peg.oneOf (ws.map word)

/-- One of several signs, each with the characters that may not follow it. -/
def signOf (signs : List (String × String)) : Syntax :=
  Peg.oneOf (signs.map fun (mark, not) => sign mark not)

/-- The words that begin an expression of their own, and so name nothing there. -/
def expressionWords : List String :=
  ["if", "match", "while", "loop", "for", "unsafe", "async", "try", "const", "return", "yield",
    "break", "continue", "static", "move", "true", "false"]

/-- The words that begin a declaration, and so name nothing at the start of a statement. -/
def declarationWords : List String :=
  ["let", "mod", "extern", "struct", "enum", "type", "fn", "impl", "trait", "use", "pub"]

/-- The operators that join two expressions, longer ones first. -/
def binaryOperators : List (String × String) :=
  [("<<=", ""), (">>=", ""), ("&&", ""), ("||", ""), ("==", ""), ("!=", ""), ("<=", ""),
    (">=", ""), ("+=", ""), ("-=", ""), ("*=", ""), ("/=", ""), ("%=", ""), ("^=", ""),
    ("&=", ""), ("|=", ""), ("<<", ""), (">>", ""), ("=", ">"), ("+", ""), ("-", ""), ("*", ""),
    ("/", "*/"), ("%", ""), ("^", ""), ("&", ""), ("|", ""), ("<", ""), (">", "")]

/-- The operators of ranges. -/
def rangeOperators : List (String × String) := [("..=", ""), ("...", ""), ("..", "")]

/-- The operators that, behind a block, can only go on with the expression of the block. -/
def continuation : Syntax :=
  sign "." "." <|> sign "?" <|> word "as" <|>
    signOf [("=", ">"), ("==", ""), ("!=", ""), ("<=", ""), (">=", ""), ("&&", ""), ("||", ""),
      ("<<", ""), (">", ""), ("+", ""), ("/", "*/"), ("%", ""), ("^", ""), ("*=", ""),
      ("-=", ""), ("&=", ""), ("|=", "")]

/-- What shows that an expression goes on behind a macro call. -/
def tailStart : Syntax :=
  signOf [(".", ""), ("?", ""), ("(", ""), ("[", "")] <|> word "as" <|> signOf binaryOperators

/-- What ends a statement: a semicolon, or the brace that closes the block. -/
def statementEnd : Syntax := sign ";" <|> Peg.ahead (closeBrace)

/-- Fields with names. -/
def fieldList : Syntax :=
  openBrace ++ commaList (attributes ++ Peg.opt (ref .visibility) ++ name ++ sign ":" ":" ++
    ref .type) ++ closeBrace

/-- Fields without names. -/
def orderedFieldList : Syntax :=
  sign "(" ++ commaList (attributes ++ Peg.opt (ref .visibility) ++ ref .type) ++ sign ")"

/-- A return type. -/
def returnType : Syntax := sign "->" ++ ref .type

/-- The name, parameters and return type of a function. -/
def signature : Syntax :=
  (name <|> metavariable) ++ Peg.opt (ref .typeParameters) ++ ref .parameters ++
    Peg.opt returnType ++ Peg.opt (ref .whereClause)

/-- The foreign interface of a function or a block. -/
def externModifier : Syntax := word "extern" ++ Peg.opt (.lexeme readPlainText)

/-- A value behind an equals sign. -/
def initializer : Syntax := sign "=" "=>" ++ expr

/-- The fields of a structure that is built. -/
def structBody : Syntax :=
  openBrace ++ commaList (
    sign ".." ++ expr <|>
    attributes ++ (name <|> .lexeme readInteger) ++ sign ":" ":" ++ expr <|>
    attributes ++ name) ++ closeBrace

/-- What may stand at either end of a range of patterns. -/
def rangeBound : Syntax := Peg.opt (sign "-") ++ literal <|> ref .segmentPath

/-- A trait and the lifetimes bound for it. -/
def boundTrait : Syntax :=
  Peg.opt (word "for" ++ ref .typeParameters) ++
    (sign "(" ++ commaList (ref .type) ++ sign ")" <|> sign "?" ++ ref .simpleType <|>
      Peg.opt (ref .modifiers) ++ word "fn" ++ ref .parameters ++ Peg.opt returnType <|>
      ref .pathType)

/-- A use of a trait as the target of an implementation. -/
def implementedTrait : Syntax := Peg.opt (sign "!") ++ ref .pathType ++ word "for"

/-- What the left side of a bound may be. -/
def boundSubject : Syntax :=
  lifetime <|> word "for" ++ ref .typeParameters ++ ref .type <|>
    Peg.unless (wordOf ["dyn", "impl", "fn"] <|> sign "!") ++ ref .simpleType

/-- The declarations that may be public. -/
def visibleItem : Syntax :=
  word "mod" ++ name ++ (sign ";" <|> ref .declarationList) <|>
  word "struct" ++ name ++ Peg.opt (ref .typeParameters) ++
    (Peg.opt (ref .whereClause) ++ fieldList <|>
      orderedFieldList ++ Peg.opt (ref .whereClause) ++ sign ";" <|> sign ";") <|>
  word "union" ++ name ++ Peg.opt (ref .typeParameters) ++ Peg.opt (ref .whereClause) ++
    fieldList <|>
  word "enum" ++ name ++ Peg.opt (ref .typeParameters) ++ Peg.opt (ref .whereClause) ++
    openBrace ++ commaList (attributes ++ Peg.opt (ref .visibility) ++ name ++
      Peg.opt (fieldList <|> orderedFieldList) ++ Peg.opt initializer) ++ closeBrace <|>
  word "type" ++ name ++ Peg.opt (ref .typeParameters) ++ Peg.opt (ref .whereClause) ++
    sign "=" ++ ref .type ++ Peg.opt (ref .whereClause) ++ sign ";" <|>
  word "const" ++ name ++ sign ":" ":" ++ ref .type ++ Peg.opt initializer ++ sign ";" <|>
  word "static" ++ Peg.opt (word "ref") ++ Peg.opt (word "mut") ++ name ++ sign ":" ":" ++
    ref .type ++ Peg.opt initializer ++ sign ";" <|>
  word "use" ++ ref .useClause ++ sign ";" <|>
  word "extern" ++ word "crate" ++ name ++ Peg.opt (word "as" ++ name) ++ sign ";" <|>
  ref .functionHead ++ (ref .block <|> sign ";") <|>
  externModifier ++ (sign ";" <|> ref .declarationList) <|>
  Peg.opt (word "unsafe") ++ word "trait" ++ name ++ Peg.opt (ref .typeParameters) ++
    Peg.opt (ref .bounds) ++ Peg.opt (ref .whereClause) ++ ref .declarationList

/-- An implementation. -/
def implementation : Syntax :=
  Peg.opt (word "unsafe") ++ word "impl" ++ Peg.opt (ref .typeParameters) ++
    Peg.opt implementedTrait ++ ref .type ++ Peg.opt (ref .whereClause) ++
    (sign ";" <|> ref .declarationList)

/-- A type that a trait asks for. -/
def associatedType : Syntax :=
  word "type" ++ name ++ Peg.opt (ref .typeParameters) ++ Peg.opt (ref .bounds) ++
    Peg.opt (ref .whereClause) ++ sign ";"

/-- A binding of a name to the value of an expression. -/
def letDeclaration : Syntax :=
  word "let" ++ Peg.opt (word "mut") ++ ref .pattern ++ Peg.opt (sign ":" ":" ++ ref .type) ++
    Peg.opt initializer ++ Peg.opt (word "else" ++ ref .block) ++ sign ";"

/-- What a variable in the pattern of a macro's rule may stand for. -/
def fragments : List String :=
  ["block", "expr", "expr_2021", "ident", "item", "lifetime", "literal", "meta", "pat",
    "pat_param", "path", "stmt", "tt", "ty", "vis"]

/-- Whatever has no meaning of its own inside the brackets of a macro. -/
def plainToken : Syntax :=
  .lexeme readText <|> .lexeme readChar <|> number <|> name <|> .lexeme readMacroSign

/-- `p` any number of times between brackets of any kind. -/
def bracketed (p : Syntax) : Syntax :=
  sign "(" ++ .star p ++ sign ")" <|> sign "[" ++ .star p ++ sign "]" <|>
    openBrace ++ .star p ++ closeBrace

/-- A repetition in a rule of a macro. -/
def repetition (p : Syntax) : Syntax :=
  sign "$" ++ sign "(" ++ .star p ++ sign ")" ++ .lexeme readRepetitionCount

/-- The rules of a macro. -/
def macroRules : Syntax :=
  let one := ref .rulePattern ++ sign "=>" ++ ref .ruleTree
  .star (one ++ sign ";") ++ Peg.opt one

end Syntax

open Syntax

/-- The grammar. -/
def Phrase.syntaxOf : Phrase → Syntax
  | .path =>
    (ref .bracketedType ++ sign "::" ++ name <|> sign "::" ++ name <|> metavariable <|>
      nameExcept expressionWords) ++
      .star (sign "::" ++ (ref .typeArguments <|> name))
  | .segmentPath =>
    (sign "::" ++ name <|> metavariable <|> name) ++ .star (sign "::" ++ name)
  | .bracketedType =>
    sign "<" ++ ref .type ++ Peg.opt (word "as" ++ ref .type) ++ sign ">"
  | .typeArguments =>
    sign "<" ++ Peg.sepBy1 (sign ",") (
      (literal <|> ref .block <|> ref .type ++ Peg.opt (sign "=" ++ ref .type) <|> lifetime) ++
        Peg.opt (ref .bounds)) ++ Peg.opt (sign ",") ++ sign ">"
  | .typeParameters =>
    sign "<" ++ Peg.sepBy1 (sign ",") (attributes ++ (
      metavariable <|> lifetime ++ Peg.opt (ref .bounds) <|>
      word "const" ++ name ++ sign ":" ":" ++ ref .type ++
        Peg.opt (sign "=" ++ (ref .block <|> Peg.opt (sign "-") ++ literal <|> name)) <|>
      nameExcept ["const"] ++ Peg.opt (ref .bounds) ++ Peg.opt (sign "=" ++ ref .type))) ++
      Peg.opt (sign ",") ++ sign ">"
  | .bounds =>
    sign ":" ":" ++ Peg.sepBy1 (sign "+") (
      lifetime <|> word "for" ++ ref .typeParameters ++ ref .type <|> ref .simpleType)
  | .whereClause =>
    word "where" ++ Peg.opt (Peg.sepBy1 (sign ",") (boundSubject ++ ref .bounds) ++
      Peg.opt (sign ","))
  | .type =>
    let part := lifetime <|> word "use" ++ sign "<" ++ commaList (lifetime <|> name) ++ sign ">" <|>
      ref .simpleType
    (lifetime ++ sign "+" ++ part <|> ref .simpleType) ++ .star (sign "+" "=" ++ part)
  | .simpleType =>
    sign "&" ++ Peg.opt lifetime ++ Peg.opt (word "mut") ++ ref .simpleType <|>
    sign "*" ++ wordOf ["const", "mut"] ++ ref .simpleType <|>
    sign "(" ++ Peg.opt (Peg.sepBy1 (sign ",") (ref .type) ++ Peg.opt (sign ",")) ++ sign ")" <|>
    sign "[" ++ ref .type ++ Peg.opt (sign ";" ++ expr) ++ sign "]" <|>
    sign "!" "=" <|>
    sign "?" ++ ref .simpleType <|>
    word "impl" ++ boundTrait <|>
    word "dyn" ++ boundTrait <|>
    word "for" ++ sign "<" ++ Peg.sepBy1 (sign ",") lifetime ++ Peg.opt (sign ",") ++ sign ">" ++
      (Peg.opt (ref .modifiers) ++ word "fn" ++ ref .parameters ++ Peg.opt returnType <|>
        ref .pathType) <|>
    Peg.opt (ref .modifiers) ++ word "fn" ++ ref .parameters ++ Peg.opt returnType <|>
    Peg.oneOf (primitiveTypes.map fun w => .lexeme (readWord w)) ++ Peg.unless (sign "::") <|>
    ref .pathType
  | .pathType =>
    (ref .bracketedType ++ sign "::" ++ name <|> sign "::" ++ name <|> metavariable <|>
      nameExcept ["impl", "dyn", "for", "fn", "unsafe", "extern", "async", "const"]) ++
      (ref .typeArguments <|> Peg.unless (sign "<")) ++
      .star (sign "::" ++ (ref .typeArguments <|>
        name ++ (ref .typeArguments <|> Peg.unless (sign "<")))) ++
      Peg.opt (sign "!" "=" ++ ref .tokenTree <|> ref .parameters ++ Peg.opt returnType)
  | .parameters =>
    sign "(" ++ commaList (Peg.opt (ref .attributeItem) ++ (
      Peg.opt (word "mut") ++ (ref .pattern <|> word "self") ++ sign ":" ":" ++
        (ref .type <|> sign "...") <|>
      Peg.opt (sign "&") ++ Peg.opt lifetime ++ Peg.opt (word "mut") ++ word "self" <|>
      Peg.opt (word "mut") ++ sign "..." <|>
      ref .type)) ++ sign ")"
  | .pattern =>
    Peg.opt (sign "|") ++ ref .simplePattern ++ .star (Peg.plus (sign "|") ++ ref .simplePattern)
  | .simplePattern =>
    word "ref" ++ ref .simplePattern <|>
    word "mut" ++ ref .simplePattern <|>
    sign "&" ++ Peg.opt (word "mut") ++ ref .simplePattern <|>
    sign "(" ++ commaList (ref (.closure false) <|> ref .pattern) ++ sign ")" <|>
    sign "[" ++ commaList (ref .pattern) ++ sign "]" <|>
    word "const" ++ ref .block <|>
    sign "..=" ++ rangeBound <|>
    sign ".." "." ++ Peg.opt rangeBound <|>
    Peg.opt (sign "-") ++ literal ++ Peg.opt (signOf rangeOperators ++ Peg.opt rangeBound) <|>
    Peg.unless (wordOf ["self", "super", "crate"] ++ Peg.unless (sign "::" <|> sign "!" "=")) ++
      Peg.unless (wordOf ["ref", "mut", "const", "true", "false"]) ++
      (ref .bracketedType ++ sign "::" ++ name <|> sign "::" ++ name <|> metavariable <|> name) ++
      .star (sign "::" ++ (ref .typeArguments <|> name)) ++
      Peg.opt (
        sign "!" "=" ++ ref .tokenTree <|>
        sign "(" ++ commaList (ref .pattern) ++ sign ")" <|>
        openBrace ++ commaList (
          sign ".." <|>
          attributes ++ Peg.opt (word "ref") ++ Peg.opt (word "mut") ++
            ((name <|> .lexeme readInteger) ++ sign ":" ":" ++ ref .pattern <|> name)) ++
          closeBrace <|>
        sign "@" ++ ref .simplePattern <|>
        signOf rangeOperators ++ Peg.opt rangeBound)
  | .expression bare lets => ref (.operand bare) ++ .star (ref (.tail bare lets))
  | .operand bare =>
    let inner := ref (.expression bare false)
    let afterRange := if bare then Peg.unless (openBrace) ++ ref (.operand bare)
      else ref (.operand bare)
    ref .blockLike <|>
    ref (.closure bare) <|>
    signOf [("-", ""), ("*", ""), ("!", "")] ++ ref (.operand bare) <|>
    sign "&" ++ (word "raw" ++ wordOf ["const", "mut"] ++ ref (.operand bare) <|>
      Peg.opt (word "mut") ++ ref (.operand bare)) <|>
    word "return" ++ Peg.opt inner <|>
    word "yield" ++ Peg.opt inner <|>
    word "break" ++ Peg.opt (lifetime ++ Peg.unless (sign ":" ":")) ++ Peg.opt inner <|>
    word "continue" ++ Peg.opt lifetime <|>
    signOf [("..=", ""), ("..", ".")] ++ Peg.opt afterRange <|>
    literal <|>
    sign "(" ++ Peg.opt (attributes ++ expr ++ .star (sign "," ++ expr) ++ Peg.opt (sign ",")) ++
      sign ")" <|>
    sign "[" ++ attributes ++ (expr ++ (sign ";" ++ expr <|>
      .star (sign "," ++ attributes ++ expr) ++ Peg.opt (sign ",")) <|> Peg.opt (sign ",")) ++
      sign "]" <|>
    ref .path ++ (sign "!" "=" ++ ref .tokenTree <|> if bare then Peg.empty else Peg.opt structBody)
  | .tail bare lets =>
    let afterRange := if bare then Peg.unless (openBrace) ++ ref (.operand bare)
      else ref (.operand bare)
    let letTail := sign "&&" ++ word "let" ++ ref .pattern ++ sign "=" "=>" ++ ref (.operand bare)
    let joined :=
      sign "." "." ++ (.lexeme readInteger <|> name) ++
        Peg.opt (sign "::" ++ ref .typeArguments) <|>
      sign "?" <|>
      sign "(" ++ commaList (attributes ++ expr) ++ sign ")" <|>
      sign "[" ++ expr ++ sign "]" <|>
      word "as" ++ ref .simpleType <|>
      signOf rangeOperators ++ Peg.opt afterRange <|>
      signOf binaryOperators ++ ref (.operand bare)
    if lets then letTail <|> joined else joined
  | .condition bare =>
    word "let" ++ ref .pattern ++ sign "=" "=>" ++ ref (.expression bare true) <|>
      ref (.expression bare true)
  | .blockLike =>
    word "unsafe" ++ ref .block <|>
    word "async" ++ Peg.opt (word "move") ++ ref .block <|>
    word "gen" ++ Peg.opt (word "move") ++ ref .block <|>
    word "try" ++ ref .block <|>
    word "const" ++ ref .block <|>
    word "if" ++ ref (.condition true) ++ ref .block ++
      .star (word "else" ++ word "if" ++ ref (.condition true) ++ ref .block) ++
      (word "else" ++ ref .block <|> Peg.unless (word "else")) <|>
    word "match" ++ ref (.expression true false) ++ openBrace ++ .star (ref .matchArm) ++
      closeBrace <|>
    Peg.opt label ++ (
      word "while" ++ ref (.condition true) ++ ref .block <|>
      word "loop" ++ ref .block <|>
      word "for" ++ ref .pattern ++ word "in" ++ ref (.expression true false) ++ ref .block) <|>
    ref .block
  | .block => Peg.opt label ++ openBrace ++ .star (ref .statement) ++ closeBrace
  | .matchArm =>
    let armEnd := sign "," <|> Peg.ahead (closeBrace)
    .star (ref .attributeItem <|> ref .innerAttributeItem) ++ ref .pattern ++
      Peg.opt (word "if" ++ ref (.condition false)) ++ sign "=>" ++ (
      ref .blockLike ++ (
        Peg.ahead continuation ++ Peg.plus (ref (.tail false false)) ++ armEnd <|>
        Peg.opt (sign ",")) <|>
      expr ++ armEnd)
  | .closure bare =>
    Peg.opt (word "static") ++ Peg.opt (word "async") ++ Peg.opt (word "move") ++ sign "|" ++
      Peg.opt (Peg.sepBy1 (sign ",") (
        word "self" ++ sign ":" ":" ++ ref .type <|>
        Peg.opt (word "mut") ++ ref .simplePattern ++ Peg.opt (sign ":" ":" ++ ref .type))) ++
      sign "|" ++ (sign "->" ++ ref .type ++ ref .block <|> ref (.expression bare false))
  | .statement =>
    ref .declaration <|>
    ref .blockLike ++ (
      Peg.ahead continuation ++ Peg.plus (ref (.tail false false)) ++ statementEnd <|>
      Peg.unless continuation) <|>
    Peg.unless (wordOf declarationWords) ++ expr ++ statementEnd
  | .declaration =>
    sign ";" <|>
    ref .attributeItem <|>
    ref .innerAttributeItem <|>
    letDeclaration <|>
    ref .macroDefinition <|>
    ref .item <|>
    Peg.unless (wordOf declarationWords) ++ ref .macroCall ++ (
      Peg.ahead tailStart ++ Peg.plus (ref (.tail false false)) ++ statementEnd <|>
      Peg.unless tailStart)
  | .declarationList => openBrace ++ .star (ref .declaration) ++ closeBrace
  | .item =>
    Peg.opt (ref .visibility) ++ visibleItem <|> implementation <|> associatedType
  | .attribute => ref .segmentPath ++ Peg.opt (sign "=" ++ expr <|> ref .tokenTree)
  | .attributeItem => sign "#" ++ sign "[" ++ ref .attribute ++ sign "]"
  | .innerAttributeItem => sign "#" ++ sign "!" ++ sign "[" ++ ref .attribute ++ sign "]"
  | .visibility =>
    word "crate" ++ Peg.unless (sign "::") <|>
    word "pub" ++ Peg.opt (sign "(" ++ (wordOf ["self", "super", "crate"] <|>
      word "in" ++ ref .segmentPath) ++ sign ")")
  | .modifiers =>
    Peg.plus (wordOf ["async", "default", "const", "unsafe"] <|> externModifier)
  | .functionHead => Peg.opt (ref .modifiers) ++ word "fn" ++ signature
  | .useClause =>
    let group := openBrace ++ commaList (ref .useClause) ++ closeBrace
    let stop := sign "*" <|> group
    stop <|> sign "::" ++ stop <|>
      (ref .bracketedType ++ sign "::" ++ name <|>
        Peg.opt (sign "::") ++ (metavariable <|> name)) ++
      .star (sign "::" ++ name) ++
      Peg.opt (sign "::" ++ stop <|> word "as" ++ name)
  | .macroCall =>
    Peg.unless (sign "macro_rules!") ++ ref .path ++ sign "!" "=" ++ ref .tokenTree
  | .tokenTree => bracketed (ref .tokenTree <|> plainToken <|> sign "$")
  | .ruleTree =>
    bracketed (ref .ruleTree <|> repetition (ref .ruleTree <|> metavariable <|> plainToken) <|>
      metavariable <|> plainToken)
  | .rulePattern =>
    let part := metavariable ++ (sign ":" ":" ++ wordOf fragments <|> Peg.unless (sign ":" ":")) <|>
      plainToken
    bracketed (ref .rulePattern <|> repetition (ref .rulePattern <|> part) <|> part)
  | .macroDefinition =>
    sign "macro_rules!" ++ name ++ (
      sign "(" ++ macroRules ++ sign ")" ++ sign ";" <|>
      sign "[" ++ macroRules ++ sign "]" ++ sign ";" <|>
      openBrace ++ macroRules ++ closeBrace)

/-- Reads a part of the grammar from the start of a text and returns the rest. -/
def readSyntax (p : Syntax) (s : List Char) : Option (List Char) :=
  Peg.read Phrase.syntaxOf p s

end CrateDoc.Rust
