import CrateDoc.Markdown.Element
import CrateDoc.Text.Word

/-!
# Emphasis

Text between asterisks or underscores is emphasised: one mark makes `em`, two make `strong`, and
three both, in several arrangements. Asterisks work within words; of underscores, single and
double ones do not.

An *arrangement* (`Arrangement`) says how the marks stand and which elements result. They are
tried in order; inside emphasised text only those that come later in the order are tried.
-/

namespace CrateDoc.Markdown

open CrateDoc.Text

/-- Reads on, one character at least if `some_` is set, up to the first place at which `close?`
succeeds: the text before it and what is behind it. `last` is the character before the text. -/
def readUntil? (some_ : Bool) (close? : Option Char → List Char → Option (List Char)) :
    Option Char → List Char → Option (List Char × List Char)
  | last, [] => if some_ then none else (close? last []).map fun rest => ([], rest)
  | last, c :: s =>
    match (if some_ then none else close? last (c :: s)) with
    | some rest => some ([], rest)
    | none => (readUntil? false close? (some c) s).map fun (text, rest) => (c :: text, rest)

/-- Reads a run of exactly these marks, whatever follows. -/
def marks? (mark : Char) (count : Nat) (s : List Char) : Option (List Char) :=
  if (List.replicate count mark).isPrefixOf s then some (s.drop count) else none

/-- How the marks of emphasised text stand. -/
inductive Arrangement
  /-- Three marks, then one, then two: `em` in `strong`. -/
  | emInStrong
  /-- Three marks, then two, then one: `strong` in `em`. -/
  | strongInEm
  /-- Two marks, then one, then three: `em` at the end of `strong`. -/
  | strongThenEm
  /-- Two marks on either side. -/
  | strong
  /-- One mark on either side. -/
  | em
  deriving DecidableEq

namespace Arrangement

/-- The arrangements in the order in which they are tried. -/
def all : List Arrangement := [emInStrong, strongInEm, strongThenEm, strong, em]

/-- The arrangements that are tried inside the text of one. -/
def inside : Arrangement → List Arrangement
  | emInStrong => [strongInEm, strongThenEm, strong, em]
  | strongInEm => [strongThenEm, strong, em]
  | strongThenEm => [strong, em]
  | strong => [em]
  | em => []

/-- The outer and, if there are two, the inner element. -/
def tags : Arrangement → String × Option String
  | emInStrong => ("strong", some "em")
  | strongInEm => ("em", some "strong")
  | strongThenEm => ("strong", some "em")
  | strong => ("strong", none)
  | em => ("em", none)

/-- Whether a character is part of a word; the edge of a text is not. -/
def inWord (c : Option Char) : Bool := (c.map isWord).getD false

/-- Reads asterisks: the texts between them, and what is behind them. -/
def readAsterisks? (s : List Char) : Arrangement → Option (List Char × List Char × List Char)
  | emInStrong => do
    let (first, rest) ← readUntil? true (fun _ => marks? '*' 1) none (← marks? '*' 3 s)
    let (second, rest) ← readUntil? false (fun _ => marks? '*' 2) none rest
    return (first, second, rest)
  | strongInEm => do
    let (first, rest) ← readUntil? true (fun _ => marks? '*' 2) none (← marks? '*' 3 s)
    let (second, rest) ← readUntil? false (fun _ => marks? '*' 1) none rest
    return (first, second, rest)
  | strongThenEm => do
    let body ← marks? '*' 2 s
    let first := body.takeWhile (· ≠ '*')
    let rest ← marks? '*' 1 (body.drop first.length)
    if first.isEmpty || rest.head? = some '*' then none
    else
      let (second, rest) ← readUntil? true (fun _ => marks? '*' 3) none rest
      return (first, second, rest)
  | strong => do
    let (first, rest) ← readUntil? true (fun _ => marks? '*' 2) none (← marks? '*' 2 s)
    return (first, [], rest)
  | em => do
    let body ← marks? '*' 1 s
    let first := body.takeWhile (· ≠ '*')
    if first.isEmpty then none
    else return (first, [], ← marks? '*' 1 (body.drop first.length))

/-- Reads the marks that close a run, if no word goes on behind them. -/
def closeWord? (count : Nat) (s : List Char) : Option (List Char) :=
  (marks? '_' count s).filter fun rest => !inWord rest.head?

/-- The same, if no other mark stands before them. -/
def closeAlone? (count : Nat) (last : Option Char) (s : List Char) : Option (List Char) :=
  if last = some '_' then none else closeWord? count s

/-- Reads underscores: the texts between them, and what is behind them. -/
def readUnderscores? (last : Option Char) (s : List Char) :
    Arrangement → Option (List Char × List Char × List Char)
  | emInStrong => do
    let (first, rest) ← readUntil? true (fun _ => marks? '_' 1) none (← marks? '_' 3 s)
    let (second, rest) ← readUntil? false (fun _ => marks? '_' 2) none rest
    return (first, second, rest)
  | strongInEm => do
    let (first, rest) ← readUntil? true (fun _ => marks? '_' 2) none (← marks? '_' 3 s)
    let (second, rest) ← readUntil? false (fun _ => marks? '_' 1) none rest
    return (first, second, rest)
  | strongThenEm => do
    let body ← marks? '_' 2 s
    if inWord last || body.head? = some '_' then none
    else
      let single (last : Option Char) (s : List Char) : Option (List Char) :=
        if inWord last then none else (marks? '_' 1 s).filter fun rest => rest.head? ≠ some '_'
      let (first, rest) ← readUntil? true single none body
      let (second, rest) ← readUntil? true (fun _ => closeWord? 3) none rest
      return (first, second, rest)
  | strong => do
    let body ← marks? '_' 2 s
    if inWord last || body.head? = some '_' then none
    else
      let (first, rest) ← readUntil? true (closeAlone? 2) none body
      return (first, [], rest)
  | em => do
    let body ← marks? '_' 1 s
    if inWord last || body.head? = some '_' then none
    else
      let (first, rest) ← readUntil? true (closeAlone? 1) none body
      return (first, [], rest)

/-- Reads marks of one kind: the texts between them, and what is behind them. `last` is the
character before them. -/
def read? (mark : Char) (last : Option Char) (s : List Char) (a : Arrangement) :
    Option (List Char × List Char × List Char) :=
  if mark = '_' then readUnderscores? last s a else readAsterisks? s a

end Arrangement

/-- A part of emphasised text: a character or an element. -/
inductive Fragment
  | char (c : Char)
  | element (e : Element)

/-- The text before the first element, and the elements, each with the text behind it. -/
def gather : List Fragment → List Char × List Element
  | [] => ([], [])
  | .char c :: rest => (c :: (gather rest).1, (gather rest).2)
  | .element e :: rest => ([], e.withTail ⟨(gather rest).1, false⟩ :: (gather rest).2)

/-- The elements that an arrangement makes of its texts, which `inner` reads. -/
def Arrangement.build (a : Arrangement) (inner : List Char → List Char × List Element)
    (first second : List Char) : Element :=
  let (text, children) := inner first
  match a, a.tags with
  | _, (outer, none) => .node outer ⟨text, false⟩ children {}
  | .strongThenEm, (outer, some tag) =>
    let (innerText, grandchildren) := inner second
    .node outer ⟨text, false⟩ (children ++ [.node tag ⟨innerText, false⟩ grandchildren {}]) {}
  | _, (outer, some tag) =>
    let (behind, more) := inner second
    .node outer {} (.node tag ⟨text, false⟩ children ⟨behind, false⟩ :: more) {}

/-- Reads the emphasis at the start of a text by the first arrangement that fits, and then by
each of the later ones in turn: the elements, the last character read and what is behind. -/
def emphasised (mark : Char) (inner : Arrangement → List Char → List Char × List Element) :
    List Arrangement → Option Char → List Char → List Element × Option Char × List Char
  | [], last, s => ([], last, s)
  | a :: more, last, s =>
    match a.read? mark last s with
    | some (first, second, rest) =>
      let (elements, last, rest) := emphasised mark inner more (some mark) rest
      (a.build (inner a) first second :: elements, last, rest)
    | none => emphasised mark inner more last s

/-- Reads text that may hold emphasis by some arrangements; `fuel` bounds the number of steps on
any path. -/
def fragments (mark : Char) :
    Nat → List Arrangement → Option Char → List Char → List Fragment
  | 0, _, _, s => s.map .char
  | _ + 1, _, _, [] => []
  | fuel + 1, arrangements, last, c :: s =>
    if c = mark then
      let inner (a : Arrangement) (text : List Char) :=
        gather (fragments mark fuel a.inside none text)
      match emphasised mark inner arrangements last (c :: s) with
      | ([], _, _) => .char c :: fragments mark fuel arrangements (some c) s
      | (elements, last, rest) =>
        elements.map .element ++ fragments mark fuel arrangements last rest
    else .char c :: fragments mark fuel arrangements (some c) s

/-- Reads the emphasis at the start of a text: its element and what is behind it. -/
def emphasis? (mark : Char) (last : Option Char) (s : List Char) : Option (Element × List Char) :=
  Arrangement.all.findSome? fun a => (a.read? mark last s).map fun (first, second, rest) =>
    (a.build (fun text => gather (fragments mark s.length a.inside none text)) first second, rest)

end CrateDoc.Markdown
