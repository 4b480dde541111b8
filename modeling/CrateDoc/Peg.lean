/-!
# Parsing expression grammars

A grammar is a value: an expression over lexemes and the names of rules, with ordered choice. One
function, `run`, reads a text by such an expression and returns what is left of the text. Choice
is ordered and repetition is greedy, so there is at most one way to read a text.

`run` counts the steps that it may still take downwards; `Peg.read` starts it with a number that
grows with the text, and a grammar whose rules consume at least one character in every cycle does
not use it up.
-/

namespace CrateDoc

/-- A parsing expression over the rule names `ν`. -/
inductive Peg (ν : Type)
  /-- Splits something off the front of the text, or fails. -/
  | lexeme (scan : List Char → Option (List Char))
  | rule (name : ν)
  | seq (p q : Peg ν)
  | either (p q : Peg ν)
  | star (p : Peg ν)
  /-- Succeeds without reading when `p` fails. -/
  | unless (p : Peg ν)

namespace Peg

variable {ν : Type}

instance : Append (Peg ν) := ⟨.seq⟩

instance : OrElse (Peg ν) := ⟨fun p q => .either p (q ())⟩

/-- Reads nothing. -/
def empty : Peg ν := .lexeme some

/-- Reads `p` if it is there. -/
def opt (p : Peg ν) : Peg ν := .either p empty

/-- Reads `p` at least once. -/
def plus (p : Peg ν) : Peg ν := p ++ .star p

/-- Succeeds without reading when `p` succeeds. -/
def ahead (p : Peg ν) : Peg ν := .unless (.unless p)

/-- Reads `p` at least once, with `mark` between the occurrences. -/
def sepBy1 (mark p : Peg ν) : Peg ν := p ++ .star (mark ++ p)

/-- Reads any number of `p` with `mark` between them and perhaps one at the end. -/
def listOf (mark p : Peg ν) : Peg ν := opt (sepBy1 mark p) ++ opt mark

/-- The first of several expressions that can be read. -/
def oneOf : List (Peg ν) → Peg ν
  | [] => .lexeme fun _ => none
  | [p] => p
  | p :: rest => .either p (oneOf rest)

/-- Reads the start of a text by an expression and returns the rest of the text. The number
bounds the depth of the run. -/
def run (rules : ν → Peg ν) : Nat → Peg ν → List Char → Option (List Char)
  | 0, _, _ => none
  | _ + 1, .lexeme scan, s => scan s
  | n + 1, .rule name, s => run rules n (rules name) s
  | n + 1, .seq p q, s =>
    match run rules n p s with
    | some rest => run rules n q rest
    | none => none
  | n + 1, .either p q, s =>
    match run rules n p s with
    | some rest => some rest
    | none => run rules n q s
  | n + 1, .star p, s =>
    match run rules n p s with
    | some rest => run rules n (.star p) rest
    | none => some s
  | n + 1, .unless p, s =>
    match run rules n p s with
    | some _ => none
    | none => some s

/-- Reads the start of a text by an expression and returns the rest of the text. -/
def read (rules : ν → Peg ν) (p : Peg ν) (s : List Char) : Option (List Char) :=
  run rules (100 * s.length + 1000) p s

end Peg

end CrateDoc
