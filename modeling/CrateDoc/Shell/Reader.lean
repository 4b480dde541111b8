import CrateDoc.Shell.Token

/-!
# Reading shell scripts

A script is a list of commands, joined by `;`, line ends, `&&`, `||` and `|`. Every reader takes
tokens and hands back what it leaves; `fuel` bounds the depth of the reading.
-/

namespace CrateDoc.Shell

/-- The words that begin or end a part of a command. -/
def reservedWords : List String :=
  ["if", "then", "elif", "else", "fi", "while", "until", "do", "done", "for", "in", "case", "esac",
   "\x7b", "\x7d", "!"]

/-- The reserved word that a token may be. -/
def Token.reserved? : Token → Option String
  | .word [.plain text] => reservedWords.find? (·.toList == text)
  | _ => none

/-- A token in messages. -/
def Token.describe : Token → String
  | .word [.plain text] => if (Token.word [.plain text]).reserved?.isSome
      then "\x22" ++ String.ofList text ++ "\x22" else "word"
  | .word _ => "word"
  | .operator text => "\x22" ++ text ++ "\x22"
  | .newline => "newline"
  | .descriptor _ => "redirection"

/-- The fault that the next token is not wanted here. -/
def unexpected {α : Type} : List Token → Except Fault α
  | [] => .error .unexpectedEnd
  | token :: _ => .error (.unexpected token.describe)

/-- Passes over line ends. -/
def skipNewlines (ts : List Token) : List Token := ts.dropWhile (· == .newline)

/-- Passes over a reserved word, which has to be there. -/
def expect (text : String) (ts : List Token) : Except Fault (List Token) :=
  match ts with
  | token :: rest => if token.reserved? = some text then .ok rest else unexpected ts
  | [] => unexpected ts

/-- Passes over an operator, which has to be there. -/
def expectOperator (text : String) (ts : List Token) : Except Fault (List Token) :=
  match ts with
  | token :: rest => if token = .operator text then .ok rest else unexpected ts
  | [] => unexpected ts

/-- What the operator of a redirection does, with the descriptor it concerns by itself. -/
def direction? : String → Option (Direction × Nat)
  | "<" => some (.input, 0)
  | ">" | ">|" => some (.output, 1)
  | ">>" => some (.append, 1)
  | ">&" => some (.duplicate, 1)
  | "<&" => some (.duplicate, 0)
  | _ => none

/-- Reads one redirection, if one stands here. -/
def readRedirection? : List Token → Option (Redirection × List Token)
  | .operator text :: .word target :: rest =>
    (direction? text).map fun (direction, n) => (⟨n, direction, target⟩, rest)
  | .descriptor n :: .operator text :: .word target :: rest =>
    (direction? text).map fun (direction, _) => (⟨n, direction, target⟩, rest)
  | _ => none

/-- Reads the redirections behind a command; `fuel` bounds their number. -/
def readRedirections : Nat → List Token → List Redirection × List Token
  | 0, ts => ([], ts)
  | fuel + 1, ts => match readRedirection? ts with
    | some (redirection, rest) =>
      let (more, rest) := readRedirections fuel rest
      (redirection :: more, rest)
    | none => ([], ts)

/-- The assignment that a word may be. -/
def assignmentOf? : Word → Option (Octets × Word)
  | .plain text :: rest =>
    let name := text.takeWhile inName
    match text.drop name.length with
    | '=' :: value =>
      if name.isEmpty || !startsName (name.headD ' ') then none
      else some (name, if value.isEmpty then rest else .plain value :: rest)
    | _ => none
  | _ => none

/-- The parts of a simple command. -/
structure Simple where
  assignments : List (Octets × Word) := []
  words : List Word := []
  redirections : List Redirection := []

/-- Adds redirections to a command, if there are any. -/
def Command.withRedirections (c : Command) (rs : List Redirection) : Command :=
  if rs.isEmpty then c else .redirected c rs

/-- Reads a simple command; `fuel` bounds its words. -/
def readSimple : Nat → Simple → List Token → Simple × List Token
  | 0, done, ts => (done, ts)
  | fuel + 1, done, ts =>
    match readRedirection? ts, ts with
    | some (redirection, rest), _ =>
      readSimple fuel { done with redirections := done.redirections ++ [redirection] } rest
    | none, .word w :: rest =>
      match if done.words.isEmpty then assignmentOf? w else none with
      | some assignment =>
        readSimple fuel { done with assignments := done.assignments ++ [assignment] } rest
      | none => readSimple fuel { done with words := done.words ++ [w] } rest
    | none, _ => (done, ts)

/-- Reads words up to something else. -/
def readWords : List Token → List Word × List Token
  | .word w :: rest =>
    let (words, rest) := readWords rest
    (w :: words, rest)
  | ts => ([], ts)

/-- Reads the patterns of a branch. -/
def readPatterns : Nat → List Token → Except Fault (List Word × List Token)
  | 0, ts => unexpected ts
  | fuel + 1, ts =>
    match ts with
    | .word w :: .operator "|" :: rest => do
      let (words, rest) ← readPatterns fuel rest
      return (w :: words, rest)
    | .word w :: .operator ")" :: rest => .ok ([w], rest)
    | ts => unexpected ts

mutual

/-- Reads commands up to a token that cannot begin one. -/
def readList : Nat → List Token → Except Fault (List Command × List Token)
  | 0, ts => .ok ([], ts)
  | fuel + 1, ts =>
    let ts := skipNewlines ts
    match ts with
    | [] => .ok ([], [])
    | token :: _ =>
      let ends : Bool := match token.reserved? with
        | some text => text ∉ ["if", "while", "until", "for", "case", "\x7b", "!"]
        | none => token == .operator ")" || token == .operator ";;"
      if ends then .ok ([], ts)
      else do
        let (command, rest) ← readJoined fuel ts
        match rest with
        | .operator ";" :: rest | .operator "&" :: rest | .newline :: rest =>
          let (more, rest) ← readList fuel rest
          return (command :: more, rest)
        | rest => return ([command], rest)

/-- Reads pipelines joined by `&&` and `||`. -/
def readJoined : Nat → List Token → Except Fault (Command × List Token)
  | 0, ts => unexpected ts
  | fuel + 1, ts => do
    let (first, rest) ← readPipeline fuel ts
    joinTail fuel first rest

/-- Goes on behind a pipeline. -/
def joinTail : Nat → Command → List Token → Except Fault (Command × List Token)
  | 0, first, ts => .ok (first, ts)
  | fuel + 1, first, ts =>
    match ts with
    | .operator "&&" :: rest => do
      let (second, rest) ← readPipeline fuel (skipNewlines rest)
      joinTail fuel (.andThen first second) rest
    | .operator "||" :: rest => do
      let (second, rest) ← readPipeline fuel (skipNewlines rest)
      joinTail fuel (.orElse first second) rest
    | ts => .ok (first, ts)

/-- Reads commands joined by `|`. -/
def readPipeline : Nat → List Token → Except Fault (Command × List Token)
  | 0, ts => unexpected ts
  | fuel + 1, ts =>
    match ts with
    | [] => unexpected ts
    | token :: rest =>
      if token.reserved? = some "!" then do
        let (command, rest) ← readPipeline fuel rest
        return (.negated command, rest)
      else do
        let (first, rest) ← readCommand fuel ts
        let (more, rest) ← pipeTail fuel rest
        return (if more.isEmpty then first else .pipeline (first :: more), rest)

/-- Reads the further commands of a pipeline. -/
def pipeTail : Nat → List Token → Except Fault (List Command × List Token)
  | 0, ts => .ok ([], ts)
  | fuel + 1, ts =>
    match ts with
    | .operator "|" :: rest => do
      let (command, rest) ← readCommand fuel (skipNewlines rest)
      let (more, rest) ← pipeTail fuel rest
      return (command :: more, rest)
    | ts => .ok ([], ts)

/-- Reads one command with its redirections. -/
def readCommand : Nat → List Token → Except Fault (Command × List Token)
  | 0, ts => unexpected ts
  | fuel + 1, ts =>
    let finish (command : Command) (rest : List Token) : Except Fault (Command × List Token) :=
      let (redirections, rest) := readRedirections rest.length rest
      .ok (command.withRedirections redirections, rest)
    match ts with
    | .operator "(" :: rest => do
      let (body, rest) ← readList fuel rest
      finish (.subshell (.sequence body)) (← expectOperator ")" rest)
    | .word [.plain name] :: .operator "(" :: .operator ")" :: rest => do
      let (body, rest) ← readCommand fuel (skipNewlines rest)
      return (.define name body, rest)
    | token :: rest =>
      match token.reserved? with
      | some "\x7b" => do
        let (body, rest) ← readList fuel rest
        finish (.sequence body) (← expect "\x7d" rest)
      | some "if" => do
        let (command, rest) ← readBranches fuel rest
        finish command rest
      | some "while" => do
        let (command, rest) ← readLoop fuel false rest
        finish command rest
      | some "until" => do
        let (command, rest) ← readLoop fuel true rest
        finish command rest
      | some "for" => do
        let (command, rest) ← readEach fuel rest
        finish command rest
      | some "case" => match rest with
        | .word w :: rest => do
          let (branches, rest) ← readChoices fuel (skipNewlines (← expect "in" rest))
          finish (.choice w branches) rest
        | rest => unexpected rest
      | some _ => unexpected ts
      | none =>
        let (simple, rest) := readSimple ts.length {} ts
        if simple.words.isEmpty && simple.assignments.isEmpty && simple.redirections.isEmpty then
          unexpected ts
        else .ok ((Command.simple simple.assignments simple.words).withRedirections
          simple.redirections, rest)
    | [] => unexpected ts

/-- Reads a condition from behind `if` or `elif` to its end. -/
def readBranches : Nat → List Token → Except Fault (Command × List Token)
  | 0, ts => unexpected ts
  | fuel + 1, ts => do
    let (test, rest) ← readList fuel ts
    let (body, rest) ← readList fuel (← expect "then" rest)
    match rest with
    | token :: after =>
      match token.reserved? with
      | some "fi" => return (.conditional (.sequence test) (.sequence body) .nothing, after)
      | some "elif" => do
        let (otherwise, rest) ← readBranches fuel after
        return (.conditional (.sequence test) (.sequence body) otherwise, rest)
      | some "else" => do
        let (otherwise, rest) ← readList fuel after
        return (.conditional (.sequence test) (.sequence body) (.sequence otherwise),
          ← expect "fi" rest)
      | _ => unexpected rest
    | [] => unexpected rest

/-- Reads a loop from behind `while` or `until`. -/
def readLoop : Nat → Bool → List Token → Except Fault (Command × List Token)
  | 0, _, ts => unexpected ts
  | fuel + 1, reversed, ts => do
    let (test, rest) ← readList fuel ts
    let (body, rest) ← readList fuel (← expect "do" rest)
    return (.loop reversed (.sequence test) (.sequence body), ← expect "done" rest)

/-- Reads a loop over words from behind `for`. -/
def readEach : Nat → List Token → Except Fault (Command × List Token)
  | 0, ts => unexpected ts
  | fuel + 1, ts =>
    match ts with
    | .word [.plain name] :: rest => do
      let rest := skipNewlines rest
      let (words, rest) : Option (List Word) × List Token :=
        match rest with
        | .word [.plain ['i', 'n']] :: rest =>
          let (words, rest) := readWords rest
          (some words, rest)
        | rest => (none, rest)
      let rest := match rest with
        | .operator ";" :: rest => rest
        | rest => rest
      let (body, rest) ← readList fuel (← expect "do" (skipNewlines rest))
      return (.each name words (.sequence body), ← expect "done" rest)
    | ts => unexpected ts

/-- Reads the branches of a choice and its end. -/
def readChoices : Nat → List Token → Except Fault (List (List Word × Command) × List Token)
  | 0, ts => unexpected ts
  | fuel + 1, ts =>
    match ts with
    | [] => unexpected ts
    | token :: rest =>
      if token.reserved? = some "esac" then .ok ([], rest)
      else do
        let ts := match ts with
          | .operator "(" :: rest => rest
          | ts => ts
        let (patterns, rest) ← readPatterns fuel ts
        let (body, rest) ← readList fuel rest
        let rest := match rest with
          | .operator ";;" :: rest => skipNewlines rest
          | rest => rest
        let (more, rest) ← readChoices fuel rest
        return ((patterns, .sequence body) :: more, rest)

end

/-- Reads a script. -/
def Command.ofScript (script : Octets) : Except Fault Command := do
  let ts ← tokens script
  let (commands, rest) ← readList (8 * ts.length + 8) ts
  if rest.isEmpty then return .sequence commands else unexpected rest

end CrateDoc.Shell
