import CrateDoc.Shell.State

/-!
# Commands that need no script

The commands that a shell brings along and the small programs that scripts use, as far as they
run no other command.
-/

namespace CrateDoc.Shell

namespace State

/-- Prints a text and succeeds. -/
def print (text : Octets) (s : State) : State × Flow := ((s.write 1 text).done 0, .next)

/-- Succeeds or fails. -/
def answer (b : Bool) (s : State) : State × Flow := (s.done (if b then 0 else 1), .next)

/-- The status that an argument names, or else the last one. -/
def statusOf (s : State) (arguments : List Octets) : Nat :=
  match arguments with
  | [] => s.status
  | a :: _ => (numberOf a % 256).toNat

/-- The number of loops that an argument names. -/
def loopsOf (arguments : List Octets) : Nat :=
  match arguments with
  | [] => 1
  | a :: _ => (numberOf a).toNat

/-- Splits a line among variables: each gets a word, the last all that remains. -/
def share : List Octets → Octets → State → State
  | [], _, s => s
  | [name], line, s => s.assign name (Text.trim (fun c => c = ' ' || c = '\t') line)
  | name :: rest, line, s =>
    let line := line.dropWhile fun c => c = ' ' || c = '\t'
    let word := line.takeWhile fun c => !(c = ' ' || c = '\t')
    share rest (line.drop word.length) (s.assign name word)

/-- Reads a line of the input into variables. -/
def readLine (names : List Octets) (s : State) : State × Flow :=
  let line := s.input.takeWhile (· ≠ '\n')
  let rest := s.input.drop line.length
  let s := { share names line s with input := rest.drop 1 }
  s.answer !rest.isEmpty

/-- Sets variables by words of the form `name=value`. -/
def assignAll (words : List Octets) (s : State) : State :=
  words.foldl (fun s word => match Text.cutAt? ['='] word with
    | some (name, value) => s.assign name value
    | none => s) s

/-- Takes note of what is to be done at signals and at the end. -/
def trap (words : List Octets) (s : State) : State :=
  match words with
  | ['-'] :: names => { s with traps := s.traps.filter fun t => !names.contains t.1 }
  | action :: names =>
    { s with traps := names.foldl (fun traps name => Entries.put name action traps) s.traps }
  | [] => s

/-- Changes the directory. -/
def changeDirectory (target : Octets) (s : State) : State × Flow :=
  let place := s.place target
  if s.tree.isDirectory place then
    ({ s with directory := Path.resolve s.directory (Path.ofString (textOf target)) }.done 0, .next)
  else (s.complain ("cd: can't cd to " ++ textOf target) 2, .next)

/-- The texts of files, one after the other, or of the input. -/
def concatenate (files : List Octets) (s : State) : State × Flow :=
  if files.isEmpty then ({ s with input := [] }.print s.input)
  else
    let s := files.foldl (fun s file =>
      if file = ['-'] then { s with input := [] }.write 1 s.input
      else match s.tree.read (s.place file) with
        | .ok bytes => s.write 1 (bytes.map fun b => Char.ofNat b.toNat)
        | .error _ => (s.write 2 (octetsOf ("cat: " ++ textOf file ++
            ": No such file or directory\n"))).done 1) (s.done 0)
    (s, .next)

/-- The numbers from one to another, each on a line. -/
def sequence (first last : Int) : Octets :=
  (List.range (last - first + 1).toNat).flatMap fun (n : Nat) =>
    (toString (first + (n : Int))).toList ++ ['\n']

/-- Drops the first arguments of a script. -/
def shift (n : Nat) (s : State) : State := { s with arguments := s.arguments.drop n }

/-- Forgets variables. -/
def unset (names : List Octets) (s : State) : State :=
  { s with bindings := s.bindings.filter fun v => !names.contains v.1 }

/-- Sets the arguments or the strictness of a script. -/
def configure (words : List Octets) (s : State) : State :=
  match words with
  | ['-', '-'] :: arguments => { s with arguments := arguments }
  | ['-', 'e'] :: _ => { s with strict := true }
  | ['+', 'e'] :: _ => { s with strict := false }
  | ('-' :: flags) :: _ => { s with strict := s.strict || flags.contains 'e' }
  | [] => s
  | arguments => { s with arguments := arguments }

end State

/-- Runs a command that needs no script, if it is one. -/
def builtin? (name : Octets) (arguments : List Octets) (s : State) : Option (State × Flow) :=
  match String.ofList name with
  | ":" | "true" => some (s.answer true)
  | "false" => some (s.answer false)
  | "echo" => some (s.print (echoText arguments))
  | "printf" => match arguments with
    | ['-', '-'] :: format :: rest => some (s.print (formatted format rest))
    | format :: rest => some (s.print (formatted format rest))
    | [] => some (s.complain "printf: usage: printf format [arg ...]" 2, .next)
  | "exit" => some (s.done (s.statusOf arguments), .exit)
  | "return" => some (s.done (s.statusOf arguments), .back)
  | "break" => some (s.done 0, .leave (State.loopsOf arguments))
  | "continue" => some (s.done 0, .again (State.loopsOf arguments))
  | "read" => some (s.readLine (arguments.filter (·.head? ≠ some '-')))
  | "pwd" => some (s.print (octetsOf s.directory.toString ++ ['\n']))
  | "cd" => some (s.changeDirectory (arguments.headD []))
  | "test" => some (s.answer (testWith s (arguments.length + 1) arguments))
  | "[" => some (s.answer (testWith s arguments.length arguments.dropLast))
  | "set" => some ((s.configure arguments).done 0, .next)
  | "shift" => some ((s.shift (State.loopsOf arguments)).done 0, .next)
  | "export" | "local" | "readonly" => some ((s.assignAll arguments).done 0, .next)
  | "unset" => some ((s.unset arguments).done 0, .next)
  | "trap" => some ((s.trap arguments).done 0, .next)
  | "wait" | "sleep" | "umask" | "sync" => some (s.done 0, .next)
  | "cat" => some (s.concatenate arguments)
  | "env" => if arguments.isEmpty then
      some (s.print (s.bindings.flatMap fun (n, v) => n ++ '=' :: v ++ ['\n'])) else none
  | "printenv" => match arguments with
    | [] => some (s.print (s.bindings.flatMap fun (n, v) => n ++ '=' :: v ++ ['\n']))
    | n :: _ => match s.value? n with
      | some v => some (s.print (v ++ ['\n']))
      | none => some (s.answer false)
  | "seq" => match arguments.map numberOf with
    | [last] => some (s.print (State.sequence 1 last))
    | first :: last :: _ => some (s.print (State.sequence first last))
    | [] => none
  | _ => none

end CrateDoc.Shell
