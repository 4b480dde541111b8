import CrateDoc.FileTree
import CrateDoc.Shell.Format
import CrateDoc.Shell.Reader

/-!
# The state of a shell

Variables, files and descriptors of a running script. Whatever is written goes to numbered
buffers: the first is standard output, the second standard error, and every command substitution
opens another.
-/

namespace CrateDoc.Shell

/-- What a descriptor leads to. -/
inductive Target
  | buffer (index : Nat)
  | file (place : Path)
  | nothing

/-- A running script. -/
structure State where
  /-- The name under which the shell runs. -/
  name : Octets
  arguments : List Octets := []
  bindings : Entries Octets Octets := []
  functions : Entries Octets Command := []
  /-- What is to be done at signals and at the end. -/
  traps : Entries Octets Octets := []
  status : Nat := 0
  directory : Path
  tree : FileTree
  /-- The texts written to each buffer, the latest first. -/
  buffers : List (List Octets) := [[], []]
  descriptors : Entries Nat Target := [(1, .buffer 0), (2, .buffer 1)]
  input : Octets := []
  /-- Whether a failing command ends the script. -/
  strict : Bool := false
  /-- Whether a failure is looked at anyway. -/
  tested : Bool := false

/-- How the next command is found. -/
inductive Flow
  | next
  | exit
  | signal (n : Nat)
  /-- Leaves a number of loops. -/
  | leave (loops : Nat)
  /-- Goes on with the next round of an outer loop. -/
  | again (loops : Nat)
  | back
deriving DecidableEq

/-- A text as octets. -/
def octetsOf (s : String) : Octets :=
  (Text.Utf8.encode s.toList).map fun b => Char.ofNat b.toNat

/-- Octets as bytes. -/
def bytesOf (s : Octets) : List UInt8 := s.map fun c => UInt8.ofNat c.toNat

/-- Octets as a text. -/
def textOf (s : Octets) : String := String.ofList (Text.Utf8.decodeLossy (bytesOf s))

namespace State

/-- What was written to a buffer. -/
def written (s : State) (index : Nat) : Octets := (s.buffers[index]?.getD []).reverse.flatten

/-- Writes to a descriptor; what leads nowhere is lost. -/
def write (descriptor : Nat) (text : Octets) (s : State) : State :=
  match Entries.get? descriptor s.descriptors with
  | some (.buffer index) =>
    { s with buffers := s.buffers.modify index (text :: ·) }
  | some (.file place) => match s.tree.append place (bytesOf text) with
    | .ok tree => { s with tree := tree }
    | .error _ => s
  | some .nothing | none => s

/-- Ends a command with a status. -/
def done (status : Nat) (s : State) : State := { s with status := status }

/-- Reports a failure of the shell itself. -/
def complain (message : String) (status : Nat) (s : State) : State :=
  ((s.write 2 (s.name ++ octetsOf (": 1: " ++ message ++ "\n"))).done status)

/-- The number under which the shell runs. -/
def processId : Octets := "4711".toList

/-- The value of a parameter. -/
def value? (s : State) (name : Octets) : Option Octets :=
  match name with
  | ['#'] => some (toString s.arguments.length).toList
  | ['?'] => some (toString s.status).toList
  | ['$'] => some processId
  | ['-'] => some []
  | ['@'] | ['*'] => if s.arguments.isEmpty then none else some (joinWords s.arguments)
  | ['0'] => some s.name
  | c :: _ =>
    if Text.isAsciiDigit c then s.arguments[Text.readDigits 10 name - 1]?
    else if name = "PWD".toList then some (octetsOf s.directory.toString)
    else Entries.get? name s.bindings
  | [] => none

/-- Sets a variable. -/
def assign (name value : Octets) (s : State) : State :=
  { s with bindings := Entries.put name value s.bindings }

/-- The place of a file. -/
def place (s : State) (file : Octets) : Path := s.directory / textOf file

/-- A copy of a shell: what it changes of itself is forgotten, what it did stays. -/
def afterCopy (outer inner : State) : State :=
  { outer with status := inner.status, tree := inner.tree, buffers := inner.buffers
               input := inner.input }

end State

/-! ### Words into fields -/

/-- A part of an expanded word. -/
inductive Part
  /-- Stays as it is. -/
  | fixed (text : Octets)
  /-- Is split at white space. -/
  | loose (text : Octets)
  /-- Ends a field. -/
  | gap

/-- Puts parts together to fields. `current` is the field that is being put together. -/
def fieldsWith : Option Octets → List Part → List Octets
  | current, [] => current.toList
  | current, .fixed text :: rest => fieldsWith (some (current.getD [] ++ text)) rest
  | current, .gap :: rest => current.toList ++ fieldsWith none rest
  | current, .loose text :: rest =>
    let (done, current) := text.foldl (fun (done, current) c =>
      if c = ' ' || c = '\t' || c = '\n' then (done ++ Option.toList current, none)
      else (done, some (Option.getD current [] ++ [c]))) (([] : List Octets), current)
    done ++ fieldsWith current rest

/-- The fields of parts. -/
def fields (parts : List Part) : List Octets := fieldsWith none parts

/-- Parts as a single text, as in an assignment. -/
def oneText : List Part → Octets
  | [] => []
  | .fixed text :: rest => text ++ oneText rest
  | .loose text :: rest => text ++ oneText rest
  | .gap :: rest => ' ' :: oneText rest

/-- Whether a text is of a pattern, in which a star stands for any text and a question mark for a
character; `fuel` bounds the length of both. -/
def fitsPattern : Nat → Octets → Octets → Bool
  | 0, _, _ => false
  | fuel + 1, pattern, text =>
    match pattern, text with
    | [], [] => true
    | '*' :: rest, [] => fitsPattern fuel rest []
    | '*' :: rest, c :: more =>
      fitsPattern fuel rest (c :: more) || fitsPattern fuel ('*' :: rest) more
    | '?' :: rest, _ :: more => fitsPattern fuel rest more
    | p :: rest, c :: more => p = c && fitsPattern fuel rest more
    | _, _ => false

/-! ### Conditions -/

/-- The result of a test of two values. -/
def testPair (a operator b : Octets) : Bool :=
  match String.ofList operator with
  | "=" | "==" => a = b
  | "!=" => a != b
  | "-eq" => numberOf a = numberOf b
  | "-ne" => numberOf a != numberOf b
  | "-lt" => numberOf a < numberOf b
  | "-le" => numberOf a ≤ numberOf b
  | "-gt" => numberOf b < numberOf a
  | "-ge" => numberOf b ≤ numberOf a
  | _ => false

/-- The result of a test of one value. -/
def testSingle (s : State) (operator a : Octets) : Bool :=
  match String.ofList operator with
  | "-n" => !a.isEmpty
  | "-z" => a.isEmpty
  | "-e" | "-r" | "-w" => s.tree.has (s.place a)
  | "-f" => s.tree.isFile (s.place a)
  | "-d" | "-x" => s.tree.isDirectory (s.place a)
  | "-s" => match s.tree.read (s.place a) with
    | .ok bytes => !bytes.isEmpty
    | .error _ => false
  | _ => false

/-- The result of a test; `fuel` bounds the number of its words. -/
def testWith (s : State) : Nat → List Octets → Bool
  | 0, _ => false
  | fuel + 1, words =>
    match words with
    | [] => false
    | [a] => !a.isEmpty
    | [a, b] => if a = ['!'] then b.isEmpty else testSingle s a b
    | [a, b, c] =>
      if b = "-a".toList then !a.isEmpty && !c.isEmpty
      else if b = "-o".toList then !a.isEmpty || !c.isEmpty
      else if a = ['!'] then !testWith s fuel [b, c]
      else testPair a b c
    | a :: rest =>
      let before (mark : String) : List Octets := words.takeWhile (· ≠ mark.toList)
      let after (mark : String) : List Octets := (words.dropWhile (· ≠ mark.toList)).drop 1
      if words.contains "-o".toList then
        testWith s fuel (before "-o") || testWith s fuel (after "-o")
      else if words.contains "-a".toList then
        testWith s fuel (before "-a") && testWith s fuel (after "-a")
      else if a = ['!'] then !testWith s fuel rest
      else false

/-! ### Signals -/

/-- The signals by their names. -/
def signals : List (String × Nat) :=
  [("HUP", 1), ("INT", 2), ("QUIT", 3), ("ILL", 4), ("TRAP", 5), ("ABRT", 6), ("BUS", 7),
   ("FPE", 8), ("KILL", 9), ("USR1", 10), ("SEGV", 11), ("USR2", 12), ("PIPE", 13), ("ALRM", 14),
   ("TERM", 15), ("CHLD", 17), ("CONT", 18), ("URG", 23), ("WINCH", 28)]

/-- The signals that do nothing to a process that does not wait for them. -/
def harmless : List Nat := [0, 17, 18, 23, 28]

/-- The signal of a name or a number. -/
def signalOf? (text : Octets) : Option Nat :=
  let name := if "SIG".toList.isPrefixOf text then text.drop 3 else text
  ((signals.find? (·.1.toList == name)).map (·.2)).or (String.ofList text).toNat?

/-- The signal that the arguments of `kill` name, if they name the shell itself. -/
def killedBy? : List Octets → Option Nat
  | ['-', 's'] :: name :: [pid] => if pid = State.processId then signalOf? name else none
  | ('-' :: name) :: [pid] => if pid = State.processId then signalOf? name else none
  | [pid] => if pid = State.processId then some 15 else none
  | _ => none

end CrateDoc.Shell
