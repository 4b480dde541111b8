import CrateDoc.CommandLine.Help
import CrateDoc.Entries
import CrateDoc.Text.Digit
import CrateDoc.Text.Quoted

/-!
# Reading command lines

Arguments are classified first, each on its own: words, names of parameters (with a value behind
`=` or, for a short name, right behind it), and whatever looks like a name and is none. After `--`
all arguments are words. Long names may be shortened as long as one parameter remains.

Then they are read from the left. Short names without values may be joined behind one dash. The
first word is the command, if one is expected, and all that follows belongs to it; any other word
and every unknown name is left over.
-/

namespace CrateDoc.CommandLine

/-- Why a command line is refused. -/
inductive Refusal
  /-- A shortened name fits several parameters. -/
  | ambiguous (argument : String) (fits : List String)
  | missingValue (p : Parameter)
  /-- A parameter that takes nothing was given a value. -/
  | superfluousValue (p : Parameter) (value : String)
  | noNumber (p : Parameter) (value : String)
  /-- A parameter is excluded by one that stands before it. -/
  | excluded (p earlier : Parameter)
  | unknownCommand (name : String) (known : List String)
  | noCommand
  | leftOver (arguments : List String)
deriving DecidableEq

/-- The refusal in words. -/
def Refusal.message : Refusal → String
  | ambiguous argument fits =>
    "ambiguous option: " ++ argument ++ " could match " ++ String.intercalate ", " fits
  | missingValue p => "argument " ++ p.title ++ ": expected one argument"
  | superfluousValue p value =>
    "argument " ++ p.title ++ ": ignored explicit argument " ++ Text.quote value
  | noNumber p value => "argument " ++ p.title ++ ": invalid int value: " ++ Text.quote value
  | excluded p earlier =>
    "argument " ++ p.title ++ ": not allowed with argument " ++ earlier.title
  | unknownCommand name known =>
    "argument command: invalid choice: " ++ Text.quote name ++ " (choose from " ++
      String.intercalate ", " (known.map Text.quote) ++ ")"
  | noCommand => "the following arguments are required: command"
  | leftOver arguments => "unrecognized arguments: " ++ String.intercalate " " arguments

/-- Why reading a command line ends early. -/
inductive Stop
  | help (g : Grammar)
  | refused (g : Grammar) (why : Refusal)

/-! ### Classes of arguments -/

/-- A value in the same argument as the name of its parameter. -/
structure Attached where
  /-- Whether it stands behind `=`. -/
  assigned : Bool
  value : List Char
deriving DecidableEq

/-- What an argument is. -/
inductive Token
  | word
  | separator
  /-- A parameter under a name. -/
  | parameter (p : Parameter) (name : String) (attached : Option Attached)
  /-- Looks like a name but is none. -/
  | unknown
deriving DecidableEq

/-- Cuts a text at the first `=`. -/
def assignment? (s : List Char) : Option (List Char × List Char) := Text.cutAt? ['='] s

/-- Whether an argument is a negative number: digits after a dash, perhaps with a point among
them, and perhaps a line end. -/
def isNegativeNumber (s : List Char) : Bool :=
  let isDigit (c : Char) : Bool := (Text.digitValue? c).isSome
  match s with
  | '-' :: rest =>
    let body := if rest.getLast? = some '\n' then rest.dropLast else rest
    match body.dropWhile isDigit with
    | [] => !body.isEmpty
    | '.' :: decimals => !decimals.isEmpty && decimals.all isDigit
    | _ => false
  | _ => false

namespace Grammar

/-- The parameters that an argument with a dash may stand for, if it is no full name. -/
def fits (g : Grammar) (s : List Char) : List (Parameter × String × Option Attached) :=
  match s with
  | '-' :: '-' :: _ =>
    let (start, attached) : List Char × Option Attached := match assignment? s with
      | some (start, value) => (start, some ⟨true, value⟩)
      | none => (s, none)
    g.names.filterMap fun (name, p) =>
      if start.isPrefixOf name.toList then some (p, name, attached) else none
  | _ =>
    g.names.filterMap fun (name, p) =>
      if name.toList = s.take 2 then some (p, name, some ⟨false, s.drop 2⟩)
      else if s.isPrefixOf name.toList then some (p, name, none)
      else none

/-- The class of an argument. -/
def classify (g : Grammar) (argument : String) : Except Refusal Token :=
  let s := argument.toList
  if s.head? ≠ some '-' then .ok .word
  else match g.named? argument with
    | some p => .ok (.parameter p argument none)
    | none =>
      if s.length = 1 then .ok .word
      else
        let whole : Option Token := do
          let (name, value) ← assignment? s
          let p ← g.named? (String.ofList name)
          return .parameter p (String.ofList name) (some ⟨true, value⟩)
        match whole, g.fits s with
        | some token, _ => .ok token
        | none, [(p, name, attached)] => .ok (.parameter p name attached)
        | none, [] => .ok (if isNegativeNumber s || s.contains ' ' then .word else .unknown)
        | none, several => .error (.ambiguous argument (several.map (·.2.1)))

/-- The classes of all arguments. -/
def classifyAll (g : Grammar) : List String → Except Refusal (List (Token × String))
  | [] => .ok []
  | argument :: rest =>
    if argument = "--" then .ok ((.separator, argument) :: rest.map (.word, ·))
    else do
      let token ← g.classify argument
      return (token, argument) :: (← g.classifyAll rest)

end Grammar

/-! ### Values -/

/-- The value of a parameter. -/
inductive Setting
  | present
  | text (s : String)
  | number (n : Int)
deriving DecidableEq

/-- What has been read. -/
structure Reading where
  /-- The values by the keys of their parameters. -/
  settings : Entries String Setting := []
  /-- The parameters that were met, the latest first. -/
  met : List Parameter := []
  /-- Arguments that belong to nothing. -/
  leftOver : List String := []
  /-- The command and the arguments that follow it. -/
  command : Option (String × List String) := none

/-- Takes account of a parameter, with the value it was given. -/
def Reading.take (g : Grammar) (r : Reading) (p : Parameter) (value : String) :
    Except Stop Reading := do
  let setting ← match p.takes with
    | .help => pure Setting.present
    | .nothing => pure Setting.present
    | .text _ => pure (Setting.text value)
    | .number _ => match Text.readInt? value.toList with
      | some n => pure (Setting.number n)
      | none => throw (.refused g (.noNumber p value))
  match g.parameters.find? fun q => g.excludes p q && r.met.contains q with
  | some earlier => throw (.refused g (.excluded p earlier))
  | none => pure ()
  if p.takes = .help then throw (.help g)
  return { r with settings := Entries.put p.key setting r.settings, met := p :: r.met }

/-- What one argument with names of parameters stands for. -/
structure Cluster where
  /-- The parameters and their values, in order. -/
  uses : List (Parameter × String)
  /-- Whether the last value is the next argument. -/
  usesNext : Bool := false
  /-- A part of the argument that belongs to nothing. -/
  leftOver : Option String := none

/-- Puts a parameter before a cluster. -/
def Cluster.after (p : Parameter) (c : Cluster) : Cluster := { c with uses := (p, "") :: c.uses }

/-- Reads an argument with names of parameters, given the next argument if that is a word. Behind
a short name that takes nothing another short name may follow. -/
def Cluster.read (g : Grammar) (next : Option String) (p : Parameter) (short : Bool) :
    Option Attached → Except Refusal Cluster
  | none =>
    if p.takes.shown?.isNone then .ok ⟨[(p, "")], false, none⟩
    else match next with
      | some value => .ok ⟨[(p, value)], true, none⟩
      | none => .error (.missingValue p)
  | some ⟨assigned, value⟩ =>
    if p.takes.shown?.isSome then .ok ⟨[(p, String.ofList value)], false, none⟩
    else match value with
      | [] => .error (.superfluousValue p "")
      | c :: rest =>
        if !short || assigned || c = '-' then
          .error (.superfluousValue p (String.ofList (c :: rest)))
        else match g.named? (String.ofList ['-', c]) with
          | none => .ok ⟨[(p, "")], false, some ("-" ++ String.ofList (c :: rest))⟩
          | some q =>
            match rest with
            | [] => after p <$> Cluster.read g next q true none
            | '=' :: rest => after p <$> Cluster.read g next q true (some ⟨true, rest⟩)
            | c :: rest => after p <$> Cluster.read g next q true (some ⟨false, c :: rest⟩)
termination_by attached => match attached with
  | none => 0
  | some a => a.value.length + 1

/-- Whether a name is a dash and a character. -/
def isShort (name : String) : Bool := name.toList[1]? ≠ some '-'

/-- Reads arguments from the left. -/
def Grammar.readFrom (g : Grammar) (r : Reading) :
    List (Token × String) → Except Stop Reading
  | [] => .ok r
  | (.word, argument) :: rest =>
    if g.commands.isEmpty then
      g.readFrom { r with leftOver := r.leftOver ++ [argument] } rest
    else .ok { r with command := some (argument, rest.map (·.2)) }
  | (.separator, argument) :: rest =>
    if g.commands.isEmpty || rest.isEmpty then
      g.readFrom { r with leftOver := r.leftOver ++ [argument] } rest
    else .ok { r with command := some (argument, rest.map (·.2)) }
  | (.unknown, argument) :: rest =>
    g.readFrom { r with leftOver := r.leftOver ++ [argument] } rest
  | (.parameter p name attached, _) :: rest => do
    let next := match rest with
      | (.word, argument) :: _ => some argument
      | _ => none
    let cluster ← (Cluster.read g next p (isShort name) attached).mapError (.refused g)
    let r ← cluster.uses.foldlM (fun r (p, value) => r.take g p value)
      { r with leftOver := r.leftOver ++ cluster.leftOver.toList }
    if cluster.usesNext then g.readFrom r (rest.drop 1) else g.readFrom r rest
termination_by tokens => tokens.length
decreasing_by all_goals simp_wf; try omega

/-- Reads the arguments of a command line. What is left over is kept, for a grammar further out to
refuse. -/
def Grammar.read (g : Grammar) (arguments : List String) : Except Stop Reading := do
  let tokens ← (g.classifyAll arguments).mapError (.refused g)
  g.readFrom {} tokens

end CrateDoc.CommandLine
