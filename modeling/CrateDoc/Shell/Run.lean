import CrateDoc.Shell.Builtin

/-!
# Running shell scripts

Commands change the state of a shell and say how the next one is found. All functions count `fuel`
down; a script that is still running when it is used up stops where it is.
-/

namespace CrateDoc.Shell

/-- What remains of a flow outside a loop: whether the loop ends, and the flow behind it. -/
def Flow.outsideLoop : Flow → Bool × Flow
  | next => (false, next)
  | leave n => (true, if n ≤ 1 then next else leave (n - 1))
  | again n => if n ≤ 1 then (false, next) else (true, again (n - 1))
  | flow => (true, flow)

/-- What remains of a flow outside a copy of the shell. -/
def Flow.outsideCopy : Flow → Flow
  | signal n => signal n
  | _ => next

/-- A text without the line ends at its end. -/
def withoutLineEnds (s : Octets) : Octets := Text.dropTrailing (· = '\n') s

/-- Parts that stay, or may be split. -/
def part (inQuotes : Bool) (text : Octets) : Part := if inQuotes then .fixed text else .loose text

/-- All arguments, each a field of its own. -/
def argumentParts (inQuotes : Bool) : List Octets → List Part
  | [] => []
  | [a] => [part inQuotes a]
  | a :: rest => part inQuotes a :: .gap :: argumentParts inQuotes rest

/-- The pieces of a word that stands between braces. -/
def innerWord (inQuotes : Bool) (text : Octets) : Word :=
  if inQuotes then match readQuoted (text.length + 2) (text ++ ['\x22']) with
    | .ok (pieces, _) => pieces
    | .error _ => [.quoted text]
  else match readWord (text.length + 1) text with
    | .ok (pieces, []) => pieces
    | _ => [.plain text]

/-- The value of a parameter; with `nonempty`, only if it is not empty. -/
def State.given? (s : State) (name : Octets) (nonempty : Bool) : Option Octets :=
  (s.value? name).filter fun v => !(nonempty && v.isEmpty)

/-- Leads a descriptor somewhere. -/
def State.lead (descriptor : Nat) (target : Target) (s : State) : State :=
  { s with descriptors := Entries.put descriptor target s.descriptors }

/-- Leads a descriptor where another leads. -/
def State.leadAlong (descriptor other : Nat) (s : State) : State :=
  s.lead descriptor ((Entries.get? other s.descriptors).getD .nothing)

/-- Carries out a redirection to an expanded target; none if it fails. -/
def State.redirect (r : Redirection) (target : Octets) (s : State) : Except String State :=
  match r.direction, String.ofList target with
  | .duplicate, "-" => .ok (s.lead r.descriptor .nothing)
  | .duplicate, text => .ok (s.leadAlong r.descriptor (text.toNat?.getD 1))
  | .input, "/dev/null" => .ok { s with input := [] }
  | .input, text => match s.tree.read (s.place target) with
    | .ok bytes => .ok { s with input := bytes.map fun b => Char.ofNat b.toNat }
    | .error _ => .error ("cannot open " ++ text ++ ": No such file")
  | _, "/dev/null" => .ok (s.lead r.descriptor .nothing)
  | _, "/dev/stdout" => .ok (s.leadAlong r.descriptor 1)
  | _, "/dev/stderr" => .ok (s.leadAlong r.descriptor 2)
  | direction, text =>
    let place := s.place target
    let opened := if direction = .append then s.tree.append place [] else s.tree.write place []
    match opened with
    | .ok tree => .ok ({ s with tree := tree }.lead r.descriptor (.file place))
    | .error e => .error ("cannot create " ++ text ++ ": " ++ (match e.cause with
        | .isDirectory => "Is a directory"
        | _ => "Directory nonexistent"))

/-- The end of a command: a strict script ends at a failure that nobody looks at. -/
def State.settle (s : State) : State × Flow :=
  (s, if s.strict && !s.tested && s.status ≠ 0 then .exit else .next)

mutual

/-- Expands a piece of a word. -/
def expandPiece : Nat → Piece → State → List Part × State
  | 0, _, s => ([], s)
  | fuel + 1, piece, s =>
    match piece with
    | .plain text => ([.fixed text], s)
    | .quoted text => ([.fixed text], s)
    | .output script inQuotes =>
      let (text, s) := outputOf fuel script s
      ([part inQuotes text], s)
    | .arithmetic expression inQuotes =>
      let (parts, s) := expandWord fuel (innerWord true expression) s
      match evaluate (fun name => (s.value? name).getD []) (oneText parts) with
      | some (value, name) =>
        let text := (toString value).toList
        ([part inQuotes text], match name with
          | some name => s.assign name text
          | none => s)
      | none => ([], s.complain "arithmetic expression: expecting primary" 2)
    | .parameter name use inQuotes =>
      match use with
      | .value => match name with
        | ['@'] => (argumentParts inQuotes s.arguments, s)
        | ['*'] => (if inQuotes then [.fixed (joinWords s.arguments)]
            else argumentParts false s.arguments, s)
        | name => ([part inQuotes ((s.value? name).getD [])], s)
      | .length => ([part inQuotes (toString ((s.value? name).getD []).length).toList], s)
      | .default empty word => match s.given? name empty with
        | some value => ([part inQuotes value], s)
        | none => expandWord fuel (innerWord inQuotes word) s
      | .assign empty word => match s.given? name empty with
        | some value => ([part inQuotes value], s)
        | none =>
          let (parts, s) := expandWord fuel (innerWord inQuotes word) s
          (parts, s.assign name (oneText parts))
      | .alternative empty word => match s.given? name empty with
        | some _ => expandWord fuel (innerWord inQuotes word) s
        | none => ([], s)

/-- Expands a word to parts. -/
def expandWord : Nat → Word → State → List Part × State
  | 0, _, s => ([], s)
  | _ + 1, [], s => ([], s)
  | fuel + 1, piece :: rest, s =>
    let (parts, s) := expandPiece fuel piece s
    let (more, s) := expandWord fuel rest s
    (parts ++ more, s)

/-- Expands words to fields. -/
def expandWords : Nat → List Word → State → List Octets × State
  | 0, _, s => ([], s)
  | _ + 1, [], s => ([], s)
  | fuel + 1, word :: rest, s =>
    let (parts, s) := expandWord fuel word s
    let (more, s) := expandWords fuel rest s
    (fields parts ++ more, s)

/-- Carries out assignments. -/
def assignWords : Nat → List (Octets × Word) → State → State
  | 0, _, s => s
  | _ + 1, [], s => s
  | fuel + 1, (name, word) :: rest, s =>
    let (parts, s) := expandWord fuel word s
    assignWords fuel rest (s.assign name (oneText parts))

/-- Carries out redirections, up to the first that fails. -/
def redirectAll : Nat → List Redirection → State → Except State State
  | 0, _, s => .ok s
  | _ + 1, [], s => .ok s
  | fuel + 1, r :: rest, s =>
    let (parts, s) := expandWord fuel r.target s
    match s.redirect r (oneText parts) with
    | .ok s => redirectAll fuel rest s
    | .error message => .error (s.complain message 2)

/-- The output of a script that runs in a copy of the shell. -/
def outputOf : Nat → Octets → State → Octets × State
  | 0, _, s => ([], s)
  | fuel + 1, script, s =>
    let index := s.buffers.length
    let inner := { s with buffers := s.buffers ++ [[]] }.lead 1 (.buffer index)
    let (inner, _) := runScript fuel script inner
    let text := withoutLineEnds (inner.written index)
    (text, s.afterCopy { inner with buffers := inner.buffers.take index })

/-- Reads a script and runs it. -/
def runScript : Nat → Octets → State → State × Flow
  | 0, _, s => (s, .exit)
  | fuel + 1, script, s =>
    match Command.ofScript script with
    | .ok command => exec fuel command s
    | .error fault => (s.complain fault.message 2, .exit)

/-- Runs commands one after the other. -/
def execAll : Nat → List Command → State → State × Flow
  | 0, _, s => (s, .exit)
  | _ + 1, [], s => (s, .next)
  | fuel + 1, command :: rest, s =>
    match exec fuel command s with
    | (s, .next) => execAll fuel rest s
    | ended => ended

/-- Runs a loop. -/
def execLoop : Nat → Bool → Command → Command → Nat → State → State × Flow
  | 0, _, _, _, _, s => (s, .exit)
  | fuel + 1, reversed, test, body, status, s =>
    match exec fuel test { s with tested := true } with
    | (tested, .next) =>
      let inner := { tested with tested := s.tested }
      if (inner.status == 0) == reversed then (inner.done status, .next)
      else
        let (inner, flow) := exec fuel body inner
        match flow.outsideLoop with
        | (false, _) => execLoop fuel reversed test body inner.status inner
        | (true, flow) => (inner, flow)
    | (inner, flow) => ({ inner with tested := s.tested }, flow)

/-- Runs a command for each value of a variable. -/
def execEach : Nat → Octets → List Octets → Command → State → State × Flow
  | 0, _, _, _, s => (s, .exit)
  | _ + 1, _, [], _, s => (s, .next)
  | fuel + 1, name, value :: rest, body, s =>
    let (s, flow) := exec fuel body (s.assign name value)
    match flow.outsideLoop with
    | (false, _) => execEach fuel name rest body s
    | (true, flow) => (s, flow)

/-- Runs the first branch with a pattern that a text is of. -/
def execChoice : Nat → Octets → List (List Word × Command) → State → State × Flow
  | 0, _, _, s => (s, .exit)
  | _ + 1, _, [], s => (s.done 0, .next)
  | fuel + 1, text, (patterns, body) :: rest, s =>
    let (fields, s) := expandWords fuel patterns s
    if fields.any fun p => fitsPattern (p.length + text.length + 1) p text then
      exec fuel body (s.done 0)
    else execChoice fuel text rest s

/-- Runs commands each with the output of the one before it as input. -/
def execPipeline : Nat → List Command → State → State × Flow
  | 0, _, s => (s, .exit)
  | _ + 1, [], s => (s, .next)
  | fuel + 1, [command], s =>
    let (inner, flow) := exec fuel command s
    (s.afterCopy inner, flow.outsideCopy)
  | fuel + 1, command :: rest, s =>
    let index := s.buffers.length
    let (inner, flow) := exec fuel command
      ({ s with buffers := s.buffers ++ [[]] }.lead 1 (.buffer index))
    let text := inner.written index
    let s := s.afterCopy { inner with buffers := inner.buffers.take index }
    match flow.outsideCopy with
    | .next => execPipeline fuel rest { s with input := text }
    | flow => (s, flow)

/-- Runs a simple command by its fields. -/
def call : Nat → List Octets → State → State × Flow
  | 0, _, s => (s, .exit)
  | _ + 1, [], s => (s, .next)
  | fuel + 1, name :: arguments, s =>
    match Entries.get? name s.functions with
    | some body =>
      let (inner, flow) := exec fuel body { s with arguments := arguments }
      ({ inner with arguments := s.arguments }, if flow = .back then .next else flow)
    | none =>
      match String.ofList name with
      | "eval" => runScript fuel (joinWords arguments) s
      | "exec" =>
        if arguments.isEmpty then (s.done 0, .next)
        else match call fuel arguments s with
          | (s, .next) => (s, .exit)
          | ended => ended
      | "command" | "builtin" => call fuel arguments s
      | "env" => match arguments with
        | [] => (builtin? name arguments s).getD (s, .next)
        | arguments =>
          let isAssignment (w : Octets) : Bool := w.contains '='
          let (inner, flow) := call fuel (arguments.dropWhile isAssignment)
            (s.assignAll (arguments.takeWhile isAssignment))
          (s.afterCopy inner, flow)
      | "kill" => match killedBy? arguments with
        | none => (s.complain "kill: No such process" 1, .next)
        | some n =>
          let name := ((signals.find? (·.2 == n)).map (·.1.toList)).getD []
          match (Entries.get? name s.traps).or (Entries.get? (toString n).toList s.traps) with
          | some action => if action.isEmpty || n = 9 then
                (s.done 0, if n = 9 then .signal n else .next)
              else runScript fuel action s
          | none => (s.done 0, if harmless.contains n then .next else .signal n)
      | "sh" | "/bin/sh" | "/usr/bin/sh" | "dash" | "/bin/dash" => match arguments with
        | ['-', 'c'] :: script :: rest =>
          let (inner, flow) := runScript fuel script
            { s with name := rest.headD name, arguments := rest.drop 1, functions := [], traps := []
                     strict := false, tested := false }
          match flow with
          | .signal n => (s.afterCopy (inner.done (128 + n)), .next)
          | _ => (s.afterCopy inner, .next)
        | _ => (s.done 0, .next)
      | _ =>
        let plain := if "/bin/".toList.isPrefixOf name then name.drop 5
          else if "/usr/bin/".toList.isPrefixOf name then name.drop 9 else name
        match builtin? plain arguments s with
        | some result => result
        | none =>
          if name.contains '/' && s.tree.has (s.place name) then
            (s.complain (textOf name ++ ": Permission denied") 126, .next)
          else (s.complain (textOf name ++ ": not found") 127, .next)

/-- Runs a command. -/
def exec : Nat → Command → State → State × Flow
  | 0, _, s => (s, .exit)
  | fuel + 1, command, s =>
    match command with
    | .simple assignments words =>
      let (fields, s) := expandWords fuel words { s with }
      if fields.isEmpty then
        let before := if words.isEmpty then { s with status := 0 } else s
        (assignWords fuel assignments before).settle
      else
        let (inner, flow) := call fuel fields (assignWords fuel assignments s)
        let s := if assignments.isEmpty then inner else { inner with bindings := s.bindings }
        match flow with
        | .next => s.settle
        | flow => (s, flow)
    | .sequence commands => execAll fuel commands s
    | .pipeline commands =>
      match execPipeline fuel commands s with
      | (inner, .next) => { inner with input := s.input }.settle
      | ended => ended
    | .negated command =>
      let (inner, flow) := exec fuel command { s with tested := true }
      ({ inner with tested := s.tested }.done (if inner.status = 0 then 1 else 0), flow)
    | .andThen first second =>
      match exec fuel first { s with tested := true } with
      | (inner, .next) =>
        let inner := { inner with tested := s.tested }
        if inner.status = 0 then exec fuel second inner else (inner, .next)
      | (inner, flow) => ({ inner with tested := s.tested }, flow)
    | .orElse first second =>
      match exec fuel first { s with tested := true } with
      | (inner, .next) =>
        let inner := { inner with tested := s.tested }
        if inner.status = 0 then (inner, .next) else exec fuel second inner
      | (inner, flow) => ({ inner with tested := s.tested }, flow)
    | .subshell body =>
      let (inner, flow) := exec fuel body { s with traps := [] }
      match flow.outsideCopy with
      | .next => (s.afterCopy inner).settle
      | flow => (s.afterCopy inner, flow)
    | .conditional test body otherwise =>
      match exec fuel test { s with tested := true } with
      | (inner, .next) =>
        let inner := { inner with tested := s.tested }
        if inner.status = 0 then exec fuel body inner else exec fuel otherwise (inner.done 0)
      | (inner, flow) => ({ inner with tested := s.tested }, flow)
    | .loop reversed test body => execLoop fuel reversed test body 0 s
    | .each name words body => match words with
      | none => execEach fuel name s.arguments body (s.done 0)
      | some words =>
        let (values, s) := expandWords fuel words s
        execEach fuel name values body (s.done 0)
    | .choice word branches =>
      let (parts, s) := expandWord fuel word s
      execChoice fuel (oneText parts) branches s
    | .define name body =>
      ({ s with functions := Entries.put name body s.functions }.done 0, .next)
    | .redirected command redirections =>
      match redirectAll fuel redirections s with
      | .error s => s.settle
      | .ok inner =>
        let (after, flow) := exec fuel command inner
        let permanent := match command with
          | .simple _ [[.plain text]] => text == "exec".toList
          | _ => false
        if permanent then (after, flow)
        else
          let reads := redirections.any (·.direction == .input)
          ({ after with descriptors := s.descriptors
                        input := if reads then s.input else after.input }, flow)

end

/-- How deep a script may go. -/
def depth : Nat := 20000

/-- Runs a script and what it has set aside for its end: the state, and the signal that ended it. -/
def run (script : Octets) (s : State) : State × Option Nat :=
  let (s, flow) := runScript depth script s
  match flow with
  | .signal n => (s, some n)
  | _ =>
    match (Entries.get? "EXIT".toList s.traps).or (Entries.get? ['0'] s.traps) with
    | none => (s, none)
    | some action =>
      let (after, flow) := runScript depth action { s with traps := [] }
      match flow with
      | .signal n => (after, some n)
      | .exit => (after, none)
      | _ => (after.done s.status, none)

end CrateDoc.Shell
