import ScriptBatch.Shell.Arithmetic
import ScriptBatch.Shell.Builtin
import ScriptBatch.Shell.Executable
import ScriptBatch.Shell.Parser
import ScriptBatch.Shell.Redirection

/-!
# Running scripts

Carries out the commands of a script on a state. Scripts need not come to an end by themselves, so
every function has an allowance of steps; a shell that uses it up is ended as if by a signal.
-/

namespace ScriptBatch.Shell

/-- How a shell ends that has used up its allowance. -/
def outOfSteps (s : State) : State × Flow := (s, .killed 9)

def State.directories (s : State) : List String :=
  match (s.binding? "PATH").bind (·.value) with
  | some path => (path.toList.splitOn ':').map String.ofList
  | none => programDirectories

def State.programPath? (s : State) (name : String) : Option String :=
  if name.toList.contains '/' then
    match findProgram s.tree s.cwd [] name with
    | .ok _ => some name
    | .error _ => none
  else
    (s.directories.find? fun dir =>
      match findProgram s.tree s.cwd [dir] name with
      | .ok _ => true
      | .error _ => false).map fun dir => dir ++ "/" ++ name

def reservedWords : List String :=
  ["!", "case", "do", "done", "elif", "else", "esac", "fi", "for", "if", "in", "then", "until",
   "while", "\x7b", "\x7d"]

/-- Tells what a command name stands for, in a sentence or shortly; the status is 127 if it stands
for nothing. -/
def describe (s : State) (sentence : Bool) (name : String) : String × Nat :=
  let told (short long : String) : String × Nat :=
    (if sentence then s!"{name} is {long}\n" else short ++ "\n", 0)
  if reservedWords.contains name then told name "a shell keyword"
  else if Parser.specialCommands.contains name then told name "a special shell builtin"
  else if (s.functions.lookup name).isSome then told name "a shell function"
  else if Builtin.names.contains name then told name "a shell builtin"
  else
    match s.programPath? name with
    | some path => told path path
    | none => (if sentence then s!"{name}: not found\n" else "", 127)

/-- The options at the start of the arguments of the shell, and the other arguments. -/
def splitOptions : List String → List String × List String
  | "--" :: rest => ([], rest)
  | "-" :: rest => ([], rest)
  | "-o" :: name :: rest =>
    let (options, others) := splitOptions rest
    ("-o" :: name :: options, others)
  | arg :: rest =>
    if arg.startsWith "-" || arg.startsWith "+" then
      let (options, others) := splitOptions rest
      (arg :: options, others)
    else ([], arg :: rest)
  | [] => ([], [])

/-- The state after a program of its own, which leaves only files and output behind. A signal that
ended it is mentioned. -/
def launched (before : State) : State × Flow → State × Flow
  | (after, .killed n) =>
    let words := ((Signal.all.find? (·.number == n)).map (·.words)).getD ""
    let s := (before.after after).withStatus (128 + n)
    (if words.isEmpty then s else s.writeError (words ++ "\n"), .next)
  | (after, _) => (before.after after, .next)

/-- The state after a shell inside of this one. A signal for the outer shell reaches it. -/
def rejoined (before : State) : State × Flow → State × Flow
  | (after, .killed n) => (before.after after, .killed n)
  | (after, _) => ({ before.after after with arrived := after.arrived }, .next)

/-- A failure ends a shell that does not go on after failures, unless somebody asks for it. -/
def failing (tested : Bool) : State × Flow → State × Flow
  | (s, .next) => (s, if s.isOn 'e' && !tested && s.status != 0 then .exit else .next)
  | stopped => stopped

/-- What a loop does after a round that did not just end. -/
def leaveLoop (s : State) : Flow → State × Flow
  | .leave k => (s, if k ≤ 1 then .next else .leave (k - 1))
  | .again k => (s, .again (k - 1))
  | flow => (s, flow)

def trimOutput (text : String) : List Char :=
  (text.toList.reverse.dropWhile (· == '\n')).reverse

def addText (single : Bool) (f : Fields) (quoted : Bool) (s : State) (text : String) :
    State × Fields :=
  (s, if quoted || single then f.add (.ofText text.toList quoted)
    else f.addSplit s.separators (text.length + 1) text.toList)

/-- Adds the value of a parameter. All parameters together are fields of their own. -/
def addValue (single : Bool) (f : Fields) (quoted : Bool) (s : State) (name : String) :
    State × Fields :=
  if name == "@" && quoted && !single then (s, f.addList s.params)
  else if (name == "@" || name == "*") && !quoted && !single then
    (s, f.addSplitList s.separators s.params)
  else addText single f quoted s ((s.value? name).getD "")

/-- The variables that were assigned for a command get their values from before back. -/
def restoreVariables (before after : State) (names : List String) : State :=
  names.foldl
    (fun s name =>
      match before.binding? name with
      | some v => s.setVariable name v
      | none => { s with bindings := s.bindings.filter (·.1 != name) })
    after

/-- The state after a function: its parameters and local variables are gone. -/
def leaveFunction (before after : State) : State :=
  let s := (after.frames.headD []).foldl
    (fun s (name, old) =>
      match old with
      | some v => s.setVariable name v
      | none => { s with bindings := s.bindings.filter (·.1 != name) })
    after
  { s with
    params := before.params, frames := before.frames, loops := before.loops
    optionPlace := before.optionPlace }

/-- The state after a command of the shell. One that could not be carried out ends the shell if it
is `fatal`. -/
def concluded (before : State) (fatal : Bool) : State × Flow → State × Flow
  | (after, flow) =>
    let after := { after with speaker := before.speaker }
    if !after.broken then (after, flow)
    else if fatal then (after.withStatus 2, after.ending)
    else ({ after with broken := false }.withStatus 2, .next)

mutual

/-- The fields that parts of a word add. In `single` mode separators do not divide fields. -/
def expandParts (single : Bool) : Nat → State → Word → Fields → State × Fields
  | 0, s, _, f => (s, f)
  | _ + 1, s, [], f => (s, f)
  | n + 1, s, part :: rest, f =>
    let (s, f) :=
      match part with
      | .literal text quoted => (s, f.add (.ofText text quoted))
      | .malformed => (s.breakOff "Bad substitution", f)
      | .output commands quoted =>
        let (s, text) := captureOutput n s commands
        addText single f quoted s (String.ofList text)
      | .arithmetic expression quoted =>
        let (s, text) := expandSingle n s expression
        match Arith.evalText text.text s with
        | .ok (value, s) => addText single f quoted s (toString value)
        | .error complaint => (s.breakOff complaint, f)
      | .param name quoted use word =>
        let value := (s.value? name).getD ""
        let isSet (orEmpty : Bool) : Bool :=
          (s.value? name).any fun (v : String) => !(orEmpty && v.isEmpty)
        let isMissing : Bool :=
          s.isOn 'u' && (s.value? name).isNone && name != "@" && name != "*"
        let missing : State × Fields := (s.breakOff s!"{name}: parameter not set", f)
        match use with
        | .plain => if isMissing then missing else addValue single f quoted s name
        | .length =>
          if isMissing then missing else addText single f quoted s value.length.repr
        | .default orEmpty =>
          if isSet orEmpty then addValue single f quoted s name else expandParts single n s word f
        | .assign orEmpty =>
          if isSet orEmpty then addValue single f quoted s name
          else if !(Lexer.isName name.toList) then (s.breakOff s!"{name}: bad variable name", f)
          else
            let (s, text) := expandSingle n s word
            addText single f quoted (s.assign name text.text) text.text
        | .require orEmpty =>
          if isSet orEmpty then addValue single f quoted s name
          else
            let (s, text) := expandSingle n s word
            let complaint :=
              if !word.isEmpty then text.text
              else if orEmpty then "parameter not set or null"
              else "parameter not set"
            (s.breakOff s!"{name}: {complaint}", f)
        | .alternative orEmpty =>
          if isSet orEmpty then expandParts single n s word f else (s, f)
        | .dropEnd longest =>
          let (s, p) := expandSingle n s word
          if isMissing then missing
          else
            addText single f quoted s (String.ofList (Pattern.dropEnd p longest value.toList))
        | .dropStart longest =>
          let (s, p) := expandSingle n s word
          if isMissing then missing
          else
            addText single f quoted s (String.ofList (Pattern.dropStart p longest value.toList))
    if s.broken then (s, f) else expandParts single n s rest f

def expandSingle : Nat → State → Word → State × Marked
  | 0, s, _ => (s, [])
  | n + 1, s, word =>
    let (s, f) := expandParts true n s word {}
    (s, f.toList.flatten)

/-- Words as fields, with patterns replaced by the paths that match them. With `declaring`, words
that look like assignments are single texts. -/
def expandWords : Nat → State → Bool → List Word → State × List String
  | 0, s, _, _ => (s, [])
  | _ + 1, s, _, [] => (s, [])
  | n + 1, s, declaring, word :: rest =>
    let (s, fields) :=
      match declaring, Parser.assignment? word with
      | true, some (name, value) =>
        let (s, text) := expandSingle n s value
        (s, [name ++ "=" ++ text.text])
      | _, _ =>
        let (s, f) := expandParts false n s word {}
        (s, f.toList.flatMap (pathnames s))
    if s.broken then (s, fields)
    else
      let (s, others) := expandWords n s declaring rest
      (s, fields ++ others)

def expandCommand : Nat → State → List Word → State × List String
  | 0, s, _ => (s, [])
  | _ + 1, s, [] => (s, [])
  | n + 1, s, first :: rest =>
    let (s, name) := expandWords n s false [first]
    let declaring := name.head?.any ["export", "readonly", "local"].contains
    if s.broken then (s, name)
    else
      let (s, args) := expandWords n s declaring rest
      (s, name ++ args)

/-- The output of commands that are part of a word. Their status does not replace the last one. -/
def captureOutput : Nat → State → List Cmd → State × List Char
  | 0, s, _ => (s, [])
  | n + 1, s, commands =>
    let inner := { s.inner with fresh := s.fresh + 1, tested := false }.setChannel 1
      (.capture s.fresh)
    let (after, flow) := rejoined s (finish n (execList n inner commands))
    let text := (after.captures.lookup s.fresh).getD ""
    let after := { after with substituted := after.status, status := s.status }
    match flow with
    | .killed k => ({ after with broken := true, struck := some k }, trimOutput text)
    | _ => (after, trimOutput text)

/-- Runs the lines of a script, up to a fault in it. -/
def runLines : Nat → State → Script → State × Flow
  | 0, s, _ => outOfSteps s
  | n + 1, s, script =>
    match script.lines with
    | commands :: rest =>
      match execList n s commands with
      | (s, .next) => runLines n s { script with lines := rest }
      | stopped => stopped
    | [] =>
      match script.fault with
      | some (line, fault) => ({ s with line }.breakOff fault.message, .exit)
      | none => (s, .next)

def runSource : Nat → State → List Char → State × Flow
  | 0, s, _ => outOfSteps s
  | n + 1, s, source => runLines n s (Parser.script source)

/-- Ends a shell: what it is to do in the end is done, unless a signal ends it. -/
def finish : Nat → State × Flow → State × Flow
  | 0, (s, _) => outOfSteps s
  | _ + 1, (s, .killed k) => (s, .killed k)
  | n + 1, (s, _) =>
    match s.traps.lookup "EXIT" with
    | none => (s, .exit)
    | some action =>
      let start := { s with
        traps := s.traps.filter (·.1 != "EXIT"), kept := some s.status, tested := false
        broken := false }
      match runSource n start action.toList with
      | (after, .killed k) => (after, .killed k)
      | (after, _) => (after.withStatus (after.kept.getD s.status), .exit)

/-- Does what is to be done about signals that have arrived, in the order of their numbers. -/
def settle : Nat → State × Flow → State × Flow
  | 0, (s, _) => outOfSteps s
  | n + 1, (s, .next) =>
    let next := Signal.all.find? fun signal => s.arrived.contains signal.name
    match s.level, next with
    | 0, some signal =>
      let start := { s with
        arrived := s.arrived.filter (· != signal.name), kept := some (s.kept.getD s.status)
        tested := false }
      match runSource n start ((s.traps.lookup signal.name).getD "").toList with
      | (after, .next) =>
        settle n ({ after with status := s.status, kept := s.kept, tested := s.tested }, .next)
      | (after, flow) => ({ after with kept := s.kept, tested := s.tested }, flow)
    | _, _ => (s, .next)
  | _ + 1, stopped => stopped

/-- Opens the redirections of a command; tells whether all could be opened. -/
def redirectAll : Nat → State → List Redirect → State × Bool
  | 0, s, _ => (s, false)
  | _ + 1, s, [] => (s, true)
  | n + 1, s, .mk descriptor direction target :: rest =>
    let (s, text) := expandSingle n s target
    if s.broken then (s, false)
    else
      match redirectTo s descriptor direction text.text with
      | .ok s => redirectAll n s rest
      | .error fault =>
        if fault.ends then (s.breakOff fault.complaint, false)
        else ((s.complain fault.complaint).withStatus 2, false)

def assignWords : Nat → State → List (String × Word) → State × List (String × String)
  | 0, s, _ => (s, [])
  | _ + 1, s, [] => (s, [])
  | n + 1, s, (name, word) :: rest =>
    let (s, text) := expandSingle n s word
    if s.broken then (s, [])
    else
      let s := s.assign name text.text
      if s.broken then (s, [])
      else
        let (s, others) := assignWords n s rest
        (s, (name, text.text) :: others)

/-- Runs commands in a list; a command that does not go on ends the list. -/
def execList : Nat → State → List Cmd → State × Flow
  | 0, s, _ => outOfSteps s
  | _ + 1, s, [] => (s, .next)
  | n + 1, s, c :: rest =>
    match exec n s c with
    | (s, .next) => execList n s rest
    | stopped => stopped

/-- Runs commands whose status is asked for, so that their failure does not end the shell. -/
def execTested : Nat → State → List Cmd → State × Flow
  | 0, s, _ => outOfSteps s
  | n + 1, s, commands =>
    let (after, flow) := execList n { s with tested := true } commands
    ({ after with tested := s.tested }, flow)

def execEach : Nat → State → String → List String → List Cmd → State × Flow
  | 0, s, _, _, _ => outOfSteps s
  | _ + 1, s, _, [], _ => (s, .next)
  | n + 1, s, name, v :: rest, body =>
    let s := s.assign name v
    if s.broken then (s, s.ending)
    else
      match execList n s body with
      | (s, .next) | (s, .again 1) => execEach n s name rest body
      | (s, flow) => leaveLoop s flow

/-- Runs the body of a loop while its test says so. The status is that of the last round. -/
def execLoop : Nat → State → Bool → List Cmd → List Cmd → Nat → State × Flow
  | 0, s, _, _, _, _ => outOfSteps s
  | n + 1, s, untilTrue, test, body, status =>
    match execTested n s test with
    | (s, .next) =>
      if (s.status == 0) == untilTrue then (s.withStatus status, .next)
      else
        match execList n s body with
        | (s, .next) | (s, .again 1) => execLoop n s untilTrue test body s.status
        | (s, flow) => leaveLoop s flow
    | (s, .again 1) => execLoop n s untilTrue test body s.status
    | (s, flow) => leaveLoop s flow

def execChoice : Nat → State → List Char → List (List Word × List Cmd) → State × Flow
  | 0, s, _, _ => outOfSteps s
  | _ + 1, s, _, [] => (s.withStatus 0, .next)
  | n + 1, s, subject, (patterns, body) :: rest =>
    match patterns with
    | [] => execChoice n s subject rest
    | p :: others =>
      let (s, pattern) := expandSingle n s p
      if s.broken then (s, s.ending)
      else if Pattern.covers pattern subject then
        execList n (if body.isEmpty then s.withStatus 0 else s) body
      else execChoice n s subject ((others, body) :: rest)

/-- Runs commands with the output of each as the input of the next, each in a shell of its own. -/
def execPipeline : Nat → State → List Cmd → State × Flow
  | 0, s, _ => outOfSteps s
  | _ + 1, s, [] => (s, .next)
  | n + 1, s, [c] => rejoined s (finish n (exec n s.inner c))
  | n + 1, s, c :: rest =>
    let inner := { s.inner with fresh := s.fresh + 1 }.setChannel 1 (.capture s.fresh)
    match rejoined s (finish n (exec n inner c)) with
    | (after, .next) =>
      let passed := ((after.captures.lookup s.fresh).getD "").toList
      let (last, flow) := execPipeline n (after.openText 0 passed) rest
      (restoreChannels s last, flow)
    | stopped => stopped

def execOuter? : Nat → State → String → List String → Option (State × Flow)
  | 0, s, _, _ => some (outOfSteps s)
  | n + 1, s, name, args =>
    match name with
    | "eval" =>
      let source := (" ".intercalate args).toList
      let (after, flow) := runSource n (s.withStatus 0) source
      some (after, flow)
    | "command" =>
      match Builtin.readCall { plain := "pvV" } (args.length + 1) args with
      | .error text => some (Builtin.refuse s text)
      | .ok call =>
        match call.operands with
        | [] => some (done s 0)
        | name :: args =>
          if call.has 'v' || call.has 'V' then
            let (text, status) := describe s (call.has 'V') name
            some (done (s.write text) status)
          else some (execNamed n { s with speaker := none } true name args)
    | "type" =>
      let told := args.map (describe s true)
      let status := told.foldl (fun status t => status ||| t.2) 0
      some (done (s.write (String.join (told.map (·.1)))) status)
    | "." =>
      match args with
      | [] => some (done s 0)
      | file :: _ =>
        let isPath := file.toList.contains '/'
        let paths := if isPath then [file] else s.directories.map fun dir => dir ++ "/" ++ file
        match paths.findSome? fun path => (s.tree.readText s.cwd path).toOption with
        | some text =>
          let start := { s with speaker := some file, tested := false }
          let (after, flow) := runSource n (start.withStatus 0) text.toList
          let after := { after with tested := s.tested }
          some (after, if flow == .back then .next else flow)
        | none =>
          some (Builtin.refuse s
            (if isPath then s!"cannot open {file}: No such file" else s!"{file}: not found"))
    | "exec" =>
      match args with
      | [] => some (done s 0)
      | program :: args =>
        match startProgram n s program args with
        | (s, .next) => some ({ s with traps := s.traps.filter (·.1 != "EXIT") }, .exit)
        | stopped => some stopped
    | _ => none

/-- Runs a command by its name. With `plain` it is not a function, and no failure of a command of
the shell ends the shell. -/
def execNamed : Nat → State → Bool → String → List String → State × Flow
  | 0, s, _, _, _ => outOfSteps s
  | n + 1, s, plain, name, args =>
    let isSpecial := Parser.specialCommands.contains name
    match if plain || isSpecial then none else s.functions.lookup name with
    | some body =>
      let start := { s with params := args, frames := [] :: s.frames, loops := 0, optionPlace := 0 }
      let (after, flow) := exec n start body
      (leaveFunction s after, if flow == .back then .next else flow)
    | none =>
      let speaking := { s with speaker := some name }
      match (Builtin.run? speaking name args).orElse fun _ => execOuter? n speaking name args with
      | some result => concluded s (isSpecial && !plain) result
      | none => startProgram n s name args

def startProgram : Nat → State → String → List String → State × Flow
  | 0, s, _, _ => outOfSteps s
  | n + 1, s, name, args =>
    match findProgram s.tree s.cwd s.directories name with
    | .error .permissionDenied =>
      let status := if name.toList.contains '/' then 126 else 127
      done (s.complain s!"{name}: Permission denied") status
    | .error .nameTooLong => done (s.complain s!"{name}: File name too long") 127
    | .error _ =>
      let reason := if name.isEmpty then "Permission denied" else "not found"
      done (s.complain s!"{name}: {reason}") 127
    | .ok found => launched s (runFile n s found name args)

/-- Runs what has been found under a name. A file that is neither a program nor a script is taken
for a script. -/
def runFile : Nat → State → Executable → String → List String → State × Flow
  | 0, s, _, _, _ => outOfSteps s
  | n + 1, s, found, name, args =>
    let s := { s with name, speaker := none, line := 0 }
    match found with
    | .program program leading => runProgram n s program (leading ++ args)
    | .unknown => runProgram n s "sh" (name :: args)

/-- Runs a program: the shell, or one of the small ones. -/
def runProgram : Nat → State → String → List String → State × Flow
  | 0, s, _, _ => outOfSteps s
  | n + 1, s, program, args =>
    match program with
    | "sh" =>
      let (options, rest) := splitOptions args
      let isOption (letter : Char) : Bool := options.any fun o =>
        o.startsWith "-" && o.toList.contains letter
      let plain := (options.map fun o => String.ofList (o.toList.filter (· != 'c'))).filter
        fun o => o != "-" && o != "+"
      let start (name : String) (params : List String) : State :=
        let fresh := Builtin.setOptions (plain.length + 1) (s.started s.name []) plain
        { fresh with name, params }
      let fail (text : String) : State × Flow := ((s.complain text).withStatus 2, .exit)
      let checked := start s.name []
      if checked.broken then (s.after checked, .exit)
      else
        match isOption 'c', rest with
        | true, source :: rest =>
          finish n (runSource n (start (rest.headD s.name) rest.tail) source.toList)
        | true, [] => fail "-c requires an argument"
        | false, file :: params =>
          if isOption 's' then finish n (runSource n ((start s.name rest).withInput []) s.input)
          else
            match s.tree.readText s.cwd file with
            | .ok text => finish n (runSource n (start file params) text.toList)
            | .error .notText => (s.withStatus 2, .exit)
            | .error .isADirectory => (s.withStatus 0, .exit)
            | .error _ => fail s!"cannot open {file}: No such file"
        | false, [] => finish n (runSource n ((start s.name []).withInput []) s.input)
    | "env" => runWithEnvironment n s args
    | _ => (Programs.run? s program args).getD (s.withStatus 127, .exit)

/-- Runs a program with changes to its environment, or shows the environment. -/
def runWithEnvironment : Nat → State → List String → State × Flow
  | 0, s, _ => outOfSteps s
  | n + 1, s, args =>
    match args with
    | [] => Programs.environmentValues s []
    | "-i" :: rest | "-" :: rest => runWithEnvironment n { s with bindings := [] } rest
    | "-u" :: name :: rest =>
      runWithEnvironment n { s with bindings := s.bindings.filter (·.1 != name) } rest
    | "--" :: rest => runWithEnvironment n s rest
    | name :: rest =>
      match Builtin.splitAssignment name with
      | (name, some value) =>
        runWithEnvironment n (s.setVariable name { value, exported := true }) rest
      | (_, none) =>
        match findProgram s.tree s.cwd s.directories name with
        | .ok found => runFile n s found name rest
        | .error e =>
          let status := if e == .permissionDenied then 126 else 127
          done (Programs.complainAs s "env" s!"'{name}': {Programs.reason e}") status

/-- Runs a simple command: words are expanded, redirections are opened, variables are assigned, and
then the command named by the first word runs. -/
def execSimple : Nat → State → List (String × Word) → List Word → List Redirect → State × Flow
  | 0, s, _, _, _ => outOfSteps s
  | n + 1, s, assignments, words, redirects =>
    let (s, fields) := expandCommand n { s with substituted := 0 } words
    if s.broken then (s, s.ending)
    else
      let isSpecial := fields.head?.any Parser.specialCommands.contains
      match redirectAll n s redirects with
      | (opened, false) =>
        (restoreChannels s opened, if opened.broken || isSpecial then opened.ending else .next)
      | (opened, true) =>
        let (assigned, values) := assignWords n opened assignments
        if assigned.broken then (restoreChannels s assigned, assigned.ending)
        else
          let shown := values.map (fun v => v.1 ++ "=" ++ v.2) ++ fields
          let traced :=
            if s.isOn 'x' && !shown.isEmpty then
              let mark := (assigned.value? "PS4").getD ""
              assigned.send (s.channel 2) (mark ++ " ".intercalate shown ++ "\n")
            else assigned
          match fields with
          | [] => (restoreChannels s (traced.withStatus traced.substituted), .next)
          | name :: args =>
            let names := assignments.map (·.1)
            let given := names.foldl
              (fun s name =>
                s.setVariable name { (s.binding? name).getD {} with exported := true })
              traced
            let start := if isSpecial then traced else given
            let (after, flow) := execNamed n start false name args
            let after := if isSpecial then after else restoreVariables opened after names
            (if name == "exec" && args.isEmpty then after else restoreChannels s after, flow)

/-- Runs a command, and then does what is to be done about signals. -/
def exec : Nat → State → Cmd → State × Flow
  | 0, s, _ => outOfSteps s
  | n + 1, s, c =>
    if s.isOn 'n' then (s, .next)
    else
      let result : State × Flow :=
        match c with
        | .simple line assignments words redirects =>
          failing s.tested (execSimple n { s with line } assignments words redirects)
        | .pipeline commands => failing s.tested (execPipeline n s commands)
        | .background command =>
          let job := s.number + s.fresh
          let inner := { s.inner with fresh := s.fresh + 1 }.setChannel 0 .nowhere
          match rejoined s (finish n (exec n inner command)) with
          | (after, .next) =>
            done { after with jobs := (job, after.status) :: s.jobs, lastJob := some job } 0
          | stopped => stopped
        | .negation command =>
          match execTested n s [command] with
          | (s, .next) => (s.withStatus (if s.status == 0 then 1 else 0), .next)
          | stopped => stopped
        | .both first second =>
          match execTested n s [first] with
          | (s, .next) => if s.status == 0 then exec n s second else (s, .next)
          | stopped => stopped
        | .either first second =>
          match execTested n s [first] with
          | (s, .next) => if s.status == 0 then (s, .next) else exec n s second
          | stopped => stopped
        | .conditional test yes no =>
          match execTested n s test with
          | (s, .next) =>
            if s.status == 0 then execList n s yes
            else execList n (if no.isEmpty then s.withStatus 0 else s) no
          | stopped => stopped
        | .loop untilTrue test body =>
          let (after, flow) := execLoop n { s with loops := s.loops + 1 } untilTrue test body 0
          ({ after with loops := s.loops }, flow)
        | .each line name words body =>
          let s := { s with line }
          let (s, values) :=
            match words with
            | some ws => expandWords n s false ws
            | none => (s, s.params)
          if s.broken then (s, s.ending)
          else
            let start := { s with
              loops := s.loops + 1, status := if values.isEmpty then 0 else s.status }
            let (after, flow) := execEach n start name values body
            ({ after with loops := s.loops }, flow)
        | .choice line subject clauses =>
          let (s, text) := expandSingle n { s with line } subject
          if s.broken then (s, s.ending) else execChoice n s text.text.toList clauses
        | .group body => execList n s body
        | .subshell body => failing s.tested (rejoined s (finish n (execList n s.inner body)))
        | .redirected line body redirects =>
          match redirectAll n { s with line } redirects with
          | (opened, false) =>
            (restoreChannels s opened, if opened.broken then opened.ending else .next)
          | (opened, true) =>
            let (after, flow) := exec n opened body
            (restoreChannels s after, flow)
        | .define name body =>
          done { s with functions := (name, body) :: s.functions.filter (·.1 != name) } 0
      settle n result

end

end ScriptBatch.Shell
