import ScriptBatch.Shell.Builtin.Usage
import ScriptBatch.Shell.Lexer

/-!
# Commands for variables

Commands of the shell that make, show, protect and drop variables, read them from the input, and
change the options of the shell.
-/

namespace ScriptBatch.Shell.Builtin

/-- An argument as a name and the value behind an equals sign, if it has one. -/
def splitAssignment (arg : String) : String × Option String :=
  match arg.toList.dropWhile (· != '=') with
  | _ :: value => (String.ofList (arg.toList.takeWhile (· != '=')), some (String.ofList value))
  | [] => (arg, none)

/-- Goes through names with optional values; a name that no variable can have breaks it off. -/
def eachName (s : State) (args : List String) (f : State → String → Option String → State) :
    State :=
  args.foldl
    (fun s arg =>
      let (name, value) := splitAssignment arg
      if s.broken then s
      else if Lexer.isName name.toList then f s name value
      else s.breakOff s!"{name}: bad variable name")
    s

def listing (s : State) (command : String) (isShown : Variable → Bool) : String :=
  let shown := (s.bindings.filter fun v => isShown v.2).mergeSort fun a b => decide (a.1 ≤ b.1)
  Programs.joinLines (shown.map fun (name, v) =>
    command ++ name ++ ((v.value.map fun text => "=" ++ quote text).getD ""))

def exportVariables (s : State) (args : List String) : State × Flow :=
  withCall s { plain := "p" } args fun call =>
    if call.has 'p' || call.operands.isEmpty then
      done (s.write (listing s "export " (·.exported))) 0
    else
      done (eachName s call.operands fun s name value =>
        let s := (value.map (s.assign name)).getD s
        s.setVariable name { (s.binding? name).getD {} with exported := true }) 0

def protect (s : State) (args : List String) : State × Flow :=
  withCall s { plain := "p" } args fun call =>
    if call.has 'p' || call.operands.isEmpty then
      done (s.write (listing s "readonly " (·.fixed))) 0
    else
      done (eachName s call.operands fun s name value =>
        let s := (value.map (s.assign name)).getD s
        s.setVariable name { (s.binding? name).getD {} with fixed := true }) 0

def localVariables (s : State) (args : List String) : State × Flow :=
  match s.frames with
  | [] => refuse s "not in a function"
  | _ :: _ =>
    done (eachName s args fun s name value =>
      let frame := s.frames.headD []
      let known := frame.any (·.1 == name)
      let frame := if known then frame else (name, s.binding? name) :: frame
      let s := { s with frames := frame :: s.frames.tail }
      (value.map (s.assign name)).getD s) 0

def unset (s : State) (args : List String) : State × Flow :=
  withCall s { plain := "fv" } args fun call =>
    if call.has 'f' then
      done { s with functions := s.functions.filter fun f => !(call.operands.contains f.1) } 0
    else
      done (eachName s call.operands fun s name _ =>
        if ((s.binding? name).getD {}).fixed then s.breakOff s!"{name}: is read only"
        else if (s.builtinValue? name).isSome then s.setVariable name {}
        else { s with bindings := s.bindings.filter (·.1 != name) }) 0

/-- The options of the shell: their names, and their letters if they have any. -/
def switches : List (String × Option Char) :=
  [("errexit", some 'e'), ("noglob", some 'f'), ("ignoreeof", some 'I'), ("interactive", some 'i'),
   ("monitor", some 'm'), ("noexec", some 'n'), ("stdin", some 's'), ("xtrace", some 'x'),
   ("verbose", some 'v'), ("vi", some 'V'), ("emacs", some 'E'), ("noclobber", some 'C'),
   ("allexport", some 'a'), ("notify", some 'b'), ("nounset", some 'u'), ("privileged", some 'p'),
   ("nolog", none), ("debug", none)]

def switch (s : State) (letter : Char) (on : Bool) : State :=
  if switches.any (·.2 == some letter) then
    let others := s.switches.filter (· != letter)
    { s with switches := if on then letter :: others else others }
  else s.breakOff s!"Illegal option -{letter}"

/-- Lists the options for a reader, or as commands that would set them again. -/
def showSwitches (s : State) (readable : Bool) : State :=
  let isOn (letter : Option Char) : Bool := letter.any s.isOn
  if readable then
    s.write ("Current option settings\n" ++ Programs.joinLines (switches.map fun (name, letter) =>
      name ++ String.ofList (List.replicate (16 - name.length) ' ') ++
        if isOn letter then "on" else "off"))
  else
    s.write (Programs.joinLines (switches.map fun (name, letter) =>
      "set " ++ (if isOn letter then "-o " else "+o ") ++ name))

/-- Turns options on or off by their letters; `o` takes a name from the arguments. -/
def switchAll (on : Bool) : State → List String → List Char → State × List String
  | s, rest, [] => (s, rest)
  | s, rest, 'o' :: more =>
    match rest with
    | [] => switchAll on (showSwitches s on) [] more
    | name :: rest =>
      match switches.lookup name with
      | some (some letter) => switchAll on (switch s letter on) rest more
      | some none => switchAll on s rest more
      | none => (s.breakOff s!"Illegal option -o {name}", rest)
  | s, rest, letter :: more => switchAll on (switch s letter on) rest more

/-- Turns options on and off, and sets the parameters to the arguments behind the options. Each
round takes an argument. -/
def setOptions : Nat → State → List String → State
  | 0, s, _ => s
  | _, s, [] => s
  | n + 1, s, arg :: rest =>
    match arg.toList with
    | ['-', '-'] => { s with params := rest }
    | ['-'] =>
      let s := (switch s 'x' false |> (switch · 'v' false))
      if rest.isEmpty then s else { s with params := rest }
    | '-' :: letters =>
      let (s, rest) := switchAll true s rest letters
      if s.broken then s else setOptions n s rest
    | '+' :: letters =>
      let (s, rest) := switchAll false s rest letters
      if s.broken then s else setOptions n s rest
    | _ => { s with params := arg :: rest }

def set (s : State) (args : List String) : State × Flow :=
  if args.isEmpty then done (s.write (listing s "" (·.value.isSome))) 0
  else done (setOptions (args.length + 1) s args) 0

/-- A line of the input, with marks on characters behind backslashes unless backslashes are plain;
whether the line has an end; and what follows. -/
def inputLine (plain : Bool) : Nat → List Char → Marked × Bool × List Char
  | 0, cs => ([], false, cs)
  | _, [] => ([], false, [])
  | _ + 1, '\n' :: rest => ([], true, rest)
  | n + 1, c :: rest =>
    let put (m : Char × Bool) (rest : List Char) : Marked × Bool × List Char :=
      let (line, ended, rest) := inputLine plain n rest
      (m :: line, ended, rest)
    if c == '\\' && !plain then
      match rest with
      | '\n' :: rest => inputLine plain n rest
      | d :: rest => put (d, true) rest
      | [] => ([], false, [])
    else put (c, false) rest

/-- Gives the fields of a line to variables; the last one gets the rest, in which a separator at the
end counts only if other separators stand before it. -/
def give (separators : List Char) : State → List String → Marked → State
  | s, [], _ => s
  | s, name :: names, line =>
    let isSeparator (c : Char × Bool) : Bool := !c.2 && separators.contains c.1
    let isBlank (c : Char × Bool) : Bool := isSeparator c && Fields.isBlank c.1
    let line := line.dropWhile isBlank
    let field := line.takeWhile fun c => !(isSeparator c)
    let behind := (line.drop field.length).dropWhile isBlank
    let behind :=
      match behind with
      | c :: more => if isSeparator c then more.dropWhile isBlank else behind
      | [] => []
    match names with
    | [] =>
      let value := if behind.isEmpty then field else (line.reverse.dropWhile isBlank).reverse
      s.assign name (Marked.text value)
    | _ => give separators (s.assign name (Marked.text field)) names behind

def read (s : State) (args : List String) : State × Flow :=
  withCall s { plain := "r", valued := "p" } args fun call =>
    match call.operands with
    | [] => refuse s "arg count"
    | names =>
      match names.find? fun name => !(Lexer.isName name.toList) with
      | some bad => refuse s s!"{bad}: bad variable name"
      | none =>
        let (line, ended, rest) := inputLine (call.has 'r') (s.input.length + 1) s.input
        let s := s.withInput rest
        done (give s.separators s names (line.filter (·.1 != '\x00'))) (if ended then 0 else 1)

/-- Takes the next option from arguments. Several options can stand in one argument, so the place in
it is remembered. -/
def nextOption (s : State) (args : List String) : State × Flow :=
  match args with
  | known :: name :: given =>
    let given := if given.isEmpty then s.params else given
    let index := ((s.value? "OPTIND").bind number?).getD 1
    let quiet := known.toList.head? == some ':'
    let finish (s : State) (letter : Char) (argument : Option String) (index place : Nat)
        (status : Nat) : State × Flow :=
      let s := match argument with
        | some text => s.assign "OPTARG" text
        | none => { s with bindings := s.bindings.filter (·.1 != "OPTARG") }
      let s := (s.assign name letter.toString).assign "OPTIND" index.repr
      done { s with optionPlace := place } status
    let current := if index ≤ 1 || s.optionPlace == 0 then []
      else ((given[index - 2]?).getD "").toList.drop s.optionPlace
    let (letters, index, place) : Option (List Char) × Nat × Nat :=
      match current with
      | _ :: _ => (some current, index, s.optionPlace)
      | [] =>
        match ((given[index - 1]?).getD "").toList with
        | ['-', '-'] => (none, index + 1, 0)
        | '-' :: c :: more => (some (c :: more), index + 1, 1)
        | _ => (none, index, 0)
    match letters with
    | none | some [] => finish s '?' (s.value? "OPTARG") index 0 1
    | some (c :: more) =>
      let place := if more.isEmpty then 0 else place + 1
      let found := if c == ':' then [] else known.toList.dropWhile (· != c)
      match found with
      | [] =>
        if quiet then finish s '?' (some c.toString) index place 0
        else finish (s.writeError s!"Illegal option -{c}\n") '?' none index place 0
      | _ :: ':' :: _ =>
        match more, given[index - 1]? with
        | _ :: _, _ => finish s c (some (String.ofList more)) index 0 0
        | [], some value => finish s c (some value) (index + 1) 0 0
        | [], none =>
          if quiet then finish s ':' (some c.toString) index 0 0
          else finish (s.writeError s!"No arg for -{c} option\n") '?' none index 0 0
      | _ => finish s c (some "") index place 0
  | _ => refuse s "Usage: getopts optstring var [arg...]"

end ScriptBatch.Shell.Builtin
