import ScriptBatch.FileTree
import ScriptBatch.Shell.Signal
import ScriptBatch.Shell.Syntax

/-!
# The state of a shell

Everything that commands of a script can see and change: the file tree, the working directory, the
variables and parameters, what the file descriptors stand for, and what to do about signals.
-/

namespace ScriptBatch.Shell

/-- What a file descriptor stands for. -/
inductive Channel where
  /-- The output of the batch. -/
  | output
  /-- The error stream of the batch. -/
  | errors
  /-- Output that a word or the next command of a pipeline is waiting for. -/
  | capture (number : Nat)
  | file (path : List String)
  /-- Text to read, by its number. -/
  | input (number : Nat)
  | nowhere
  deriving Repr, DecidableEq

/-- How the commands go on. -/
inductive Flow where
  | next
  /-- The shell ends. -/
  | exit
  /-- The shell is ended by a signal. -/
  | killed (signal : Nat)
  /-- A function ends. -/
  | back
  /-- This many loops end. -/
  | leave (loops : Nat)
  /-- This many loops end, and the last one goes on with its next round. -/
  | again (loops : Nat)
  deriving Repr, DecidableEq

/-- A variable. It can be known without having a value. -/
structure Variable where
  value : Option String := none
  /-- Programs started from here see it. -/
  exported : Bool := false
  /-- It keeps its value. -/
  fixed : Bool := false
  deriving Repr, DecidableEq

structure State where
  tree : FileTree
  cwd : List String
  /-- The name under which the script runs, for its messages. -/
  name : String := "sh"
  params : List String := []
  bindings : List (String × Variable) := []
  functions : List (String × Cmd) := []
  status : Nat := 0
  channels : List (Nat × Channel) := [(0, .input 0), (1, .output), (2, .errors)]
  /-- What is left of texts to read. -/
  texts : List (Nat × List Char) := []
  captures : List (Nat × String) := []
  /-- The number for the next text or capture. -/
  fresh : Nat := 1
  output : String := ""
  errors : String := ""
  /-- The line of the command that is being run. -/
  line : Nat := 0
  /-- The command that runs other commands and speaks for them. -/
  speaker : Option String := none
  /-- The options that are on, by their letters. -/
  switches : List Char := []
  /-- Somebody asks for the status of what is being run, so its failure does not end the shell. -/
  tested : Bool := false
  /-- Something could not be done, which ends the shell. -/
  broken : Bool := false
  /-- The signal that ended the shell while a word was expanded. -/
  struck : Option Nat := none
  /-- What to do about signals, by their names; nothing at all for an empty text. -/
  traps : List (String × String) := []
  /-- Signals that have arrived and wait for what is to be done. -/
  arrived : List String := []
  /-- How many shells inside of the first one. -/
  level : Nat := 0
  /-- What the first shell does about signals. -/
  outerTraps : List (String × String) := []
  /-- The number of the process. -/
  number : Nat := 4711
  /-- What functions that are running have made local, with the variables from before. -/
  frames : List (List (String × Option Variable)) := []
  /-- Commands that ran in the background, with their statuses. -/
  jobs : List (Nat × Nat) := []
  lastJob : Option Nat := none
  /-- The place inside of an argument with several options. -/
  optionPlace : Nat := 0
  /-- How many loops are being run in this function. -/
  loops : Nat := 0
  /-- The status of the last commands whose output became part of a word. -/
  substituted : Nat := 0
  /-- The status from before what is being done about a signal. -/
  kept : Option Nat := none
  deriving Inhabited

def done (s : State) (status : Nat) : State × Flow := ({ s with status }, .next)

namespace State

def isOn (s : State) (letter : Char) : Bool := s.switches.contains letter

def channel (s : State) (descriptor : Nat) : Channel :=
  (s.channels.lookup descriptor).getD .nowhere

def setChannel (s : State) (descriptor : Nat) (c : Channel) : State :=
  { s with channels := (descriptor, c) :: s.channels.filter (·.1 != descriptor) }

def send (s : State) (c : Channel) (text : String) : State :=
  match c with
  | .output => { s with output := s.output ++ text }
  | .errors => { s with errors := s.errors ++ text }
  | .capture n =>
    { s with
      captures := (n, (s.captures.lookup n).getD "" ++ text) :: s.captures.filter (·.1 != n) }
  | .file path => { s with tree := s.tree.append path text }
  | .input _ | .nowhere => s

def write (s : State) (text : String) : State := s.send (s.channel 1) text

def writeError (s : State) (text : String) : State := s.send (s.channel 2) text

def complain (s : State) (text : String) : State :=
  let speaker := (s.speaker.map (· ++ ": ")).getD ""
  s.writeError s!"{s.name}: {s.line}: {speaker}{text}\n"

def complainAs (s : State) (command text : String) : State :=
  { { s with speaker := some command }.complain text with speaker := s.speaker }

def withStatus (s : State) (status : Nat) : State := { s with status }

def breakOff (s : State) (text : String) : State :=
  { s.complain text with broken := true, status := 2 }

def ending (s : State) : Flow :=
  match s.struck with
  | some signal => .killed signal
  | none => .exit

def input (s : State) : List Char :=
  match s.channel 0 with
  | .input n => (s.texts.lookup n).getD []
  | _ => []

def withInput (s : State) (text : List Char) : State :=
  match s.channel 0 with
  | .input n => { s with texts := (n, text) :: s.texts.filter (·.1 != n) }
  | _ => s

def openText (s : State) (descriptor : Nat) (text : List Char) : State :=
  let s := { s with texts := (s.fresh, text) :: s.texts, fresh := s.fresh + 1 }
  s.setChannel descriptor (.input (s.fresh - 1))

def binding? (s : State) (name : String) : Option Variable := s.bindings.lookup name

def setVariable (s : State) (name : String) (v : Variable) : State :=
  { s with bindings := (name, v) :: s.bindings.filter (·.1 != name) }

def assign (s : State) (name value : String) : State :=
  let old := (s.binding? name).getD {}
  if old.fixed then s.breakOff s!"{name}: is read only"
  else
    let s := if name == "OPTIND" then { s with optionPlace := 0 } else s
    s.setVariable name { old with value := some value, exported := old.exported || s.isOn 'a' }

def here (s : State) : String := "/" ++ "/".intercalate s.cwd

def switchLetters : List Char := "pubaCEVvxsnmiIfe".toList

def builtinValue? (s : State) (name : String) : Option String :=
  match name with
  | "PWD" => some s.here
  | "IFS" => some " \t\n"
  | "OPTIND" => some "1"
  | "PS4" => some "+ "
  | "PPID" => some (s.number - 1).repr
  | _ => none

def separators (s : State) : List Char :=
  match s.binding? "IFS" with
  | some v => (v.value.getD " \t\n").toList
  | none => " \t\n".toList

/-- The parameters as one text, divided by the first separator. -/
def joinedParams (s : State) : String :=
  (String.ofList (s.separators.take 1)).intercalate s.params

def value? (s : State) (name : String) : Option String :=
  match name with
  | "#" => some s.params.length.repr
  | "?" => some s.status.repr
  | "$" => some s.number.repr
  | "0" => some s.name
  | "-" => some (String.ofList (switchLetters.filter s.switches.contains))
  | "!" => s.lastJob.map Nat.repr
  | "@" => if s.params.isEmpty then none else some (" ".intercalate s.params)
  | "*" => if s.params.isEmpty then none else some s.joinedParams
  | _ =>
    match name.toNat? with
    | some n => if n == 0 then some s.name else s.params[n - 1]?
    | none =>
      match s.binding? name with
      | some v => v.value
      | none => s.builtinValue? name

def environment (s : State) : List (String × String) :=
  s.bindings.filterMap fun (name, v) =>
    if v.exported then v.value.map fun value => (name, value) else none

/-- A shell of its own, with its own name and parameters, which sees the environment. Signals that
are ignored stay so. -/
def started (s : State) (name : String) (params : List String) : State :=
  { s with
    name, params, functions := [], switches := [], tested := false, speaker := none, line := 0
    bindings := s.environment.map fun (name, value) => (name, { value, exported := true })
    traps := s.traps.filter (·.2.isEmpty), arrived := [], level := 0, frames := []
    number := s.number + s.fresh, fresh := s.fresh + 1, jobs := [], lastJob := none, status := 0
    loops := 0, kept := none }

/-- A shell inside of this one. Only signals that are ignored stay so. -/
def inner (s : State) : State :=
  { s with
    level := s.level + 1, traps := s.traps.filter (·.2.isEmpty), jobs := [], kept := none
    outerTraps := if s.level == 0 then s.traps else s.outerTraps }

def trap? (s : State) (signal : String) : Option String :=
  (if s.level == 0 then s.traps else s.outerTraps).lookup signal

def notice (s : State) (signal : String) : State :=
  if s.arrived.contains signal then s else { s with arrived := s.arrived ++ [signal] }

/-- What another shell or program leaves behind: files, output and input, but no variables. Its end
is itself a signal. -/
def after (outer inner : State) : State :=
  let s := { outer with
    tree := inner.tree, status := inner.status % 256, texts := inner.texts
    captures := inner.captures, fresh := inner.fresh, output := inner.output
    errors := inner.errors }
  if (s.traps.lookup "CHLD").any (!·.isEmpty) then s.notice "CHLD" else s

end State

end ScriptBatch.Shell
