import ScriptBatch.Log

/-!
# Options

What the command line can ask for. Options that take a value, switches that do not, and two requests
for information.
-/

namespace ScriptBatch

/-- The requests of a command line. -/
structure Options where
  config : Option String := none
  interpreter : Option String := none
  noInterpreter : Bool := false
  script : Option String := none
  logDir : Option String := none
  workingDir : Option String := none
  failFast : Bool := false
  logLevel : Option Log.Severity := none
  dryRun : Bool := false
  deriving Repr, DecidableEq, Inhabited

/-- Options that take a value. -/
inductive ValueOption where
  | config
  | interpreter
  | script
  | logDir
  | workingDir
  | logLevel
  deriving Repr, DecidableEq

/-- Options that are given or not. -/
inductive Switch where
  | noInterpreter
  | failFast
  | dryRun
  deriving Repr, DecidableEq

/-- Requests for information, which are answered at once. -/
inductive Inquiry where
  | help
  | version
  deriving Repr, DecidableEq

/-- Everything that has a long name on the command line. -/
inductive Flag where
  | value (o : ValueOption)
  | switch (s : Switch)
  | inquiry (i : Inquiry)
  deriving Repr, DecidableEq

def ValueOption.name : ValueOption → String
  | config => "config"
  | interpreter => "interpreter"
  | script => "script"
  | logDir => "log-dir"
  | workingDir => "working-dir"
  | logLevel => "log-level"

def ValueOption.placeholder : ValueOption → String
  | config => "PATH"
  | interpreter => "PROG"
  | script => "PATH"
  | logDir => "DIR"
  | workingDir => "DIR"
  | logLevel => "LEVEL"

def Switch.name : Switch → String
  | noInterpreter => "no-interpreter"
  | failFast => "fail-fast"
  | dryRun => "dry-run"

def Inquiry.name : Inquiry → String
  | help => "help"
  | version => "version"

namespace Flag

def name : Flag → String
  | value o => o.name
  | switch s => s.name
  | inquiry i => i.name

def all : List Flag :=
  [.value .config, .value .interpreter, .switch .noInterpreter, .value .script, .value .logDir,
   .value .workingDir, .switch .failFast, .value .logLevel, .switch .dryRun, .inquiry .help,
   .inquiry .version]

def ofName? (name : String) : Option Flag := all.find? (·.name == name)

def display : Flag → String
  | value o => s!"--{o.name} <{o.placeholder}>"
  | switch s => s!"--{s.name}"
  | inquiry i => s!"--{i.name}"

end Flag

namespace Options

/-- Sets an option to a value. Only the log level restricts its values; `none` means that the value
is not one of them. -/
def setValue? (o : Options) (option : ValueOption) (text : String) : Option Options :=
  match option with
  | .config => some { o with config := some text }
  | .interpreter => some { o with interpreter := some text }
  | .script => some { o with script := some text }
  | .logDir => some { o with logDir := some text }
  | .workingDir => some { o with workingDir := some text }
  | .logLevel => (Log.Severity.ofName? text).map fun level => { o with logLevel := some level }

def setSwitch (o : Options) : Switch → Options
  | .noInterpreter => { o with noInterpreter := true }
  | .failFast => { o with failFast := true }
  | .dryRun => { o with dryRun := true }

/-- The settings with what the command line puts in their place. Doing without an interpreter wins
over naming one. -/
def override (o : Options) (s : Settings) : Settings :=
  { interpreter := if o.noInterpreter then none else o.interpreter.or s.interpreter
    script := o.script.getD s.script
    logDir := o.logDir.getD s.logDir
    workingDir := o.workingDir.or s.workingDir
    onFailure := if o.failFast then .halt else s.onFailure }

end Options

end ScriptBatch
