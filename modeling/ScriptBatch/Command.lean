import ScriptBatch.Text.Blank

/-!
# Commands

A command is what is handed to the operating system: a program, its arguments and the directory it
is started in. Its display form separates the arguments with spaces and puts single quotes around
those that are empty or contain a blank.
-/

namespace ScriptBatch

/-- A program with its arguments and the directory to start it in. -/
structure Command where
  program : String
  args : List String
  workingDir : Option String := none
  deriving Repr, DecidableEq, Inhabited

namespace Command

/-- The command that runs `argv`, through an interpreter if there is one. Without an interpreter the
first element of `argv` is the program. -/
def resolve (interpreter : Option String) (argv : List String) (workingDir : Option String) :
    Command :=
  match interpreter with
  | some program => ⟨program, argv, workingDir⟩
  | none => ⟨argv.headD "", argv.tail, workingDir⟩

def needsQuotes (arg : String) : Bool := arg.isEmpty || arg.toList.any Text.isBlank

def displayArg (arg : String) : String := if needsQuotes arg then "'" ++ arg ++ "'" else arg

/-- The command on one line, for a reader. -/
def display (c : Command) : String :=
  c.program ++ String.join (c.args.map fun arg => " " ++ displayArg arg)

end Command

end ScriptBatch
