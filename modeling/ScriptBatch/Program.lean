import ScriptBatch.DryRun
import ScriptBatch.Log.Filter
import ScriptBatch.Options.Reader
import ScriptBatch.Process
import ScriptBatch.Resolve

/-!
# The program

From a command line to an exit code: the batch is resolved and shown or run, events pass the filter
on their way to the error stream, and an error is explained at the end.
-/

namespace ScriptBatch

open Log (Event)

/-- What a performance with some backend comes to. -/
structure Performance (σ : Type) where
  result : Except Error Unit
  /-- The text of a dry run. -/
  shown : String := ""
  log : List Event
  backend : σ

/-- Does what the options ask for: shows the batch that they name, or runs it with a backend. -/
def perform {σ : Type} (read : FileReader) (backend : Backend σ) (o : Options) (s : σ) :
    Performance σ :=
  let loading := Batch.loadEvent o
  match Batch.resolve read o with
  | .error e => { result := .error e, log := [loading], backend := s }
  | .ok b =>
    if o.dryRun then
      { result := .ok (), shown := DryRun.text b.batch, log := [loading, .dryRunComplete],
        backend := s }
    else
      let r := b.batch.run backend s
      { result := r.report.verdict, log := loading :: r.log, backend := r.backend }

/-- A performance with processes: its result, its output, what came to the error stream, and the
files that it left. -/
structure Session where
  result : Except Error Unit
  output : String
  told : List Told
  tree : FileTree

/-- Does what the options ask for in a directory of a file tree, with some environment variables. -/
def runSession (tree : FileTree) (home : List String) (environment : List (String × String))
    (o : Options) : Session :=
  let p := perform (tree.readText home) World.backend o { tree, home, environment }
  { result := p.result
    output := p.shown ++ p.backend.output
    told := weave p.log p.backend.transcripts
    tree := p.backend.tree }

/-- What is left when the program has ended. -/
structure Ending where
  exitCode : Nat
  output : String
  errors : String
  tree : FileTree

namespace Program

/-- What comes to the error stream under a filter. -/
def toldText (f : Log.Filter) : Told → String
  | .event e => if f.admits e then e.line ++ "\n" else ""
  | .text output => output

def lastWords : Except Error Unit → String
  | .ok () => ""
  | .error e => s!"{Usage.programName} error: {e.explained}\n"

/-- Runs the program with arguments and the value of the environment variable for its log. -/
def run (tree : FileTree) (home : List String) (args : List String) (logVariable : Option String) :
    Ending :=
  match Options.parse args with
  | .error (.help detailed) => ⟨0, Usage.helpText Usage.programName detailed, "", tree⟩
  | .error .version => ⟨0, Usage.versionText, "", tree⟩
  | .error (.misuse m) => ⟨2, "", Usage.message m, tree⟩
  | .ok o =>
    let f := Log.Filter.choose o.logLevel logVariable
    let s := runSession tree home (logVariable.toList.map (Usage.logVariable, ·)) o
    { exitCode := if s.result.isOk then 0 else 1
      output := s.output
      errors := String.join (s.told.map (toldText f)) ++ lastWords s.result
      tree := s.tree }

end Program

end ScriptBatch
