import ScriptBatch.Command
import ScriptBatch.Invocation

/-!
# Batches

A batch is a list of entries with settings that they share.
-/

namespace ScriptBatch

namespace Settings

def defaultInterpreter : String := "python3"

def defaultScript : String := "stats.py"

def defaultLogDir : String := "./apilogs/"

end Settings

/-- Settings shared by the entries of a batch. -/
structure Settings where
  interpreter : Option String := some Settings.defaultInterpreter
  script : String := Settings.defaultScript
  logDir : String := Settings.defaultLogDir
  workingDir : Option String := none
  onFailure : FailureMode := .proceed
  deriving Repr, DecidableEq, Inhabited

namespace Settings

/-- The interpreter without blanks around it; a blank one counts as none, and the script is then the
program itself. -/
def effectiveInterpreter (s : Settings) : Option String :=
  (s.interpreter.map Text.trim).filter fun text => !text.isEmpty

def commandFor (s : Settings) (i : Invocation) : Command :=
  .resolve s.effectiveInterpreter (i.argv s.script s.logDir) s.workingDir

end Settings

/-- Settings and the entries that share them, in the order in which they run. -/
structure Batch where
  settings : Settings := {}
  invocations : List Invocation := []
  deriving Repr, DecidableEq, Inhabited

namespace Batch

/-- The enabled entries with their positions in the batch, counted from zero. -/
def enabled (b : Batch) : List (Nat × Invocation) :=
  (b.invocations.zipIdx.map fun p => (p.2, p.1)).filter (·.2.enabled)

def enabledCount (b : Batch) : Nat := b.enabled.length

def commandFor (b : Batch) (i : Invocation) : Command := b.settings.commandFor i

/-- The ten runs of the standard batch: a plain one, one with a threshold, and runs that leave out
more and more tags. -/
def standardInvocations : List Invocation :=
  let base := Invocation.plotNormalized
  [base,
   base.withMinApis 2,
   base.ignoring [.empty],
   base.ignoring [.packed],
   base.ignoring [.dotnet, .nonc],
   base.ignoring [.dotnet, .nonc, .packed],
   base.ignoring [.dotnet, .nonc, .dll],
   base.ignoring [.dotnet, .nonc, .dll, .packed],
   base.ignoring Tag.all,
   (base.ignoring Tag.all).withMinApis 2]

/-- The batch that is run when no batch file is given. -/
def standard : Batch := { invocations := standardInvocations }

end Batch

end ScriptBatch
