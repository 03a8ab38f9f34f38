import ScriptBatch.BatchFile.Decode
import ScriptBatch.FileTree
import ScriptBatch.Violation

/-!
# Errors

The causes for which a batch is not run, or not run to its end.
-/

namespace ScriptBatch

/-- Why a command cannot be started. -/
inductive StartFailure where
  | file (cause : FileError)
  /-- The file is neither a program nor a script. -/
  | notAProgram
  | nulInCommand
  /-- A failure that was prepared in advance. -/
  | prepared
  deriving Repr, DecidableEq

def StartFailure.message : StartFailure → String
  | file cause => cause.message
  | notAProgram => "Exec format error (os error 8)"
  | nulInCommand => "nul byte found in provided data"
  | prepared => "fake spawn error"

/-- Why a batch is not run, or not run to its end. -/
inductive Error where
  | invalid (violation : Violation)
  | unreadable (cause : FileError)
  | unloadable (cause : BatchFile.LoadError)
  | notStarted (program : String) (cause : StartFailure)
  | incomplete (failed total notRun : Nat)
  /-- An error that is known by its text alone, and by that of its cause if it has one. -/
  | other (text : String) (cause : Option String)
  deriving Repr, DecidableEq

namespace Error

def message : Error → String
  | invalid violation => "Configuration error: " ++ violation.message
  | unreadable cause => "IO error: " ++ cause.message
  | unloadable cause => "TOML parsing error: " ++ cause.message
  | notStarted program cause => s!"Failed to spawn '{program}': {cause.message}"
  | incomplete failed total notRun =>
    s!"{failed} of {total} invocations failed, {notRun} not run"
  | other text _ => text

def cause? : Error → Option String
  | unreadable cause => some cause.message
  | unloadable cause => some cause.message
  | notStarted _ cause => some cause.message
  | other _ cause => cause
  | invalid _ | incomplete .. => none

def indented (text : String) : String :=
  "\n".intercalate ((Toml.Excerpt.lines text).map ("    " ++ ·))

/-- The error with the cause behind it. -/
def explained (e : Error) : String :=
  match e.cause? with
  | some cause => e.message ++ "\n\nCaused by:\n" ++ indented cause
  | none => e.message

end Error

end ScriptBatch
