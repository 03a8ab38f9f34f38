import ScriptBatch.Options

/-!
# The batch to run

The command line names a batch file, or else the standard batch is run. Its settings give way to
those of the command line, and only the result of that is checked.
-/

namespace ScriptBatch

open Log (Event)

/-- How a batch file is read: its text, by its path. -/
abbrev FileReader := String → Except FileError String

namespace Batch

def loadFrom (read : FileReader) (path : String) : Except Error Batch :=
  match read path with
  | .error e => .error (.unreadable e)
  | .ok text =>
    match BatchFile.load text with
    | .error e => .error (.unloadable e)
    | .ok b => .ok b

/-- The batch that the command line names, as it is written. -/
def loadFor (read : FileReader) (o : Options) : Except Error Batch :=
  match o.config with
  | some path => loadFrom read path
  | none => .ok standard

def loadEvent (o : Options) : Event :=
  match o.config with
  | some path => .loadingFile path
  | none => .usingStandardBatch

def override (b : Batch) (o : Options) : Batch := { b with settings := o.override b.settings }

def checked (b : Batch) : Except Error ValidBatch := b.validate.mapError .invalid

/-- The batch that the command line asks to run. -/
def resolve (read : FileReader) (o : Options) : Except Error ValidBatch := do
  ((← loadFor read o).override o).checked

end Batch

end ScriptBatch
