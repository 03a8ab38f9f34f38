import ScriptBatch.Batch

/-!
# Dry runs

A dry run shows the settings and the command of every entry, and starts nothing. Disabled entries
are marked with `#`.
-/

namespace ScriptBatch.DryRun

/-- A number in at least two columns. -/
def number (n : Nat) : String := if n < 10 then " " ++ n.repr else n.repr

def settingsLines (s : Settings) : List String :=
  ["  config.interpreter = " ++ s.effectiveInterpreter.getD "(none)",
   "  config.script = " ++ s.script,
   "  config.log_dir = " ++ s.logDir] ++
  (s.workingDir.toList.map ("  config.working_dir = " ++ ·)) ++
  ["  config.on_failure = " ++ s.onFailure.label]

def commandLine (b : Batch) (i : Invocation) (index : Nat) : String :=
  (if i.enabled then " " else "#") ++ " " ++ number (index + 1) ++ ". " ++ (b.commandFor i).display

def entryLines (b : Batch) (entry : Invocation × Nat) : List String :=
  commandLine b entry.1 entry.2 :: entry.1.name.toList.map ("       name: " ++ ·)

def lines (b : Batch) : List String :=
  ["statsbatch dry-run"] ++ settingsLines b.settings ++
    ["", s!"invocations ({b.enabledCount} enabled of {b.invocations.length}):"] ++
    b.invocations.zipIdx.flatMap (entryLines b)

def text (b : Batch) : String := String.join ((lines b).map (· ++ "\n"))

end ScriptBatch.DryRun
