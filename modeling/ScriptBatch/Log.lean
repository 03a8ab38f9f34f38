import ScriptBatch.Report
import ScriptBatch.Text.Quoted

/-!
# Log

A run tells what it does in a sequence of events. An event has a severity, belongs to a part of the
program, and is written on one line: a message, followed by the values that it is about.
-/

namespace ScriptBatch.Log

/-- How important an event is. -/
inductive Severity where
  | error
  | warn
  | info
  | debug
  | trace
  deriving Repr, DecidableEq, Inhabited

namespace Severity

/-- The most important ones come first. -/
def rank : Severity → Nat
  | error => 1
  | warn => 2
  | info => 3
  | debug => 4
  | trace => 5

def name : Severity → String
  | error => "error"
  | warn => "warn"
  | info => "info"
  | debug => "debug"
  | trace => "trace"

def all : List Severity := [error, warn, info, debug, trace]

/-- The severity at the start of a line, five characters wide. -/
def tag : Severity → String
  | error => "ERROR"
  | warn => " WARN"
  | info => " INFO"
  | debug => "DEBUG"
  | trace => "TRACE"

def ofName? (s : String) : Option Severity := all.find? (·.name == s)

end Severity

/-- The parts of the program that events come from. -/
inductive Topic where
  | loading
  | program
  | process
  | batch
  deriving Repr, DecidableEq

def Topic.path : Topic → String
  | loading => "statsbatch::config::loader"
  | program => "statsbatch"
  | process => "statsbatch::exec::process"
  | batch => "statsbatch::engine::dispatcher"

/-- Something worth telling. -/
inductive Event where
  | loadingFile (path : String)
  | usingStandardBatch
  | dryRunComplete
  | batchStarted (total : Nat) (onFailure : FailureMode)
  | entryDisabled (index : Nat) (label : String)
  | entryStarted (position total : Nat) (command : Command) (index : Nat) (label : String)
  | processStarting (program : String) (args : List String)
  | processExited (program : String) (code : Int) (success : Bool)
  | entryNotRunnable (index : Nat) (label : String) (cause : Error)
  | entryFailed (index : Nat) (label : String) (code : Int)
  | batchHalted
  | batchFinished (succeeded failed disabled notRun : Nat)
  deriving Repr, DecidableEq

namespace Event

def severity : Event → Severity
  | loadingFile _ | usingStandardBatch | dryRunComplete => .debug
  | batchStarted _ _ | entryStarted .. | processExited .. | batchFinished .. => .info
  | entryDisabled _ _ | processStarting _ _ => .debug
  | entryNotRunnable .. => .error
  | entryFailed .. | batchHalted => .warn

def topic : Event → Topic
  | loadingFile _ | usingStandardBatch => .loading
  | dryRunComplete => .program
  | processStarting _ _ | processExited .. => .process
  | _ => .batch

/-- Control characters that could drive a terminal, written by number. -/
def harmless (c : Char) : String :=
  if c == '\x1b' || c == '\x07' || c == '\x08' || c == '\x0c' || c == '\x7f' then
    (if c.toNat < 16 then "\\x0" else "\\x") ++ Text.hexText c.toNat
  else if 0x80 ≤ c.toNat && c.toNat ≤ 0x9F then "\\u\x7b" ++ Text.hexText c.toNat ++ "\x7d"
  else c.toString

def message : Event → String
  | loadingFile _ => "loading batch file"
  | usingStandardBatch => "no batch file given; using built-in batch"
  | dryRunComplete => "dry-run complete (no execution)"
  | batchStarted _ _ => "starting batch"
  | entryDisabled _ _ => "invocation disabled; skipping"
  | entryStarted position total command _ _ =>
    String.join (s!"[{position}/{total}] {command.display}".toList.map harmless)
  | processStarting _ _ => "spawning process"
  | processExited .. => "process exited"
  | entryNotRunnable .. => "invocation could not be run"
  | entryFailed .. => "invocation failed"
  | batchHalted => "halting batch after failure"
  | batchFinished .. => "batch finished"

def values : Event → List (String × String)
  | loadingFile path => [("path", path)]
  | usingStandardBatch | dryRunComplete | batchHalted => []
  | batchStarted total mode => [("total", total.repr), ("on_failure", mode.label)]
  | entryDisabled index label | entryStarted _ _ _ index label =>
    [("index", index.repr), ("label", label)]
  | processStarting program args => [("program", program), ("args", Text.quoteList args)]
  | processExited program code success =>
    [("program", program), ("exit_code", toString code), ("success", toString success)]
  | entryNotRunnable index label cause =>
    [("index", index.repr), ("label", label), ("error", cause.message)]
  | entryFailed index label code =>
    [("index", index.repr), ("label", label), ("exit_code", toString code)]
  | batchFinished succeeded failed disabled notRun =>
    [("succeeded", succeeded.repr), ("failed", failed.repr), ("disabled", disabled.repr),
     ("not_run", notRun.repr)]

def fields (e : Event) : List String := "message" :: e.values.map (·.1)

def line (e : Event) : String :=
  e.severity.tag ++ " " ++ e.message ++
    String.join (e.values.map fun v => " " ++ v.1 ++ "=" ++ v.2)

end Event

end ScriptBatch.Log
