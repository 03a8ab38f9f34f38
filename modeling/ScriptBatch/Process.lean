import ScriptBatch.Run
import ScriptBatch.Shell.Eval

/-!
# Processes

The backend that really runs commands. Commands run in a file tree with a few installed programs,
the shell among them; they change the tree and write output, and an exit code or a signal ends them.
-/

namespace ScriptBatch

open Log (Event)

/-- Something on the error stream: an event, or output of a command. -/
inductive Told where
  | event (e : Event)
  | text (output : String)
  deriving Repr, DecidableEq

/-- Where commands run: the files, the directory they are started in, the variables they see, what
they have written, and for each command what came to the error stream while it ran. -/
structure World where
  tree : FileTree
  home : List String
  environment : List (String × String) := []
  output : String := ""
  transcripts : List (List Told) := []

namespace World

/-- The files of a system on which nothing but the usual programs is installed. -/
def systemTree : FileTree :=
  let base := (FileTree.insert {} ["dev", "null"] .nullDevice).insert ["tmp"] .directory
  ("sh" :: Shell.Programs.names).foldl
    (fun t name =>
      (t.insert ["usr", "bin", name] (.program name)).insert ["bin", name] (.program name))
    base

def allowance : Nat := 1000000

/-- A text that the operating system cannot take. -/
def hasNul (text : String) : Bool := text.toList.contains '\x00'

/-- Runs a command: how the shell ended, or why nothing was started. -/
def launch (w : World) (c : Command) : Except StartFailure (Shell.State × Shell.Flow) := do
  if hasNul c.program || c.args.any hasNul || c.workingDir.any hasNul then .error .nulInCommand
  else
    let cwd ← match c.workingDir with
      | none => .ok w.home
      | some dir => (w.tree.directory w.home dir).mapError .file
    let start : Shell.State :=
      { tree := w.tree, cwd, name := c.program, params := c.args
        bindings := w.environment.map fun (name, value) => (name, { value, exported := true }) }
    let found := Shell.findProgram w.tree cwd Shell.programDirectories c.program
    match ← found.mapError StartFailure.file with
    | .unknown => .error .notAProgram
    | .program name leading => .ok (Shell.runProgram allowance start name (leading ++ c.args))

/-- The exit code of a command, `-1` if a signal ended it. -/
def exitCode (s : Shell.State) : Shell.Flow → Int
  | .killed _ => -1
  | _ => s.status % 256

def note (w : World) (told : List Told) : World :=
  { w with transcripts := w.transcripts ++ [told] }

def backend : Backend World := fun w c =>
  let starting := Told.event (.processStarting c.program c.args)
  match w.launch c with
  | .error cause => (w.note [starting], .error (.notStarted c.program cause))
  | .ok (s, flow) =>
    let code := exitCode s flow
    let exited := Told.event (.processExited c.program code (code == 0))
    let errors := if s.errors.isEmpty then [] else [Told.text s.errors]
    let w := { w with tree := s.tree, output := w.output ++ s.output }
    (w.note (starting :: errors ++ [exited]), .ok (if code == 0 then .success else .failed code))

end World

/-- Puts what was told while each command ran behind the event that announces the command. -/
def weave : List Event → List (List Told) → List Told
  | [], transcripts => transcripts.flatten
  | e :: events, transcripts =>
    match e, transcripts with
    | .entryStarted .., told :: rest => .event e :: told ++ weave events rest
    | _, _ => .event e :: weave events transcripts

end ScriptBatch
