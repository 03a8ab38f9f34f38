import ScriptBatch.Shell.Builtin.Signals
import ScriptBatch.Shell.Builtin.Variables

/-!
# Commands of the shell

The commands that the shell carries out itself.
-/

namespace ScriptBatch.Shell.Builtin

def echo (s : State) (args : List String) : State × Flow :=
  if (s.channels.lookup 1).isNone then done (s.complain "echo: I/O error") 1
  else done (s.write (Printing.echo args)) 0

def printf (s : State) (args : List String) : State × Flow :=
  withCall s {} args fun call =>
    match call.operands with
    | template :: args =>
      let printed := Printing.printf template args
      let s := s.write (String.ofList printed.text)
      let s := printed.complaints.foldl State.complain s
      match printed.invalid with
      | some directive => refuse s s!"{directive}: invalid directive"
      | none => done s (if printed.complaints.isEmpty then 0 else 1)
    | [] => refuse s "usage: printf format [arg ...]"

def test (s : State) (args : List String) : State × Flow :=
  match Condition.eval s args with
  | .ok true => done s 0
  | .ok false => done s 1
  | .error text => refuse s text

def bracket (s : State) (args : List String) : State × Flow :=
  if args.getLast? == some "]" then test s args.dropLast else refuse s "missing ]"

def cd (s : State) (args : List String) : State × Flow :=
  withCall s { plain := "LP" } args fun call =>
    let (path, isShown) :=
      match call.operands with
      | [] => ((s.value? "HOME").getD "", false)
      | "-" :: _ => ((s.value? "OLDPWD").getD "", true)
      | path :: _ => (path, false)
    let move (dir : List String) : State × Flow :=
      let moved := { s.assign "OLDPWD" s.here with cwd := dir }
      done (if isShown then moved.write (moved.here ++ "\n") else moved) 0
    if path.isEmpty then move s.cwd
    else
      match s.tree.directory s.cwd path with
      | .ok dir => move dir
      | .error _ => refuse s s!"can't cd to {path}"

/-- Ends the shell, with the last status if none is given. While something is being done about a
signal, the last status is the one from before. -/
def exit (s : State) (args : List String) : State × Flow :=
  match args with
  | [] => (s.withStatus (s.kept.getD s.status), .exit)
  | text :: _ =>
    withNumber s text fun n => ({ s with status := n, kept := s.kept.map fun _ => n }, .exit)

def comeBack (s : State) (args : List String) : State × Flow :=
  withCount s args s.status fun n => (s.withStatus n, .back)

/-- Leaves loops, at most as many as there are. -/
def leave (s : State) (args : List String) (f : Nat → Flow) : State × Flow :=
  withCount s args 1 fun n =>
    if n == 0 then refuse s ("Illegal number: " ++ args.headD "")
    else if s.loops == 0 then done s 0
    else (s.withStatus 0, f (min n s.loops))

def shift (s : State) (args : List String) : State × Flow :=
  withCount s args 1 fun n =>
    if n ≤ s.params.length then done { s with params := s.params.drop n } 0
    else refuse s "can't shift that many"

/-- Waits for commands in the background, which have already ended, and tells the status of the last
one that is asked for. -/
def wait (s : State) (args : List String) : State × Flow :=
  match args with
  | [] => done { s with jobs := [] } 0
  | _ =>
    args.foldl
      (fun (s, _) arg =>
        let job := (number? arg).bind fun n => s.jobs.lookup n
        done { s with jobs := s.jobs.filter (·.1.repr != arg) } (job.getD 127))
      (s, .next)

/-- Carries out a command of the shell, if it is one that runs no other commands. -/
def run? (s : State) (name : String) (args : List String) : Option (State × Flow) :=
  match name with
  | ":" | "true" => some (done s 0)
  | "false" => some (done s 1)
  | "echo" => some (echo s args)
  | "printf" => some (printf s args)
  | "test" => some (test s args)
  | "[" => some (bracket s args)
  | "read" => some (read s args)
  | "kill" => some (kill s args)
  | "trap" => some (trap s args)
  | "cd" | "chdir" => some (cd s args)
  | "pwd" => some (done (s.write (s.here ++ "\n")) 0)
  | "exit" => some (exit s args)
  | "return" => some (comeBack s args)
  | "break" => some (leave s args .leave)
  | "continue" => some (leave s args .again)
  | "shift" => some (shift s args)
  | "export" => some (exportVariables s args)
  | "readonly" => some (protect s args)
  | "local" => some (localVariables s args)
  | "unset" => some (unset s args)
  | "set" => some (set s args)
  | "getopts" => some (nextOption s args)
  | "wait" => some (wait s args)
  | "umask" => some (done (if args.isEmpty then s.write "0022\n" else s) 0)
  | "times" => some (done (s.write "0m0.000000s 0m0.000000s\n0m0.000000s 0m0.000000s\n") 0)
  | "hash" | "jobs" | "ulimit" | "alias" | "unalias" => some (done s 0)
  | "fg" | "bg" => some (refuse s "No current job")
  | _ => none

def names : List String :=
  [".", ":", "[", "alias", "bg", "break", "cd", "chdir", "command", "continue", "echo", "eval",
   "exec", "exit", "export", "false", "fg", "getopts", "hash", "jobs", "kill", "local", "printf",
   "pwd", "read", "readonly", "return", "set", "shift", "test", "times", "trap", "true", "type",
   "ulimit", "umask", "unalias", "unset", "wait"]

end ScriptBatch.Shell.Builtin
