import ScriptBatch.Shell.Builtin.Usage

/-!
# Commands for signals

Commands of the shell that send signals and say what to do about them.
-/

namespace ScriptBatch.Shell.Builtin

/-- Says what to do about signals, or lists what is to be done. Without an action, or with a number
in its place, signals get their usual effects back. -/
def trap (s : State) (args : List String) : State × Flow :=
  withCall s {} args fun call =>
    let set (action : Option String) (s : State) (signal : Signal) : State :=
      let others := s.traps.filter (·.1 != signal.name)
      { s with traps := (action.map ((signal.name, ·))).toList ++ others }
    let rec setAll (action : Option String) (s : State) : List String → State × Flow
      | [] => done s 0
      | word :: rest =>
        match Signal.ofText? word with
        | some signal => setAll action (set action s signal) rest
        | none => done (s.writeError s!"trap: {word}: bad trap\n") 1
    match call.operands with
    | [] =>
      let ls := (Signal.exit :: Signal.all).filterMap fun signal =>
        (s.traps.lookup signal.name).map fun action => s!"trap -- {quote action} {signal.name}"
      done (s.write (Programs.joinLines ls)) 0
    | [only] => setAll none s [only]
    | first :: rest =>
      let isNumber := first.toList.all Char.isDigit && (Signal.ofText? first).isSome
      if isNumber then setAll none s (first :: rest)
      else setAll (if first == "-" then none else some first) s rest

def receive (s : State) (signal : Signal) : State × Flow :=
  match if signal.isFinal then none else s.trap? signal.name with
  | some action => done (if action.isEmpty then s else s.notice signal.name) 0
  | none => if signal.fatal then (s, .killed signal.number) else done s 0

/-- Sends a signal to processes by their numbers. Besides the shell itself only commands in the
background are there, and they have already ended. -/
def sendAll (signal : Signal) : State → Nat → List String → State × Flow
  | s, status, [] => done s status
  | s, status, target :: rest =>
    withNumber s target fun n =>
      if n == s.number then
        match receive s signal with
        | (s, .next) => sendAll signal s status rest
        | stopped => stopped
      else if s.jobs.any (·.1 == n) then sendAll signal s status rest
      else sendAll signal (s.complain "No such process\n") 1 rest

def kill (s : State) (args : List String) : State × Flow :=
  let usage : State × Flow :=
    refuse s ("Usage: kill [-s sigspec | -signum | -sigspec] [pid | job]... or\n" ++
      "kill -l [exitstatus]")
  let signal? (text : String) : Option Signal :=
    (Signal.ofText? text).filter fun signal => signal.number != 0 || text == "0"
  let send (signal : Signal) (targets : List String) : State × Flow :=
    if targets.isEmpty then usage else sendAll signal s 0 targets
  let withOptions : State × Flow :=
    withCall s { plain := "l", valued := "s" } args fun call =>
      match call.has 'l', call.operands with
      | true, [] => done (s.write (Programs.joinLines ("0" :: Signal.all.map (·.name)))) 0
      | true, text :: _ =>
        withNumber s text fun n =>
          let n := if 128 < n then n - 128 else n
          match Signal.all.find? (·.number == n) with
          | some signal => done (s.write (signal.name ++ "\n")) 0
          | none => refuse s s!"invalid signal number or exit status: {text}"
      | false, targets =>
        let name := (call.value? 's').getD "TERM"
        match signal? name with
        | some signal => send signal targets
        | none => refuse s s!"invalid signal number or name: {name}"
  match args with
  | [] => usage
  | first :: rest =>
    match first.toList with
    | '-' :: name =>
      match signal? (String.ofList name) with
      | some signal => send signal rest
      | none => withOptions
    | _ => withOptions

end ScriptBatch.Shell.Builtin
