/-!
# Signals

Signals end processes, unless they are harmless or a script has said what to do about them.
-/

namespace ScriptBatch.Shell

/-- A signal: its name, its number, and what is said about a process that it ends. -/
structure Signal where
  name : String
  number : Nat
  /-- Without words the end of a process is not mentioned. -/
  words : String := ""
  /-- The signal ends a process. -/
  fatal : Bool := true
  deriving Repr, DecidableEq

namespace Signal

def named : List Signal :=
  [⟨"HUP", 1, "Hangup", true⟩, ⟨"INT", 2, "", true⟩, ⟨"QUIT", 3, "Quit", true⟩,
   ⟨"ILL", 4, "Illegal instruction", true⟩, ⟨"TRAP", 5, "Trace/breakpoint trap", true⟩,
   ⟨"ABRT", 6, "Aborted", true⟩, ⟨"BUS", 7, "Bus error", true⟩,
   ⟨"FPE", 8, "Floating point exception", true⟩, ⟨"KILL", 9, "Killed", true⟩,
   ⟨"USR1", 10, "User defined signal 1", true⟩, ⟨"SEGV", 11, "Segmentation fault", true⟩,
   ⟨"USR2", 12, "User defined signal 2", true⟩, ⟨"PIPE", 13, "", true⟩,
   ⟨"ALRM", 14, "Alarm clock", true⟩, ⟨"TERM", 15, "Terminated", true⟩,
   ⟨"16", 16, "Stack fault", true⟩, ⟨"CHLD", 17, "", false⟩, ⟨"CONT", 18, "", false⟩,
   ⟨"STOP", 19, "", false⟩, ⟨"TSTP", 20, "", false⟩, ⟨"TTIN", 21, "", false⟩,
   ⟨"TTOU", 22, "", false⟩, ⟨"URG", 23, "", false⟩,
   ⟨"XCPU", 24, "CPU time limit exceeded", true⟩,
   ⟨"XFSZ", 25, "File size limit exceeded", true⟩, ⟨"VTALRM", 26, "Virtual timer expired", true⟩,
   ⟨"PROF", 27, "Profiling timer expired", true⟩, ⟨"WINCH", 28, "", false⟩,
   ⟨"IO", 29, "I/O possible", true⟩, ⟨"PWR", 30, "Power failure", true⟩,
   ⟨"SYS", 31, "Bad system call", true⟩]

/-- The signals that are free for any use. They are counted from both ends. -/
def free : List Signal :=
  (List.range 33).map fun i =>
    let name :=
      if i < 2 then (32 + i).repr
      else if i == 2 then "RTMIN"
      else if i ≤ 17 then "RTMIN+" ++ (i - 2).repr
      else if i < 32 then "RTMAX-" ++ (32 - i).repr
      else "RTMAX"
    let words := if i < 2 then s!"Unknown signal {32 + i}" else s!"Real-time signal {i - 2}"
    ⟨name, 32 + i, words, true⟩

def all : List Signal := named ++ free

/-- Nothing that a process would notice; and in traps, the end of the shell. -/
def exit : Signal := ⟨"EXIT", 0, "", false⟩

/-- A script has no say in what this signal does. -/
def isFinal (s : Signal) : Bool := s.name == "KILL" || s.name == "STOP"

def ofText? (text : String) : Option Signal :=
  let upper := String.ofList (text.toList.map Char.toUpper)
  (exit :: all).find? fun s => s.name == upper || s.number.repr == text

end Signal

end ScriptBatch.Shell
