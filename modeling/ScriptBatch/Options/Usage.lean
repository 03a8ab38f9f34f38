import ScriptBatch.Options
import ScriptBatch.Text.Plain

/-!
# Usage

The texts that explain the command line: help in a short and in a detailed form, and messages about
command lines that cannot be understood.
-/

namespace ScriptBatch

/-- Why a command line cannot be understood. -/
inductive Misuse where
  /-- An argument without meaning, after these flags. -/
  | unexpected (arg : String) (after : List Flag)
  | missingValue (option : ValueOption)
  | badValue (option : ValueOption) (value : String)
  /-- A value for a flag that takes none, after these flags. -/
  | unneededValue (flag : Flag) (value : String) (after : List Flag)
  | repeated (flag : Flag)
  /-- Two flags that exclude each other, with all flags given but the second one. -/
  | conflict (first second : Flag) (given : List Flag)
  deriving Repr, DecidableEq

/-- Why reading a command line ends without options. -/
inductive Stop where
  | help (detailed : Bool)
  | version
  | misuse (cause : Misuse)
  deriving Repr, DecidableEq

namespace Usage

def programName : String := "statsbatch"

def versionText : String := programName ++ " 0.1.0\n"

def logVariable : String := "STATSBATCH_LOG"

def levelNames : String := ", ".intercalate (Log.Severity.all.map Log.Severity.name)

/-- The first line of the message about a misuse. It repeats arguments, but nothing in them that
would control a terminal. -/
def headline : Misuse → String
  | .unexpected arg _ => s!"error: unexpected argument '{Text.plain arg}' found"
  | .missingValue option =>
    s!"error: a value is required for '{(Flag.value option).display}' but none was supplied"
  | .badValue option value =>
    s!"error: invalid value '{Text.plain value}' for '{(Flag.value option).display}'"
  | .unneededValue flag value _ =>
    let shown := Text.plain value
    s!"error: unexpected value '{shown}' for '{flag.display}' found; no more were expected"
  | .repeated flag => s!"error: the argument '{flag.display}' cannot be used multiple times"
  | .conflict first second _ =>
    s!"error: the argument '{first.display}' cannot be used with '{second.display}'"

/-- The usage line: arguments that the program could be started with, or that there are options at
all. -/
def usageLine (name : String) (arguments : List String) : String :=
  "Usage: " ++ name ++
    match arguments with
    | [] => " [OPTIONS]"
    | _ => String.join (arguments.map (" " ++ ·))

def valueOf? : Misuse → Option ValueOption
  | .missingValue option => some option
  | .badValue option _ => some option
  | _ => none

/-- What help says about a flag: a summary, and paragraphs if there is more to say. -/
structure Entry where
  flag : Flag
  summary : String
  paragraphs : List String := []

def entries : List Entry :=
  [⟨.value .config, "Path to a batch file (TOML)",
    ["Path to a batch file (TOML).",
     "If omitted, the built-in batch of ten `-pn` runs against `./apilogs/` is used."]⟩,
   ⟨.value .interpreter,
    "Interpreter used to launch the script (overrides `[config].interpreter`)", []⟩,
   ⟨.switch .noInterpreter, "Execute the script directly instead of through an interpreter", []⟩,
   ⟨.value .script, "Statistics script to run (overrides `[config].script`)", []⟩,
   ⟨.value .logDir,
    "Log directory passed as the first positional argument (overrides `[config].log_dir`)", []⟩,
   ⟨.value .workingDir,
    "Working directory for every invocation (overrides `[config].working_dir`)", []⟩,
   ⟨.switch .failFast, "Stop the batch at the first failed invocation", []⟩,
   ⟨.value .logLevel,
    s!"Logging level (error, warn, info, debug, trace) [possible values: {levelNames}]",
    ["Logging level (error, warn, info, debug, trace).",
     s!"If omitted, `{logVariable}` or a default level will be used.",
     s!"[possible values: {levelNames}]"]⟩,
   ⟨.switch .dryRun, "Parse + validate, print the command lines, but don't execute anything", []⟩]

/-- Any one of the flags that help lists with a summary of their own. -/
def choice : String := "<" ++ "|".intercalate (entries.map (·.flag.display)) ++ ">"

/-- The arguments that the usage line shows. A value that is not needed shows its flag alone if no
other flag came before it, and any choice of flags otherwise. -/
def shownArguments : Misuse → List String
  | .unexpected _ after => after.map Flag.display
  | .unneededValue flag _ [] => [flag.display]
  | .unneededValue flag _ (_ :: _) =>
    match flag with
    | .inquiry _ => [flag.display, choice]
    | _ => [choice]
  | .conflict _ _ given => given.map Flag.display
  | _ => []

def message (m : Misuse) : String :=
  headline m ++ "\n" ++
    (if valueOf? m == some .logLevel then s!"  [possible values: {levelNames}]\n" else "") ++
    "\n" ++
    (if (valueOf? m).isSome then "" else usageLine programName (shownArguments m) ++ "\n\n") ++
    "For more information, try '--help'.\n"

def flagColumn (f : Flag) : String :=
  match f with
  | .inquiry .help => "  -h, " ++ f.display
  | .inquiry .version => "  -V, " ++ f.display
  | _ => "      " ++ f.display

def inquiryEntries (detailed : Bool) : List Entry :=
  [⟨.inquiry .help,
    if detailed then "Print help (see a summary with '-h')"
    else "Print help (see more with '--help')", []⟩,
   ⟨.inquiry .version, "Print version", []⟩]

def summaryColumn : Nat := 28

def briefEntry (e : Entry) : String :=
  let flag := flagColumn e.flag
  flag ++ String.ofList (List.replicate (summaryColumn - flag.length) ' ') ++ e.summary ++ "\n"

def detailedEntry (e : Entry) : String :=
  let paragraphs := if e.paragraphs.isEmpty then [e.summary] else e.paragraphs
  flagColumn e.flag ++ "\n" ++
    "          \n".intercalate (paragraphs.map fun p => "          " ++ p ++ "\n")

def helpText (name : String) (detailed : Bool) : String :=
  let all := entries ++ inquiryEntries detailed
  "Run the API-log statistics script over a batch of flag combinations.\n\n" ++
    usageLine (Text.plain name) [] ++ "\n\nOptions:\n" ++
    if detailed then "\n".intercalate (all.map detailedEntry)
    else String.join (all.map briefEntry)

/-- The name that help uses: the last name on the path under which the program was started. -/
def nameOf (path : String) : String :=
  let isAbsolute := path.toList.head? == some '/'
  let parts := (path.toList.splitOn '/').map String.ofList
  let parts := parts.filter (!·.isEmpty)
  -- A dot counts only as the first part of a relative path.
  let named := match parts with
    | "." :: rest => if isAbsolute then rest.filter (· != ".") else "." :: rest.filter (· != ".")
    | _ => parts.filter (· != ".")
  match named.getLast? with
  | some "." | some ".." | none => programName
  | some name => name

end Usage

end ScriptBatch
