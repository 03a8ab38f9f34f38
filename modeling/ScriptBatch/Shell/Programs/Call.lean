import ScriptBatch.Shell.Condition
import ScriptBatch.Shell.Fields
import ScriptBatch.Shell.Printing

/-!
# How programs are called

Programs besides the shell take options and operands, complain under their own names, and end with a
status.
-/

namespace ScriptBatch.Shell.Programs

/-- The options and the operands of a call. An option may have a value. -/
structure Call where
  options : List (Char × String) := []
  operands : List String := []

namespace Call

def has (c : Call) (letter : Char) : Bool := c.options.any (·.1 == letter)

/-- The value of an option; the last one counts. -/
def value? (c : Call) (letter : Char) : Option String :=
  (c.options.reverse.find? (·.1 == letter)).map (·.2)

end Call

/-- The letters of the options that a program knows, without and with values. -/
structure Known where
  plain : String := ""
  valued : String := ""

/-- The options in a group of letters. The last one may take the next argument as its value. -/
def letters (k : Known) (rest : List String) :
    List Char → Except String (List (Char × String) × List String)
  | [] => .ok ([], rest)
  | c :: more =>
    if k.valued.toList.contains c then
      match more, rest with
      | [], [] => .error s!"option requires an argument -- '{c}'"
      | [], value :: rest => .ok ([(c, value)], rest)
      | _, _ => .ok ([(c, String.ofList more)], rest)
    else if k.plain.toList.contains c then do
      let (options, rest) ← letters k rest more
      .ok ((c, "") :: options, rest)
    else .error s!"invalid option -- '{c}'"

/-- Tells options and operands apart, which may come in any order. Each round takes an argument. -/
def readCall (k : Known) : Nat → List String → Except String Call
  | 0, _ => .ok {}
  | _, [] => .ok {}
  | n + 1, arg :: rest =>
    match arg.toList with
    | ['-', '-'] => .ok { operands := rest }
    | '-' :: '-' :: _ => .error s!"unrecognized option '{arg}'"
    | '-' :: c :: more => do
      let (options, rest) ← letters k rest (c :: more)
      let call ← readCall k n rest
      .ok { call with options := options ++ call.options }
    | _ => do
      let call ← readCall k n rest
      .ok { call with operands := arg :: call.operands }

def complainAs (s : State) (name text : String) : State := s.writeError s!"{name}: {text}\n"

def misuse (s : State) (name text : String) (status : Nat) : State × Flow :=
  done ((complainAs s name text).writeError s!"Try '{name} --help' for more information.\n") status

def withCall (s : State) (name : String) (k : Known) (status : Nat) (args : List String)
    (f : Call → State × Flow) : State × Flow :=
  match readCall k (args.length + 1) args with
  | .ok call => f call
  | .error text => misuse s name text status

def reason : FileError → String
  | .isADirectory => "Is a directory"
  | .notADirectory => "Not a directory"
  | .permissionDenied => "Permission denied"
  | .nameTooLong => "File name too long"
  | _ => "No such file or directory"

/-- Does something with each argument; the status tells whether all went well. -/
def forEach (s : State) (args : List String) (failure : Nat)
    (f : State → String → State × Bool) : State × Flow :=
  let (s, ok) := args.foldl
    (fun (s, ok) arg =>
      let (s, fine) := f s arg
      (s, ok && fine))
    (s, true)
  done s (if ok then 0 else failure)

/-- The text of a file, or of the input if the file is called `-`. -/
def source (s : State) (arg : String) : Except FileError (String × State) :=
  if arg == "-" then .ok (String.ofList s.input, s.withInput [])
  else (s.tree.readText s.cwd arg).map (·, s)

def orInput (args : List String) : List String := if args.isEmpty then ["-"] else args

def linesOf (text : String) : List String :=
  let pieces := text.toList.splitOn '\n'
  let last := pieces.getLast?.getD []
  pieces.dropLast.map (fun l => String.ofList (l ++ ['\n'])) ++
    if last.isEmpty then [] else [String.ofList last]

def bareLines (text : String) : List String :=
  (linesOf text).map fun l =>
    if l.toList.getLast? == some '\n' then String.ofList l.toList.dropLast else l

def joinLines (ls : List String) : String := String.join (ls.map (· ++ "\n"))

/-- Reads all operands and goes on with each text; what cannot be read is complained about. -/
def readEach (s : State) (name : String) (operands : List String) :
    List (String × String) × State × Bool :=
  (orInput operands).foldl
    (fun (texts, s, ok) path =>
      match source s path with
      | .ok (text, s) => (texts ++ [(path, text)], s, ok)
      | .error e => (texts, complainAs s name s!"{path}: {reason e}", false && ok))
    ([], s, true)

end ScriptBatch.Shell.Programs
