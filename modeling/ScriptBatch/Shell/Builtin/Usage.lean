import ScriptBatch.Shell.Programs

/-!
# How commands of the shell are used

Commands of the shell read their own options and numbers. A command that is used wrongly breaks off
with a complaint.
-/

namespace ScriptBatch.Shell.Builtin

def refuse (s : State) (text : String) : State × Flow := (s.breakOff text, .next)

/-- A number that is not negative and has at most 31 bits. -/
def number? (text : String) : Option Nat :=
  match integer? text with
  | some n => if 0 ≤ n && n < 0x80000000 then some n.toNat else none
  | none => none

def withNumber (s : State) (text : String) (f : Nat → State × Flow) : State × Flow :=
  match number? text with
  | some n => f n
  | none => refuse s s!"Illegal number: {text}"

/-- Goes on with the number in the first argument, if there is one, and else with `default`. -/
def withCount (s : State) (args : List String) (default : Nat) (f : Nat → State × Flow) :
    State × Flow :=
  match args with
  | [] => f default
  | text :: _ => withNumber s text f

/-- The options in a group of letters. The last one may take the next argument as its value. -/
def letters (k : Programs.Known) (rest : List String) :
    List Char → Except String (List (Char × String) × List String)
  | [] => .ok ([], rest)
  | c :: more =>
    if k.valued.toList.contains c then
      match more, rest with
      | [], [] => .error s!"No arg for -{c} option"
      | [], value :: rest => .ok ([(c, value)], rest)
      | _, _ => .ok ([(c, String.ofList more)], rest)
    else if k.plain.toList.contains c then do
      let (options, rest) ← letters k rest more
      .ok ((c, "") :: options, rest)
    else .error s!"Illegal option -{c}"

/-- The options at the start of the arguments. Each round takes an argument. -/
def readCall (k : Programs.Known) : Nat → List String → Except String Programs.Call
  | 0, args => .ok { operands := args }
  | _, [] => .ok {}
  | n + 1, arg :: rest =>
    match arg.toList with
    | ['-', '-'] => .ok { operands := rest }
    | '-' :: c :: more => do
      let (options, rest) ← letters k rest (c :: more)
      let call ← readCall k n rest
      .ok { call with options := options ++ call.options }
    | _ => .ok { operands := arg :: rest }

def withCall (s : State) (k : Programs.Known) (args : List String)
    (f : Programs.Call → State × Flow) : State × Flow :=
  match readCall k (args.length + 1) args with
  | .ok call => f call
  | .error text => refuse s text

/-- Text that a shell would read as one word: single quotes among the characters stand between
double quotes, and everything else between single ones. Each round takes at least one character. -/
def quoted : Nat → List Char → List Char
  | 0, _ => []
  | n + 1, cs =>
    let plain := cs.takeWhile (· != '\'')
    let rest := cs.drop plain.length
    let marks := rest.takeWhile (· == '\'')
    let first := '\'' :: plain ++ ['\'']
    match rest.drop marks.length with
    | [] => if marks.isEmpty then first else first ++ '"' :: marks ++ ['"']
    | c :: more => first ++ '"' :: marks ++ '"' :: quoted n (c :: more)

def quote (text : String) : String := String.ofList (quoted (text.length + 1) text.toList)

end ScriptBatch.Shell.Builtin
