import ScriptBatch.Shell.Programs.Files
import ScriptBatch.Shell.Programs.Lines

/-!
# Small programs

The programs besides the shell that scripts can count on: they show, make and remove files, cut
paths and texts, calculate and test.
-/

namespace ScriptBatch.Shell.Programs

def baseName (path : String) (ending : String) : String :=
  let names := ((path.toList.splitOn '/').map String.ofList).filter (!·.isEmpty)
  let name := names.getLast?.getD (if path.isEmpty then "" else "/")
  if name != ending && name.endsWith ending then
    String.ofList (name.toList.take (name.length - ending.length))
  else name

def dirName (path : String) : String :=
  let names := ((path.toList.splitOn '/').map String.ofList).filter (!·.isEmpty)
  let root := if path.startsWith "/" then "/" else ""
  match names.dropLast with
  | [] => if root.isEmpty then "." else root
  | parents => root ++ "/".intercalate parents

def baseNames (s : State) (args : List String) : State × Flow :=
  withCall s "basename" { plain := "az", valued := "s" } 1 args fun call =>
    match call.has 'a' || (call.value? 's').isSome, call.operands with
    | _, [] => misuse s "basename" "missing operand" 1
    | true, paths =>
      done (s.write (joinLines (paths.map fun p => baseName p ((call.value? 's').getD "")))) 0
    | false, [path] => done (s.write (baseName path "" ++ "\n")) 0
    | false, [path, ending] => done (s.write (baseName path ending ++ "\n")) 0
    | false, _ :: _ :: extra :: _ => misuse s "basename" s!"extra operand '{extra}'" 1

def dirNames (s : State) (args : List String) : State × Flow :=
  withCall s "dirname" { plain := "z" } 1 args fun call =>
    if call.operands.isEmpty then misuse s "dirname" "missing operand" 1
    else done (s.write (joinLines (call.operands.map dirName))) 0

def sequence (s : State) (args : List String) : State × Flow :=
  let (separator, numbers) :=
    match args with
    | "-s" :: text :: rest => (text, rest)
    | first :: rest =>
      if first.startsWith "-s" then (String.ofList (first.toList.drop 2), rest) else ("\n", args)
    | [] => ("\n", [])
  match numbers.find? fun a => (integer? a).isNone with
  | some bad => misuse s "seq" s!"invalid floating point argument: '{bad}'" 1
  | none =>
    let range (first step last : Int) : List Int :=
      if step == 0 then []
      else
        let count := if 0 < step then (last - first) / step else (first - last) / (-step)
        if count < 0 then []
        else (List.range (count.toNat + 1)).map fun (i : Nat) => first + step * i
    let write (ns : List Int) : State × Flow :=
      done (s.write (if ns.isEmpty then "" else
        separator.intercalate (ns.map toString) ++ "\n")) 0
    match numbers.map fun a => (integer? a).getD 0 with
    | [last] => write (range 1 1 last)
    | [first, last] => write (range first 1 last)
    | [first, step, last] => write (range first step last)
    | [] => misuse s "seq" "missing operand" 1
    | _ =>
      let extra := (numbers.drop 3).headD ""
      misuse s "seq" s!"extra operand '{extra}'" 1

/-- Waits, which takes no time here. -/
def sleep (s : State) (args : List String) : State × Flow :=
  let isTime (a : String) : Bool :=
    let digits := (a.toList.takeWhile fun c => c.isDigit || c == '.')
    let unit := a.toList.drop digits.length
    digits.any Char.isDigit && ["", "s", "m", "h", "d"].contains (String.ofList unit)
  if args.isEmpty then misuse s "sleep" "missing operand" 1
  else
    match args.filter fun a => !(isTime a) with
    | [] => done s 0
    | bad =>
      let s := bad.dropLast.foldl
        (fun s a => complainAs s "sleep" s!"invalid time interval '{a}'") s
      let last := bad.getLast?.getD ""
      misuse s "sleep" s!"invalid time interval '{last}'" 1

mutual

/-- The value of an expression whose operators have at least this rank, and what follows it. -/
def expression : Nat → Nat → List String → Except String (String × List String)
  | 0, _, _ => .error "syntax error"
  | n + 1, rank, words => do
    let (first, rest) ← operand n words
    expressionRest n rank first rest
termination_by structural n => n

/-- Goes on behind the first operand, as long as operators of at least this rank follow. -/
def expressionRest : Nat → Nat → String → List String → Except String (String × List String)
  | 0, _, _, _ => .error "syntax error"
  | n + 1, rank, first, words =>
    let level (op : String) : Nat :=
      match op with
      | "|" => 1
      | "&" => 2
      | "=" | "==" | "!=" | "<" | "<=" | ">" | ">=" => 3
      | "+" | "-" => 4
      | "*" | "/" | "%" => 5
      | _ => 0
    match words with
    | op :: rest =>
      if level op == 0 || level op < rank then .ok (first, words)
      else do
        let (second, rest) ← expression n (level op + 1) rest
        expressionRest n rank (← combine op first second) rest
    | [] => .ok (first, words)
termination_by structural n => n

def operand : Nat → List String → Except String (String × List String)
  | 0, _ => .error "syntax error"
  | n + 1, words =>
    match words with
    | [] => .error "syntax error: missing argument"
    | "(" :: rest => do
      let (value, rest) ← expression n 1 rest
      match rest with
      | ")" :: rest => .ok (value, rest)
      | _ => .error "syntax error: expecting ')'"
    | "length" :: text :: rest => .ok (text.length.repr, rest)
    | word :: rest => .ok (word, rest)
termination_by structural n => n

def combine (op a b : String) : Except String String :=
  let isNull (v : String) : Bool := v.isEmpty || v == "0"
  let truth (p : Bool) : Except String String := .ok (if p then "1" else "0")
  let numbers (f : Int → Int → Except String String) : Except String String :=
    match integer? a, integer? b with
    | some x, some y => f x y
    | _, _ => .error "non-integer argument"
  let compare (p : Int → Int → Bool) (q : String → String → Bool) : Except String String :=
    match integer? a, integer? b with
    | some x, some y => truth (p x y)
    | _, _ => truth (q a b)
  match op with
  | "|" => .ok (if !(isNull a) then a else if isNull b then "0" else b)
  | "&" => .ok (if isNull a || isNull b then "0" else a)
  | "=" | "==" => compare (· == ·) (· == ·)
  | "!=" => compare (· != ·) (· != ·)
  | "<" => compare (fun x y => decide (x < y)) fun x y => decide (x < y)
  | "<=" => compare (fun x y => decide (x ≤ y)) fun x y => decide (x ≤ y)
  | ">" => compare (fun x y => decide (y < x)) fun x y => decide (y < x)
  | ">=" => compare (fun x y => decide (y ≤ x)) fun x y => decide (y ≤ x)
  | "+" => numbers fun x y => .ok (toString (x + y))
  | "-" => numbers fun x y => .ok (toString (x - y))
  | "*" => numbers fun x y => .ok (toString (x * y))
  | "/" => numbers fun x y =>
    if y == 0 then .error "division by zero" else .ok (toString (x.tdiv y))
  | "%" => numbers fun x y =>
    if y == 0 then .error "division by zero" else .ok (toString (x.tmod y))
  | _ => .error "syntax error"

end

def calculate (s : State) (args : List String) : State × Flow :=
  if args.isEmpty then misuse s "expr" "missing operand" 2
  else
    match expression (4 * args.length + 4) 1 args with
    | .error text => done (complainAs s "expr" text) 2
    | .ok (value, []) =>
      done (s.write (value ++ "\n")) (if value.isEmpty || value == "0" then 1 else 0)
    | .ok (_, extra :: _) =>
      done (complainAs s "expr" s!"syntax error: unexpected argument '{extra}'") 2

def test (s : State) (args : List String) : State × Flow :=
  let fail (text : String) : State × Flow := done (complainAs s "test" text) 2
  let isShort (a : String) : Bool := a.length == 2 && a.startsWith "-"
  let truth (b : Bool) : State × Flow := done s (if b then 0 else 1)
  let general : State × Flow :=
    match Condition.eval s args with
    | .ok b => truth b
    | .error text =>
      match text.toList.splitOn ' ' with
      | ['I', 'l', 'l', 'e', 'g', 'a', 'l'] :: _ :: number =>
        let number := String.ofList ([' '].intercalate number)
        fail s!"invalid integer '{number}'"
      | _ =>
        let extra := args.getLast?.getD ""
        fail s!"extra argument '{extra}'"
  match args with
  | [a, b] =>
    if a == "!" then truth b.isEmpty
    else if isShort a then
      if Condition.isUnary a then truth (Condition.unary s a b)
      else fail s!"'{a}': unary operator expected"
    else fail s!"missing argument after '{b}'"
  | [a, b, c] =>
    if Condition.isBinary b || b == "-a" || b == "-o" || a == "!" || (a == "(" && c == ")") then
      general
    else fail s!"'{b}': binary operator expected"
  | _ => general

def printf (s : State) (args : List String) : State × Flow :=
  match args with
  | [] => misuse s "printf" "missing operand" 1
  | template :: args =>
    let printed := Printing.printf template args
    let s := s.write (String.ofList printed.text)
    let s := printed.complaints.foldl (complainAs · "printf" ·) s
    match printed.invalid with
    | some directive =>
      done (complainAs s "printf" s!"{directive}: invalid conversion specification") 1
    | none =>
      let uses := template.toList.contains '%'
      match uses, args with
      | false, extra :: _ =>
        done (complainAs s "printf"
          s!"warning: ignoring excess arguments, starting with '{extra}'") 0
      | _, _ => done s (if printed.complaints.isEmpty then 0 else 1)

def environmentValues (s : State) (args : List String) : State × Flow :=
  let env := s.environment
  if args.isEmpty then done (s.write (joinLines (env.map fun v => s!"{v.1}={v.2}"))) 0
  else
    let values := args.filterMap fun name => env.lookup name
    done (s.write (joinLines values)) (if values.length == args.length then 0 else 1)

/-- Carries out a small program by its name, if it is one of those that are there. -/
def run? (s : State) (name : String) (args : List String) : Option (State × Flow) :=
  match name with
  | "true" => some (done s 0)
  | "false" => some (done s 1)
  | "sleep" => some (sleep s args)
  | "cat" => some (concatenate s args)
  | "head" => some (excerpt s "head" false args)
  | "tail" => some (excerpt s "tail" true args)
  | "wc" => some (count s args)
  | "sort" => some (sort s args)
  | "uniq" => some (unique s args)
  | "cut" => some (cut s args)
  | "tr" => some (replaceCharacters s args)
  | "tee" => some (duplicate s args)
  | "grep" => some (search s args)
  | "ls" => some (list s args)
  | "rm" => some (remove s args)
  | "rmdir" => some (removeDirectories s args)
  | "mkdir" => some (makeDirectories s args)
  | "touch" => some (touch s args)
  | "chmod" => some (changeMode s args)
  | "cp" => some (transfer s "cp" false args)
  | "mv" => some (transfer s "mv" true args)
  | "basename" => some (baseNames s args)
  | "dirname" => some (dirNames s args)
  | "seq" => some (sequence s args)
  | "expr" => some (calculate s args)
  | "test" => some (test s args)
  | "[" =>
    if args.getLast? == some "]" then some (test s args.dropLast)
    else some (done (complainAs s "[" "missing ']'") 2)
  | "echo" => some (done (s.write (Printing.echoPlain args)) 0)
  | "printf" => some (printf s args)
  | "pwd" => some (done (s.write (s.here ++ "\n")) 0)
  | "printenv" => some (environmentValues s args)
  | "env" => some (environmentValues s [])
  | _ => none

def names : List String :=
  ["true", "false", "sleep", "cat", "head", "tail", "wc", "sort", "uniq", "cut", "tr", "tee",
   "grep", "ls", "rm", "rmdir", "mkdir", "touch", "chmod", "cp", "mv", "basename", "dirname", "seq",
   "expr", "test", "[", "echo", "printf", "pwd", "printenv", "env"]

end ScriptBatch.Shell.Programs
