import ScriptBatch.Shell.State

/-!
# Arithmetic

Expressions between double parentheses. They are read from text and evaluated on whole numbers of 64
bits; a variable without a value counts as zero, and an expression can give a variable a new value.
-/

namespace ScriptBatch.Shell

/-- Operators between two numbers. -/
inductive BinOp where
  | or | and | bitOr | bitXor | bitAnd | eq | ne | le | ge | lt | gt | shiftLeft | shiftRight
  | add | sub | mul | div | mod
  deriving Repr, DecidableEq

/-- Operators before a number. -/
inductive UnOp where
  | negate | complement | not
  deriving Repr, DecidableEq

/-- An expression. An assignment may combine the old value with the new one. -/
inductive Arith where
  | number (n : Int)
  | name (x : String)
  | unary (op : UnOp) (e : Arith)
  | binary (op : BinOp) (a b : Arith)
  | choose (test yes no : Arith)
  | assign (x : String) (op : Option BinOp) (e : Arith)
  deriving Repr, Inhabited

namespace BinOp

/-- The operators as they are written, with their ranks. A higher rank binds tighter, and no
operator stands behind one that is the start of it. -/
def all : List (String × Nat × BinOp) :=
  [("||", 1, .or), ("&&", 2, .and), ("==", 6, .eq), ("!=", 6, .ne), ("<<", 8, .shiftLeft),
   (">>", 8, .shiftRight), ("<=", 7, .le), (">=", 7, .ge), ("<", 7, .lt), (">", 7, .gt),
   ("|", 3, .bitOr), ("^", 4, .bitXor), ("&", 5, .bitAnd), ("+", 9, .add), ("-", 9, .sub),
   ("*", 10, .mul), ("/", 10, .div), ("%", 10, .mod)]

def combining : List BinOp :=
  [.shiftLeft, .shiftRight, .bitOr, .bitXor, .bitAnd, .add, .sub, .mul, .div, .mod]

end BinOp

namespace Arith

/-- The 64 bits of a number, read with a sign. -/
def wrap (n : Int) : Int := n.bmod 0x10000000000000000

def ofBool (b : Bool) : Int := if b then 1 else 0

def bitwise (f : BitVec 64 → BitVec 64 → BitVec 64) (a b : Int) : Int :=
  (f (BitVec.ofInt 64 a) (BitVec.ofInt 64 b)).toInt

/-- The value of an operator; a division by zero has none. -/
def apply2 (op : BinOp) (a b : Int) : Option Int :=
  match op with
  | .or => some (ofBool (a != 0 || b != 0))
  | .and => some (ofBool (a != 0 && b != 0))
  | .bitOr => some (bitwise (· ||| ·) a b)
  | .bitXor => some (bitwise (· ^^^ ·) a b)
  | .bitAnd => some (bitwise (· &&& ·) a b)
  | .eq => some (ofBool (a == b))
  | .ne => some (ofBool (a != b))
  | .le => some (ofBool (a ≤ b))
  | .ge => some (ofBool (b ≤ a))
  | .lt => some (ofBool (a < b))
  | .gt => some (ofBool (b < a))
  | .shiftLeft => some (wrap (a * Nat.pow 2 (b.toNat % 64)))
  | .shiftRight => some (a / Nat.pow 2 (b.toNat % 64))
  | .add => some (wrap (a + b))
  | .sub => some (wrap (a - b))
  | .mul => some (wrap (a * b))
  | .div => if b == 0 then none else some (wrap (a.tdiv b))
  | .mod => if b == 0 then none else some (a.tmod b)

def apply1 : UnOp → Int → Int
  | .negate, n => wrap (-n)
  | .complement, n => -n - 1
  | .not, n => ofBool (n == 0)

def digit? (base : Nat) (c : Char) : Option Nat :=
  let value :=
    if c.isDigit then some (c.toNat - '0'.toNat)
    else if 'a' ≤ c.toLower && c.toLower ≤ 'f' then some (c.toLower.toNat - 'a'.toNat + 10)
    else none
  value.filter (· < base)

def ofDigits? (base : Nat) (cs : List Char) : Option Nat :=
  if cs.isEmpty then none
  else cs.foldlM (fun n c => (digit? base c).map (base * n + ·)) 0

/-- A number: hexadecimal behind `0x`, octal behind another zero, and else decimal. -/
def number? : List Char → Option Nat
  | '0' :: 'x' :: cs => ofDigits? 16 cs
  | '0' :: 'X' :: cs => ofDigits? 16 cs
  | '0' :: cs => if cs.isEmpty then some 0 else ofDigits? 8 cs
  | cs => ofDigits? 10 cs

def numeral (cs : List Char) : List Char :=
  let digits (base : Nat) (cs : List Char) : List Char :=
    cs.takeWhile fun c => (digit? base c).isSome
  match cs with
  | '0' :: x :: rest =>
    if (x == 'x' || x == 'X') && !(digits 16 rest).isEmpty then '0' :: x :: digits 16 rest
    else '0' :: digits 8 (x :: rest)
  | _ => digits 10 cs

/-- The number in the text of a variable, which may have a sign and blanks around it. -/
def ofText? (text : String) : Option Int :=
  let isBlank (c : Char) : Bool := c == ' ' || c == '\t' || c == '\n'
  let cs := ((text.toList.dropWhile isBlank).reverse.dropWhile isBlank).reverse
  match cs with
  | [] => some 0
  | '-' :: cs => (number? cs).map fun n => wrap (-n)
  | '+' :: cs => (number? cs).map fun n => wrap n
  | cs => (number? cs).map fun n => wrap n

/-- Why an expression has no value. -/
inductive Fault where
  /-- Something is missing, or something follows the expression. -/
  | expecting (what : String)
  | divisionByZero
  | notANumber (text : String)
  deriving Repr, DecidableEq

def Fault.message (text : String) : Fault → String
  | expecting what => s!"arithmetic expression: expecting {what}: \"{text}\""
  | divisionByZero => s!"arithmetic expression: division by zero: \"{text}\""
  | notANumber value => s!"Illegal number: {value}"

def valueOf (s : State) (x : String) : Except Fault Int :=
  let text := (s.value? x).getD ""
  match ofText? text with
  | some n => .ok n
  | none => .error (.notANumber text)

/-- The value of an expression and the state that it leaves. The second operand of a logical
operator is evaluated only if the first one leaves the value open. -/
def eval : Arith → State → Except Fault (Int × State)
  | number n, s => .ok (wrap n, s)
  | name x, s => do .ok (← valueOf s x, s)
  | unary op e, s => do
    let (n, s) ← eval e s
    .ok (apply1 op n, s)
  | binary op a b, s => do
    let (m, s) ← eval a s
    if op == .or && m != 0 then .ok (1, s)
    else if op == .and && m == 0 then .ok (0, s)
    else
      let (n, s) ← eval b s
      .ok (← (apply2 op m n).elim (.error .divisionByZero) .ok, s)
  | choose test yes no, s => do
    let (n, s) ← eval test s
    if n != 0 then eval yes s else eval no s
  | assign x none e, s => do
    let (n, s) ← eval e s
    .ok (n, s.assign x (toString n))
  | assign x (some op) e, s => do
    let m ← valueOf s x
    let (n, s) ← eval e s
    let k ← (apply2 op m n).elim (.error .divisionByZero) .ok
    .ok (k, s.assign x (toString k))

def skipBlanks (cs : List Char) : List Char :=
  cs.dropWhile fun c => c == ' ' || c == '\t' || c == '\n'

def operator? (cs : List Char) : Option (Nat × BinOp × List Char) :=
  (BinOp.all.find? fun o => o.1.toList.isPrefixOf cs).map fun o =>
    (o.2.1, o.2.2, cs.drop o.1.length)

/-- An assignment sign at the start of a text, with the operator that is part of it. -/
def assignment? (cs : List Char) : Option (Option BinOp × List Char) :=
  match cs with
  | '=' :: '=' :: _ => none
  | '=' :: rest => some (none, rest)
  | _ =>
    match operator? cs with
    | some (_, op, '=' :: rest) =>
      if BinOp.combining.contains op then some (some op, rest) else none
    | _ => none

abbrev Reading := Except Fault (Arith × List Char)

mutual

def readWhole : Nat → List Char → Reading
  | 0, _ => .error (.expecting "primary")
  | n + 1, cs =>
    let cs := skipBlanks cs
    let name := cs.takeWhile fun c => c.isAlphanum || c == '_'
    let assigned :=
      if name.isEmpty || name.head?.any Char.isDigit then none
      else assignment? (skipBlanks (cs.drop name.length))
    match assigned with
    | some (op, rest) => do
      let (e, rest) ← readWhole n rest
      .ok (.assign (String.ofList name) op e, rest)
    | none => do
      let (test, rest) ← readFrom n 1 cs
      match skipBlanks rest with
      | '?' :: rest => do
        let (yes, rest) ← readWhole n rest
        match skipBlanks rest with
        | ':' :: rest => do
          let (no, rest) ← readWhole n rest
          .ok (.choose test yes no, rest)
        | _ => .error (.expecting "':'")
      | rest => .ok (test, rest)
termination_by structural n => n

def readFrom : Nat → Nat → List Char → Reading
  | 0, _, _ => .error (.expecting "primary")
  | n + 1, rank, cs => do
    let (first, rest) ← readOperand n cs
    readRest n rank first rest
termination_by structural n => n

/-- Goes on behind the first operand, as long as operators of at least this rank follow. -/
def readRest : Nat → Nat → Arith → List Char → Reading
  | 0, _, _, _ => .error (.expecting "primary")
  | n + 1, rank, first, cs =>
    match operator? (skipBlanks cs) with
    | some (r, op, rest) =>
      if rank ≤ r then do
        let (second, rest) ← readFrom n (r + 1) rest
        readRest n rank (.binary op first second) rest
      else .ok (first, cs)
    | none => .ok (first, cs)
termination_by structural n => n

/-- A number, a name, an expression in parentheses, or one of these behind an operator. -/
def readOperand : Nat → List Char → Reading
  | 0, _ => .error (.expecting "primary")
  | n + 1, cs =>
    match skipBlanks cs with
    | '-' :: rest => do
      let (e, rest) ← readOperand n rest
      .ok (.unary .negate e, rest)
    | '+' :: rest => readOperand n rest
    | '~' :: rest => do
      let (e, rest) ← readOperand n rest
      .ok (.unary .complement e, rest)
    | '!' :: rest => do
      let (e, rest) ← readOperand n rest
      .ok (.unary .not e, rest)
    | '(' :: rest => do
      let (e, rest) ← readWhole n rest
      match skipBlanks rest with
      | ')' :: rest => .ok (e, rest)
      | _ => .error (.expecting "')'")
    | cs =>
      if cs.head?.any Char.isDigit then
        let digits := numeral cs
        .ok (.number ((number? digits).getD 0), cs.drop digits.length)
      else
        let word := cs.takeWhile fun c => c.isAlphanum || c == '_'
        if word.isEmpty then .error (.expecting "primary")
        else .ok (.name (String.ofList word), cs.drop word.length)
termination_by structural n => n

end

/-- The expression that a text stands for; blanks alone stand for zero. -/
def parse (cs : List Char) : Except Fault Arith :=
  if (skipBlanks cs).isEmpty then .ok (.number 0)
  else do
    let (e, rest) ← readWhole (4 * cs.length + 4) cs
    if (skipBlanks rest).isEmpty then .ok e else .error (.expecting "EOF")

def evalText (text : String) (s : State) : Except String (Int × State) :=
  let result : Except Fault (Int × State) := do (← parse text.toList).eval s
  result.mapError (Fault.message text)

end Arith

end ScriptBatch.Shell
