import ScriptBatch.Shell.State

/-!
# Conditions

The conditions that scripts test: about texts, numbers and files, with negation, conjunction and
disjunction. Words are told apart by where they stand, so a word that could be an operator can also
be a text.
-/

namespace ScriptBatch.Shell

/-- A whole number in decimal digits, which may have a sign and blanks around it. -/
def integer? (text : String) : Option Int :=
  let isBlank (c : Char) : Bool := c == ' ' || ('\t' ≤ c && c ≤ '\r')
  let digits? (cs : List Char) : Option Int :=
    if cs.isEmpty || !cs.all Char.isDigit then none
    else some (cs.foldl (fun n c => 10 * n + (c.toNat - '0'.toNat : Nat)) 0)
  match ((text.toList.dropWhile isBlank).reverse.dropWhile isBlank).reverse with
  | '-' :: cs => (digits? cs).map fun n => -n
  | '+' :: cs => digits? cs
  | cs => digits? cs

namespace Condition

def nodeAt? (s : State) (path : String) : Option FileNode :=
  match s.tree.locate s.cwd path with
  | .ok p => s.tree.node? p
  | .error _ => none

abbrev Verdict := Except String Bool

def unary (s : State) (op arg : String) : Bool :=
  match op with
  | "-n" => !arg.isEmpty
  | "-z" => arg.isEmpty
  | "-e" | "-r" | "-w" | "-O" | "-G" => (nodeAt? s arg).isSome
  | "-f" =>
    match nodeAt? s arg with
    | some (.file ..) | some (.program _) => true
    | _ => false
  | "-d" =>
    match nodeAt? s arg with
    | some .directory => true
    | _ => false
  | "-c" =>
    match nodeAt? s arg with
    | some .nullDevice => true
    | _ => false
  | "-x" =>
    match nodeAt? s arg with
    | some (.file _ executable) => executable
    | some (.program _) | some .directory => true
    | _ => false
  | "-s" =>
    match nodeAt? s arg with
    | some (.file content _) => content.size != 0
    | some .nullDevice | none => false
    | some _ => true
  | _ => false

def isUnary (word : String) : Bool :=
  ["-r", "-w", "-x", "-e", "-f", "-d", "-c", "-b", "-p", "-u", "-g", "-k", "-s", "-t", "-z", "-n",
   "-h", "-O", "-G", "-L", "-S"].contains word

def isBinary (word : String) : Bool :=
  ["=", "!=", "<", ">", "-eq", "-ne", "-ge", "-gt", "-le", "-lt", "-nt", "-ot", "-ef"].contains word

def compareNumbers (a b : String) (p : Int → Int → Bool) : Verdict :=
  match integer? a, integer? b with
  | some x, some y => .ok (p x y)
  | none, _ => .error s!"Illegal number: {a}"
  | _, none => .error s!"Illegal number: {b}"

/-- A test of two texts, numbers or files. All files are equally old. -/
def binary (s : State) (a op b : String) : Verdict :=
  match op with
  | "=" => .ok (a == b)
  | "!=" => .ok (a != b)
  | "<" => .ok (decide (a < b))
  | ">" => .ok (decide (b < a))
  | "-eq" => compareNumbers a b (· == ·)
  | "-ne" => compareNumbers a b (· != ·)
  | "-lt" => compareNumbers a b fun x y => decide (x < y)
  | "-le" => compareNumbers a b fun x y => decide (x ≤ y)
  | "-gt" => compareNumbers a b fun x y => decide (y < x)
  | "-ge" => compareNumbers a b fun x y => decide (y ≤ x)
  | "-ef" =>
    match s.tree.locate s.cwd a, s.tree.locate s.cwd b with
    | .ok p, .ok q => .ok (p == q && (s.tree.node? p).isSome)
    | _, _ => .ok false
  | _ => .ok false

/-- A word as it is taken where the words start: `none` at the end, the word itself if it is an
operator there, and an empty text if it is a text. -/
def operator (words : List String) : Option String :=
  match words with
  | [] => none
  | w :: rest =>
    let isText :=
      match rest with
      | [] => true
      | [_] => false
      | next :: _ :: _ => isBinary next
    if isUnary w then some (if isText then "" else w)
    else if w == "(" then some (if rest.isEmpty then "" else w)
    else if isBinary w || ["!", "-a", "-o", ")"].contains w then some w
    else some ""

mutual

/-- Tests joined by `-o`. The words start with the last word of the test when it returns. -/
def disjunction (s : State) : Nat → List String → Except String (Bool × List String)
  | 0, ws => .ok (false, ws)
  | n + 1, ws => do
    let (first, ws) ← conjunction s n ws
    if operator ws.tail == some "-o" then
      let (second, ws) ← disjunction s n (ws.drop 2)
      .ok (first || second, ws)
    else .ok (first, ws)

def conjunction (s : State) : Nat → List String → Except String (Bool × List String)
  | 0, ws => .ok (false, ws)
  | n + 1, ws => do
    let (first, ws) ← negation s n ws
    if operator ws.tail == some "-a" then
      let (second, ws) ← conjunction s n (ws.drop 2)
      .ok (first && second, ws)
    else .ok (first, ws)

def negation (s : State) : Nat → List String → Except String (Bool × List String)
  | 0, ws => .ok (false, ws)
  | n + 1, ws =>
    if operator ws == some "!" then do
      let (b, ws) ← negation s n (if ws.tail.isEmpty then ws else ws.tail)
      .ok (!b, ws)
    else primary s n ws

def primary (s : State) : Nat → List String → Except String (Bool × List String)
  | 0, ws => .ok (false, ws)
  | n + 1, ws =>
    match operator ws, ws with
    | none, _ | _, [] => .ok (false, ws)
    | some "(", _ :: inner =>
      if operator inner == some ")" then .ok (false, inner)
      else do
        let (b, ws) ← disjunction s n inner
        if operator ws.tail == some ")" then .ok (b, ws.tail)
        else .error "closing paren expected"
    | some op, w :: rest =>
      if isUnary op then
        match rest with
        | [] => .error s!"{op}: argument expected"
        | arg :: _ => .ok (unary s op arg, rest)
      else
        match rest with
        | next :: after =>
          if isBinary next then
            match after with
            | [] => .error s!"{next}: argument expected"
            | b :: _ => (binary s w next b).map (·, after)
          else .ok (!w.isEmpty, ws)
        | [] => .ok (!w.isEmpty, ws)

end

/-- The result of a test. A negated operand at the end of the words has nothing to test. -/
def whole (s : State) (words : List String) : Verdict := do
  let n := 4 * words.length + 4
  let (b, last) ←
    match words with
    | [a, op, b] =>
      if isBinary op then (binary s a op b).map (·, [b]) else disjunction s n words
    | _ => disjunction s n words
  match last with
  | w :: _ :: _ => .error s!"{w}: unexpected operator"
  | _ => .ok b

/-- The result of a test of three words, in which an operator in the middle comes first. -/
def three (s : State) (a op b : String) : Verdict :=
  if isBinary op then whole s [a, op, b]
  else if a == "(" && b == ")" then whole s [op]
  else if a == "!" then (whole s [op, b]).map fun v => !v
  else whole s [a, op, b]

def eval (s : State) (words : List String) : Verdict :=
  match words with
  | [] => .ok false
  | [a] => .ok (!a.isEmpty)
  | [a, op, b] => three s a op b
  | [a, b, c, d] =>
    if a == "(" && d == ")" then whole s [b, c]
    else if a == "!" then (three s b c d).map fun v => !v
    else whole s words
  | _ => whole s words

end Condition

end ScriptBatch.Shell
