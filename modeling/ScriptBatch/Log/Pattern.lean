/-!
# Patterns in log directives

A directive can name a value that a field has to have: a number, or a regular expression. Only
whether the value can be read matters here, because events are not judged by it. The text never
holds a closing brace, which would end the directive, so no repetition can be counted.
-/

namespace ScriptBatch.Log.Pattern

/-- A number: digits with an optional sign, point and exponent, or one of the words for values that
have no digits. -/
def isNumber (cs : List Char) : Bool :=
  let unsigned : List Char :=
    match cs with
    | '+' :: rest | '-' :: rest => rest
    | _ => cs
  let whole := unsigned.takeWhile Char.isDigit
  let (fraction, rest) :=
    match unsigned.drop whole.length with
    | '.' :: rest => (rest.takeWhile Char.isDigit, rest.dropWhile Char.isDigit)
    | rest => ([], rest)
  let exponent : List Char :=
    match rest with
    | 'e' :: '+' :: digits | 'E' :: '+' :: digits | 'e' :: '-' :: digits | 'E' :: '-' :: digits
    | 'e' :: digits | 'E' :: digits => digits
    | _ => ['0']
  let isWord := ["inf", "infinity", "nan"].contains (String.ofList (unsigned.map Char.toLower))
  let endsWell := rest.isEmpty || rest.head? == some 'e' || rest.head? == some 'E'
  isWord || (!(whole ++ fraction).isEmpty && endsWell && !exponent.isEmpty &&
    exponent.all Char.isDigit)

/-- What follows the digits of a character's code, of which there are exactly `size`, or any number
of them between braces, which cannot be closed here. -/
def afterCode? (size : Nat) (cs : List Char) : Option (List Char) :=
  let isHex (c : Char) : Bool := c.isDigit || ('a' ≤ c && c ≤ 'f') || ('A' ≤ c && c ≤ 'F')
  if (cs.take size).length == size && (cs.take size).all isHex then some (cs.drop size) else none

/-- What follows an escape, and the character that it stands for if it is a single one. -/
def afterEscape? (cs : List Char) : Option (Option Char × List Char) :=
  match cs with
  | 'x' :: rest => (afterCode? 2 rest).map (none, ·)
  | 'u' :: rest => (afterCode? 4 rest).map (none, ·)
  | 'U' :: rest => (afterCode? 8 rest).map (none, ·)
  | 'p' :: c :: rest | 'P' :: c :: rest =>
    if "CLMNPSZ".toList.contains c then some (none, rest) else none
  | c :: rest =>
    if "dDsSwWAz<>".toList.contains c then some (none, rest)
    else if "aftnrv".toList.contains c then some (none, rest)
    else if c.isAlphanum || 127 < c.toNat then none
    else some (some c, rest)
  | [] => none

def classNames : List String :=
  ["alnum", "alpha", "ascii", "blank", "cntrl", "digit", "graph", "lower", "print", "punct",
   "space", "upper", "word", "xdigit"]

/-- What follows a class with a name between colons, behind its opening bracket. -/
def afterNamedClass? (cs : List Char) : Option (List Char) :=
  match cs with
  | ':' :: rest =>
    let rest : List Char :=
      match rest with
      | '^' :: rest => rest
      | _ => rest
    let name := rest.takeWhile Char.isAlpha
    match rest.drop name.length with
    | ':' :: ']' :: after =>
      if classNames.contains (String.ofList name) then some after else none
    | _ => none
  | _ => none

mutual

/-- What follows a list of characters, behind its opening bracket. -/
def afterClass? : Nat → List Char → Option (List Char)
  | 0, _ => none
  | n + 1, cs =>
    let cs : List Char :=
      match cs with
      | '^' :: rest => rest
      | _ => cs
    match cs.dropWhile (· == '-') with
    | ']' :: rest =>
      -- Behind dashes a bracket closes the list, and at its start it belongs to it.
      if cs.head? == some '-' then some rest else afterItems? n rest
    | rest => afterItems? n rest
termination_by structural n => n

/-- What follows the rest of a list of characters. A range has to go upwards. -/
def afterItems? : Nat → List Char → Option (List Char)
  | 0, _ => none
  | n + 1, cs =>
    match cs with
    | [] => none
    | ']' :: rest => some rest
    | '[' :: rest =>
      match afterNamedClass? rest with
      | some after => afterItems? n after
      | none => (afterClass? n rest).bind (afterItems? n)
    | _ => do
      let (first, rest) ← afterItem? cs
      match rest with
      | '-' :: last :: _ =>
        if last == ']' || last == '-' then afterItems? n rest.tail
        else
          let (second, rest) ← afterItem? rest.tail
          let upwards : Bool :=
            match first, second with
            | some a, some b => a ≤ b
            | _, _ => true
          if upwards then afterItems? n rest else none
      | _ => afterItems? n rest
termination_by structural n => n

def afterItem? (cs : List Char) : Option (Option Char × List Char) :=
  match cs with
  | '\\' :: rest => afterEscape? rest
  | c :: rest => some (some c, rest)
  | [] => none

end

/-- What follows the start of a group behind its question mark: a name, or switches. The truth value
tells whether a group is open. -/
def afterGroup? (cs : List Char) : Option (Bool × List Char) :=
  let named (cs : List Char) : Option (Bool × List Char) :=
    let name := cs.takeWhile fun c => c.isAlphanum || c == '_'
    match name, cs.drop name.length with
    | c :: _, '>' :: rest => if c.isDigit then none else some (true, rest)
    | _, _ => none
  match cs with
  | 'P' :: '<' :: rest | '<' :: rest => named rest
  | _ =>
    let flags := cs.takeWhile fun c => "imsUuxR-".toList.contains c
    match cs.drop flags.length with
    | ':' :: rest => if flags.getLast? == some '-' then none else some (true, rest)
    | ')' :: rest =>
      if flags.isEmpty || flags.getLast? == some '-' then none else some (false, rest)
    | _ => none

/-- The rest of a regular expression can be read, in so many open groups. With `repeatable` there is
something that a repetition can repeat. -/
def scan : Nat → Nat → Bool → List Char → Bool
  | 0, _, _, _ => false
  | _ + 1, depth, _, [] => depth == 0
  | n + 1, depth, repeatable, c :: rest =>
    match c with
    | '\\' =>
      match afterEscape? rest with
      | some (_, after) => scan n depth true after
      | none => false
    | '(' =>
      match rest with
      | '?' :: inside =>
        match afterGroup? inside with
        | some (isOpen, after) => scan n (if isOpen then depth + 1 else depth) false after
        | none => false
      | _ => scan n (depth + 1) false rest
    | ')' => depth != 0 && scan n (depth - 1) true rest
    | '|' => scan n depth false rest
    | '*' | '+' | '?' => repeatable && scan n depth true rest
    | '\x7b' => false
    | '[' =>
      match afterClass? (rest.length + 1) rest with
      | some after => scan n depth true after
      | none => false
    | _ => scan n depth true rest
termination_by structural n => n

def isValue (cs : List Char) : Bool := isNumber cs || scan (cs.length + 1) 0 false cs

end ScriptBatch.Log.Pattern
