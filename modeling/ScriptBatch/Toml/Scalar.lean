import ScriptBatch.Toml.Quotation

/-!
# Numbers, truth values and dates

A value without delimiters of its own is a word, and its characters decide what it is. The functions
of this module look at whole words.
-/

namespace ScriptBatch.Toml

namespace Scalar

def isDigit (c : Char) : Bool := '0' ≤ c && c ≤ '9'

def isHexDigit (c : Char) : Bool := (hexDigit? c).isSome

def isOctalDigit (c : Char) : Bool := '0' ≤ c && c ≤ '7'

def isBinaryDigit (c : Char) : Bool := c == '0' || c == '1'

def ofDigits (base : Nat) (digits : List Char) : Nat :=
  digits.foldl (fun n c => base * n + (hexDigit? c).getD 0) 0

def splitSign : List Char → Bool × List Char
  | '-' :: rest => (true, rest)
  | '+' :: rest => (false, rest)
  | cs => (false, cs)

def pieces (cs : List Char) : List (List Char) := cs.splitOn '_'

/-- Underscores stand where a number may have them. A piece behind an underscore starts with a
digit; a piece before one is not empty, and ends with a digit if it has more than one character. No
character inside of a piece is looked at, nor is the end of the last piece. -/
def joinsDigits (digit : Char → Bool) (cs : List Char) : Bool :=
  (pieces cs).tail.all (fun p => p.head?.any digit) &&
    (pieces cs).dropLast.all (fun p => !p.isEmpty && (p.length == 1 || p.getLast?.any digit))

def withoutUnderscores (cs : List Char) : List Char := cs.filter (· != '_')

/-- The whole number that decimal digits with an optional sign stand for. Anything else is garbled.
-/
def ofDecimal (cs : List Char) : Value :=
  let (negative, digits) := splitSign cs
  if digits.isEmpty || !(digits.all isDigit) then .garbled
  else if negative then .integer (-(ofDigits 10 digits : Int))
  else .integer (ofDigits 10 digits)

/-- A whole number behind the sign of its base. The digits may be missing, but then there is no
number to read. -/
def based? (digit : Char → Bool) (base : Nat) (cs : List Char) : Option Value :=
  if !(cs.all fun c => digit c || c == '_') || !(joinsDigits isHexDigit cs) then none
  else if cs.isEmpty then some .garbled
  else some (.integer (ofDigits base (withoutUnderscores cs)))

/-- Digits and underscores at the start, with at least one digit, and what follows them. -/
def digitRun? (cs : List Char) : Option (List Char × List Char) :=
  let inRun (c : Char) : Bool := isDigit c || c == '_'
  if (cs.takeWhile inRun).any isDigit then some (cs.takeWhile inRun, cs.dropWhile inRun) else none

/-- The digits before the point. A zero does not lead other digits. -/
def whole? (cs : List Char) : Option (List Char × List Char) := do
  let (digits, rest) ← digitRun? cs
  if digits.head? == some '0' && (withoutUnderscores digits).length != 1 then none
  else some (withoutUnderscores digits, rest)

def fraction? : List Char → Option (List Char × List Char)
  | '.' :: cs => (digitRun? cs).map fun (digits, rest) => (withoutUnderscores digits, rest)
  | cs => some ([], cs)

def exponent? : List Char → Option Int
  | [] => some 0
  | e :: cs =>
    if e == 'e' || e == 'E' then
      let (negative, cs) := splitSign cs
      match digitRun? cs with
      | some (digits, []) =>
        let n : Int := ofDigits 10 (withoutUnderscores digits)
        some (if negative then -n else n)
      | _ => none
    else none

def float? (word : List Char) : Option Decimal.Number := do
  let (negative, cs) := splitSign word
  if !(joinsDigits isDigit word) then none
  else
    let (whole, rest) ← whole? cs
    let (fraction, rest) ← fraction? rest
    let exponent ← exponent? rest
    some (.finite negative (ofDigits 10 (whole ++ fraction)) (exponent - fraction.length))

def inRange (digits : List Char) (low high : Nat) : Bool :=
  digits.all isDigit && low ≤ ofDigits 10 digits && ofDigits 10 digits ≤ high

def daysInMonth (year month : Nat) : Nat :=
  if month == 2 then
    if (year % 4 == 0 && year % 100 != 0) || year % 400 == 0 then 29 else 28
  else if [4, 6, 9, 11].contains month then 30
  else 31

def date? : List Char → Option (List Char)
  | y1 :: y2 :: y3 :: y4 :: '-' :: m1 :: m2 :: '-' :: d1 :: d2 :: rest =>
    let year := [y1, y2, y3, y4]
    let month := [m1, m2]
    if inRange year 0 9999 && inRange month 1 12 &&
        inRange [d1, d2] 1 (daysInMonth (ofDigits 10 year) (ofDigits 10 month)) then some rest
    else none
  | _ => none

def seconds? : List Char → Option (List Char)
  | ':' :: s1 :: s2 :: rest =>
    if inRange [s1, s2] 0 60 then
      match rest with
      | '.' :: digit :: more =>
        if isDigit digit then some (more.dropWhile isDigit) else none
      | '.' :: [] => none
      | _ => some rest
    else none
  | cs => some cs

def time? : List Char → Option (List Char)
  | h1 :: h2 :: ':' :: m1 :: m2 :: rest =>
    if inRange [h1, h2] 0 23 && inRange [m1, m2] 0 59 then seconds? rest else none
  | _ => none

/-- The end of a word after a time that follows a date: nothing, or a time zone. -/
def isZone : List Char → Bool
  | [] => true
  | ['Z'] => true
  | ['z'] => true
  | [sign, h1, h2, ':', m1, m2] =>
    (sign == '+' || sign == '-') && inRange [h1, h2] 0 23 && inRange [m1, m2] 0 59
  | _ => false

def isDatetime (word : List Char) : Bool :=
  match date? word with
  | some [] => true
  | some (c :: rest) => (c == 'T' || c == 't' || c == ' ') && (time? rest).any isZone
  | none => (time? word).any List.isEmpty

/-- The value of a word that starts with a digit or an underscore behind an optional sign. What
follows the first digits tells dates, fractions and digits with underscores apart. -/
def number? (word : List Char) : Option Value :=
  let digits := (splitSign word).2
  let rest := digits.dropWhile isDigit
  let startsWith (c : Char) : Bool := rest.head? == some c
  if rest.isEmpty then
    if digits.head? == some '0' && digits.length != 1 then none else some (ofDecimal word)
  else if startsWith '-' || startsWith ':' then
    if isDatetime word then some .datetime else none
  else if rest.contains ' ' then none
  else if rest.any fun c => c == '.' || c == 'e' || c == 'E' then (float? word).map .float
  else if startsWith '_' && digits.head? != some '0' && joinsDigits isHexDigit word then
    some (ofDecimal (withoutUnderscores word))
  else none

def ofWord? (word : List Char) : Option Value :=
  match word with
  | ['t', 'r', 'u', 'e'] => some (.boolean true)
  | ['f', 'a', 'l', 's', 'e'] => some (.boolean false)
  | '0' :: 'x' :: cs => based? isHexDigit 16 cs
  | '0' :: 'o' :: cs => based? isOctalDigit 8 cs
  | '0' :: 'b' :: cs => based? isBinaryDigit 2 cs
  | _ =>
    match splitSign word with
    | (negative, ['i', 'n', 'f']) => some (.float (.infinite negative))
    | (_, ['n', 'a', 'n']) => some (.float .nan)
    | (_, c :: _) => if isDigit c || c == '_' then number? word else none
    | (_, []) => none

/-- A character that ends a run of other characters, wherever it stands. -/
def isDelimiter (c : Char) : Bool := "=,[]\x7b\x7d# \t\r\n".toList.contains c

/-- A character with which a run can start: neither a delimiter nor a point nor a quote. -/
def startsRun (c : Char) : Bool := !(isDelimiter c) && c != '.' && c != '"' && c != '\''

/-- The runs and points at the cursor, with blanks between two runs. Each round takes at least one
character. -/
def wordBounded : Nat → Cursor → List Char × Cursor
  | 0, c => ([], c)
  | n + 1, c =>
    let (blanks, afterBlanks) := c.takeRun fun x => x == ' ' || x == '\t'
    match afterBlanks.rest with
    | x :: _ =>
      if startsRun x then
        let (run, next) := afterBlanks.takeRun fun x => !(isDelimiter x) && x != '.'
        let (more, last) := wordBounded n next
        (blanks ++ run ++ more, last)
      else if x == '.' && blanks.isEmpty then
        let (points, next) := c.takeRun (· == '.')
        let (more, last) := wordBounded n next
        (points ++ more, last)
      else ([], c)
    | [] => ([], c)

def word (c : Cursor) : List Char × Cursor := wordBounded (c.rest.length + 1) c

end Scalar

end ScriptBatch.Toml
