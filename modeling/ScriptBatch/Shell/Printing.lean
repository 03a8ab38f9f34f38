import ScriptBatch.Shell.Arithmetic

/-!
# Printing

How scripts write text: plainly with escapes, or by a format with places for arguments.
-/

namespace ScriptBatch.Shell.Printing

/-- A number in octal digits at the start of a text, of at most so many digits. -/
def octal : Nat → Nat → List Char → Nat × List Char
  | 0, n, cs => (n, cs)
  | k + 1, n, c :: cs =>
    if '0' ≤ c && c ≤ '7' then octal k (8 * n + (c.toNat - '0'.toNat)) cs else (n, c :: cs)
  | _ + 1, n, [] => (n, [])

def escape? : Char → Option Char
  | 'a' => some '\x07'
  | 'b' => some '\x08'
  | 'f' => some '\x0c'
  | 'n' => some '\n'
  | 'r' => some '\r'
  | 't' => some '\t'
  | 'v' => some '\x0b'
  | '\\' => some '\\'
  | _ => none

/-- Text with its escapes replaced, and whether an escape ended it. -/
def unescape : Nat → List Char → List Char × Bool
  | 0, cs => (cs, false)
  | _, [] => ([], false)
  | n + 1, '\\' :: c :: rest =>
    if c == 'c' then ([], true)
    else if '0' ≤ c && c ≤ '7' then
      let (code, rest) := if c == '0' then octal 3 0 rest else octal 3 0 (c :: rest)
      let (text, ended) := unescape n rest
      (Char.ofNat code :: text, ended)
    else
      match (escape? c).or (if c == 'e' then some '\x1b' else none) with
      | some e =>
        let (text, ended) := unescape n rest
        (e :: text, ended)
      | none =>
        let (text, ended) := unescape n (c :: rest)
        ('\\' :: text, ended)
  | n + 1, c :: rest =>
    let (text, ended) := unescape n rest
    (c :: text, ended)

/-- Arguments on a line. The line end is left out if the first argument or an escape asks for it. -/
def echo (args : List String) : String :=
  let (newline, args) :=
    match args with
    | "-n" :: rest => (false, rest)
    | _ => (true, args)
  let text := (" ".intercalate args).toList
  let (text, ended) := unescape (text.length + 1) text
  String.ofList (if newline && !ended then text ++ ['\n'] else text)

/-- Options of the program that writes its arguments on a line: whether the line has an end, whether
escapes are replaced, and the arguments behind the options. -/
def echoOptions : Bool → Bool → List String → Bool × Bool × List String
  | newline, escapes, [] => (newline, escapes, [])
  | newline, escapes, arg :: rest =>
    match arg.toList with
    | '-' :: c :: letters =>
      if (c :: letters).all fun c => c == 'n' || c == 'e' || c == 'E' then
        let last := (c :: letters).filter (· != 'n') |>.getLast?
        echoOptions (newline && !(c :: letters).contains 'n') ((last.map (· == 'e')).getD escapes)
          rest
      else (newline, escapes, arg :: rest)
    | _ => (newline, escapes, arg :: rest)

/-- Arguments on a line, as the program writes them that is not part of the shell. -/
def echoPlain (args : List String) : String :=
  let (newline, escapes, args) := echoOptions true false args
  let text := (" ".intercalate args).toList
  let (text, ended) := if escapes then unescape (text.length + 1) text else (text, false)
  String.ofList (if newline && !ended then text ++ ['\n'] else text)

/-- What writing by a format comes to: the text, what is said about the arguments, and a directive
without meaning, at which writing ends. -/
structure Printed where
  text : List Char := []
  complaints : List String := []
  invalid : Option String := none

namespace Printed

def after (text : List Char) (p : Printed) : Printed := { p with text := text ++ p.text }

end Printed

/-- How an argument is put into its place. -/
structure Place where
  left : Bool := false
  zeros : Bool := false
  signed : Bool := false
  width : Nat := 0
  precision : Option Nat := none

/-- A number as an argument of a format, and what is said about it. A quotation mark stands for the
code of the character behind it. -/
def argument (value : String) : Int × Option String :=
  match value.toList with
  | '\'' :: c :: _ | '"' :: c :: _ => (c.toNat, none)
  | [] => (0, none)
  | cs =>
    let (negative, digits) :=
      match cs with
      | '-' :: rest => (true, rest)
      | '+' :: rest => (false, rest)
      | _ => (false, cs)
    let digits := digits.dropWhile (· == ' ')
    let numeral := Arith.numeral digits
    let n : Int := ((Arith.number? numeral).getD 0 : Nat)
    let complaint :=
      if numeral.isEmpty then some s!"{value}: expected numeric value"
      else if numeral.length != digits.length then some s!"{value}: not completely converted"
      else none
    (if negative then -n else n, complaint)

namespace Place

/-- The width and the precision that a format describes; a star takes them from the arguments. -/
def size (cs : List Char) (args : List String) : Option Nat × List Char × List String :=
  match cs with
  | '*' :: rest => (some (argument (args.headD "")).1.toNat, rest, args.tail)
  | _ =>
    let digits := cs.takeWhile Char.isDigit
    ((String.ofList digits).toNat?, cs.drop digits.length, args)

/-- The place that a format describes between the percent sign and its letter. -/
def read (cs : List Char) (args : List String) : Place × List Char × List String :=
  let isFlag (c : Char) : Bool := "-0+ #".toList.contains c
  let flags := cs.takeWhile isFlag
  let (width, rest, args) := size (cs.drop flags.length) args
  let place : Place :=
    { left := flags.contains '-', zeros := flags.contains '0', signed := flags.contains '+'
      width := width.getD 0 }
  match rest with
  | '.' :: rest =>
    let (precision, rest, args) := size rest args
    ({ place with precision := some (precision.getD 0) }, rest, args)
  | _ => (place, rest, args)

def fill (p : Place) (numeric : Bool) (text : List Char) : List Char :=
  let gap := p.width - text.length
  if p.left then text ++ List.replicate gap ' '
  else if p.zeros && numeric && p.precision.isNone then
    match text with
    | '-' :: digits => '-' :: List.replicate gap '0' ++ digits
    | _ => List.replicate gap '0' ++ text
  else List.replicate gap ' ' ++ text

def digits (p : Place) (text : List Char) : List Char :=
  List.replicate (p.precision.getD 0 - text.length) '0' ++ text

/-- An argument as the letter of its place asks for it, and what is said about it; `none` for a
letter without meaning. -/
def show? (p : Place) (letter : Char) (value : String) : Option (List Char × Option String) :=
  let (number, complaint) := argument value
  let natural : Nat := if number < 0 then (number + 0x10000000000000000).toNat else number.toNat
  let cut (text : List Char) : List Char := (p.precision.map text.take).getD text
  match letter with
  | 's' => some (p.fill false (cut value.toList), none)
  | 'b' => some (p.fill false (cut (unescape (value.length + 1) value.toList).1), none)
  | 'c' => some (p.fill false (value.toList.take 1), none)
  | 'd' | 'i' =>
    let sign := if number < 0 then ['-'] else if p.signed then ['+'] else []
    some (p.fill true (sign ++ p.digits (Nat.toDigits 10 number.natAbs)), complaint)
  | 'u' => some (p.fill true (p.digits (Nat.toDigits 10 natural)), complaint)
  | 'x' => some (p.fill true (p.digits (Nat.toDigits 16 natural)), complaint)
  | 'X' => some (p.fill true (p.digits ((Nat.toDigits 16 natural).map Char.toUpper)), complaint)
  | 'o' => some (p.fill true (p.digits (Nat.toDigits 8 natural)), complaint)
  | _ => none

end Place

def format : Nat → List Char → List String → Printed × List String
  | 0, _, args => ({}, args)
  | _, [], args => ({}, args)
  | n + 1, '%' :: '%' :: rest, args =>
    let (printed, args) := format n rest args
    (printed.after ['%'], args)
  | n + 1, '%' :: rest, args =>
    let (place, behind, args) := Place.read rest args
    let directive := '%' :: rest.take (rest.length - behind.length)
    match behind with
    | [] => ({ invalid := some (String.ofList directive) }, args)
    | letter :: behind =>
      match place.show? letter (args.headD "") with
      | none => ({ invalid := some (String.ofList (directive ++ [letter])) }, args)
      | some (shown, complaint) =>
        let (printed, args) := format n behind args.tail
        ({ printed.after shown with complaints := complaint.toList ++ printed.complaints }, args)
  | n + 1, '\\' :: c :: rest, args =>
    if '0' ≤ c && c ≤ '7' then
      let (code, rest) := octal 3 0 (c :: rest)
      let (printed, args) := format n rest args
      (printed.after [Char.ofNat code], args)
    else
      match escape? c with
      | some e =>
        let (printed, args) := format n rest args
        (printed.after [e], args)
      | none =>
        let (printed, args) := format n (c :: rest) args
        (printed.after ['\\'], args)
  | n + 1, c :: rest, args =>
    let (printed, args) := format n rest args
    (printed.after [c], args)

/-- A format that is used again while arguments are left. -/
def formatRounds : Nat → List Char → List String → Printed
  | 0, _, _ => {}
  | n + 1, template, args =>
    let (printed, rest) := format (template.length + 1) template args
    if rest.isEmpty || rest.length == args.length || printed.invalid.isSome then printed
    else
      let more := formatRounds n template rest
      { more.after printed.text with complaints := printed.complaints ++ more.complaints }

def printf (template : String) (args : List String) : Printed :=
  formatRounds (args.length + 1) template.toList args

end ScriptBatch.Shell.Printing
