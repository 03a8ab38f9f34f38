import ScriptBatch.Shell.Syntax

/-!
# Characters and tokens

The marks that divide the text of a script: operators, redirections and line ends. A position in a
script is what is left of its text together with the number of its line.
-/

namespace ScriptBatch.Shell

/-- A position in a script. `skipped` lines below this one have already been read as input. -/
structure Source where
  rest : List Char
  line : Nat := 1
  skipped : Nat := 0

/-- A word, an operator, the start of a redirection, a line end, or the end of the script. -/
inductive Token where
  | word (parts : Word)
  | operator (text : String)
  | redirect (descriptor : Nat) (direction : Direction)
  | newline
  | eof

namespace Lexer

def isNameStart (c : Char) : Bool := c.isAlpha || c == '_'

def isNameChar (c : Char) : Bool := c.isAlphanum || c == '_'

def isName (cs : List Char) : Bool := cs.head?.any isNameStart && cs.all isNameChar

def isSeparator (c : Char) : Bool := " \t\n;&|<>()".toList.contains c

/-- Parameters with a name of one character that is not a letter. -/
def isSpecial (c : Char) : Bool := c.isDigit || "@*#?$!-".toList.contains c

def keywords : List String :=
  ["!", "case", "do", "done", "elif", "else", "esac", "fi", "for", "if", "in", "then", "until",
   "while", "\x7b", "\x7d"]

def advance (src : Source) (count : Nat) : Source :=
  { src with
    rest := src.rest.drop count, line := src.line + (src.rest.take count).count '\n' }

/-- Puts literal text in front of a word, together with literal text that is already there. -/
def addLiteral (c : Char) (quoted : Bool) : Word → Word
  | .literal text q :: rest =>
    if q == quoted then .literal (c :: text) q :: rest
    else .literal [c] quoted :: .literal text q :: rest
  | rest => .literal [c] quoted :: rest

/-- The text up to a back quote, and the number of characters that it takes with that. A backslash
takes away the meaning of a few characters. -/
def untilBackquote (doubled : Bool) : List Char → Option (List Char × Nat)
  | [] => none
  | '\x60' :: _ => some ([], 1)
  | '\\' :: c :: rest =>
    (untilBackquote doubled rest).map fun (text, n) =>
      if c == '\x60' || c == '\\' || c == '$' || (doubled && c == '"') then (c :: text, n + 2)
      else ('\\' :: c :: text, n + 2)
  | c :: rest => (untilBackquote doubled rest).map fun (text, n) => (c :: text, n + 1)

/-- How the text behind a parameter name in braces uses its word, and where the word starts. -/
def substitution? : List Char → Option (Substitution × List Char)
  | ':' :: '-' :: rest => some (.default true, rest)
  | '-' :: rest => some (.default false, rest)
  | ':' :: '=' :: rest => some (.assign true, rest)
  | '=' :: rest => some (.assign false, rest)
  | ':' :: '?' :: rest => some (.require true, rest)
  | '?' :: rest => some (.require false, rest)
  | ':' :: '+' :: rest => some (.alternative true, rest)
  | '+' :: rest => some (.alternative false, rest)
  | '%' :: '%' :: rest => some (.dropEnd true, rest)
  | '%' :: rest => some (.dropEnd false, rest)
  | '#' :: '#' :: rest => some (.dropStart true, rest)
  | '#' :: rest => some (.dropStart false, rest)
  | '\x7d' :: rest => some (.plain, '\x7d' :: rest)
  | _ => none

def paramName : List Char → List Char × List Char
  | [] => ([], [])
  | c :: rest =>
    if isNameStart c then ((c :: rest).takeWhile isNameChar, (c :: rest).dropWhile isNameChar)
    else if c.isDigit then
      ((c :: rest).takeWhile Char.isDigit, (c :: rest).dropWhile Char.isDigit)
    else if isSpecial c then ([c], rest)
    else ([], c :: rest)

/-- What braces behind a dollar sign start with: a parameter, and how it is used. The result ends
where the word starts. -/
def braced? : List Char → Option (List Char × Substitution × List Char)
  | '#' :: rest =>
    let asCount := (substitution? rest).map fun (use, next) => (['#'], use, next)
    match paramName rest with
    | ([], _) => asCount
    | (name, '\x7d' :: next) => some (name, .length, '\x7d' :: next)
    | (name, _) => if isName name then none else asCount
  | cs =>
    let (name, rest) := paramName cs
    if name.isEmpty then none
    else (substitution? rest).map fun (use, next) => (name, use, next)

def operator? : List Char → Option String
  | '&' :: '&' :: _ => some "&&"
  | '|' :: '|' :: _ => some "||"
  | ';' :: ';' :: _ => some ";;"
  | '&' :: _ => some "&"
  | '|' :: _ => some "|"
  | ';' :: _ => some ";"
  | '(' :: _ => some "("
  | ')' :: _ => some ")"
  | _ => none

/-- A redirection at the start of a text: the descriptor that it is about by itself, its direction
and its length. -/
def direction? : List Char → Option (Nat × Direction × Nat)
  | '>' :: '>' :: _ => some (1, .append, 2)
  | '>' :: '&' :: _ => some (1, .duplicate, 2)
  | '>' :: '|' :: _ => some (1, .overwrite, 2)
  | '>' :: _ => some (1, .write, 1)
  | '<' :: '<' :: _ => some (0, .here, 2)
  | '<' :: '&' :: _ => some (0, .duplicate, 2)
  | '<' :: '>' :: _ => some (0, .readWrite, 2)
  | '<' :: _ => some (0, .read, 1)
  | _ => none

/-- A redirection, with one digit before it for another descriptor. -/
def redirect? (cs : List Char) : Option (Nat × Direction × Nat) :=
  (direction? cs).orElse fun _ =>
    match cs with
    | digit :: rest =>
      if digit.isDigit then
        (direction? rest).map fun (_, direction, n) => (digit.toNat - '0'.toNat, direction, n + 1)
      else none
    | [] => none

/-- Moves over blanks, comments and line ends that are taken back. -/
def skipBlanks : Nat → Source → Source
  | 0, src => src
  | n + 1, src =>
    match src.rest with
    | ' ' :: rest => skipBlanks n { src with rest }
    | '\t' :: rest => skipBlanks n { src with rest }
    | '\\' :: '\n' :: rest => skipBlanks n { src with rest, line := src.line + 1 }
    | '#' :: rest => { src with rest := rest.dropWhile (· != '\n') }
    | _ => src

/-- Input that stands in the script: where it ends, and how it is read. -/
structure Here where
  delimiter : List Char
  /-- Tabs at the start of its lines are dropped. -/
  indented : Bool
  /-- Its text is taken as it is. -/
  literal : Bool

def linesOf (cs : List Char) : List (List Char) :=
  let pieces := cs.splitOn '\n'
  let last := pieces.getLast?.getD []
  pieces.dropLast.map (· ++ ['\n']) ++ if last.isEmpty then [] else [last]

def Here.lines (h : Here) : List (List Char) → List (List Char) × List (List Char)
  | [] => ([], [])
  | line :: rest =>
    let line := if h.indented then line.dropWhile (· == '\t') else line
    if line == h.delimiter || line == h.delimiter ++ ['\n'] then ([], rest)
    else
      let (inside, behind) := h.lines rest
      (line :: inside, behind)

def Here.take (h : Here) (src : Source) : List Char × Source :=
  let thisLine := src.rest.takeWhile (· != '\n')
  let below := linesOf ((src.rest.dropWhile (· != '\n')).drop 1)
  let (inside, behind) := h.lines below
  (inside.flatten,
    { src with
      rest := thisLine ++ '\n' :: behind.flatten
      skipped := src.skipped + (below.length - behind.length) })

end Lexer

/-- The text of a word without quotations and substitutions, such as a keyword. -/
def Token.bare? : Token → Option String
  | .word [.literal text false] => some (String.ofList text)
  | _ => none

def Token.keyword? (t : Token) : Option String := t.bare?.filter Lexer.keywords.contains

def Token.describe : Token → String
  | .eof => "end of file"
  | .newline => "newline"
  | .redirect .. => "redirection"
  | .operator text => "\"" ++ text ++ "\""
  | .word parts =>
    match (Token.word parts).keyword? with
    | some text => "\"" ++ text ++ "\""
    | none => "word"

end ScriptBatch.Shell
