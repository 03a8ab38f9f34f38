/-!
# Patterns

A pattern is text in which some characters have a meaning: a star stands for any text, a question
mark for any character, and a list in brackets for one of its characters. Characters that were
quoted stand for themselves.
-/

namespace ScriptBatch.Shell

/-- Text with a mark on every character that was quoted. -/
abbrev Marked := List (Char × Bool)

namespace Marked

def ofText (text : List Char) (quoted : Bool) : Marked := text.map fun c => (c, quoted)

def text (m : Marked) : String := String.ofList (m.map (·.1))

def isSpecial (c : Char × Bool) : Bool := !c.2 && (c.1 == '*' || c.1 == '?' || c.1 == '[')

end Marked

namespace Pattern

/-- What a part of a pattern stands for. -/
inductive Atom where
  | anyText
  | anyChar
  | exactly (c : Char)
  | oneOf (negated : Bool) (ranges : List (Char × Char))

def namedClass (name : String) : List (Char × Char) :=
  match name with
  | "alpha" => [('a', 'z'), ('A', 'Z')]
  | "digit" => [('0', '9')]
  | "alnum" => [('a', 'z'), ('A', 'Z'), ('0', '9')]
  | "lower" => [('a', 'z')]
  | "upper" => [('A', 'Z')]
  | "space" => [(' ', ' '), ('\t', '\r')]
  | "blank" => [(' ', ' '), ('\t', '\t')]
  | "punct" => [('!', '/'), (':', '@'), ('[', '\x60'), ('\x7b', '~')]
  | "xdigit" => [('0', '9'), ('a', 'f'), ('A', 'F')]
  | "print" => [(' ', '~')]
  | "graph" => [('!', '~')]
  | "cntrl" => [('\x00', '\x1f'), ('\x7f', '\x7f')]
  | _ => []

def class? (m : Marked) : Option (List (Char × Char) × Marked) :=
  match m with
  | ('[', false) :: (':', false) :: rest =>
    let name := rest.takeWhile fun c => c.1.isAlpha
    match rest.drop name.length with
    | (':', _) :: (']', _) :: after => some (namedClass (Marked.text name), after)
    | _ => none
  | _ => none

/-- The ranges of a list in brackets, up to the closing bracket. Each round takes at least one
character. -/
def ranges : Nat → Bool → Marked → Option (List (Char × Char) × Marked)
  | 0, _, _ => none
  | _, _, [] => none
  | n + 1, first, (a, q) :: rest =>
    if a == ']' && !q && !first then some ([], rest)
    else
      match class? ((a, q) :: rest) with
      | some (found, after) =>
        (ranges n false after).map fun (rs, last) => (found ++ rs, last)
      | none =>
        match rest with
        | ('-', false) :: (b, r) :: after =>
          if b == ']' && !r then (ranges n false rest).map fun (rs, last) => ((a, a) :: rs, last)
          else (ranges n false after).map fun (rs, last) => ((a, b) :: rs, last)
        | _ => (ranges n false rest).map fun (rs, last) => ((a, a) :: rs, last)

def atomsBounded : Nat → Marked → List Atom
  | 0, _ => []
  | _, [] => []
  | n + 1, ('*', false) :: rest => .anyText :: atomsBounded n rest
  | n + 1, ('?', false) :: rest => .anyChar :: atomsBounded n rest
  | n + 1, ('[', false) :: rest =>
    let (negated, body) :=
      match rest with
      | ('!', false) :: body => (true, body)
      | _ => (false, rest)
    match ranges (body.length + 1) true body with
    | some (rs, after) => .oneOf negated rs :: atomsBounded n after
    | none => .exactly '[' :: atomsBounded n rest
  | n + 1, (c, _) :: rest => .exactly c :: atomsBounded n rest

def atoms (p : Marked) : List Atom := atomsBounded p.length p

def tails : List Char → List (List Char)
  | [] => [[]]
  | c :: rest => (c :: rest) :: tails rest

def accepts : List Atom → List Char → Bool
  | [], text => text.isEmpty
  | .anyText :: ps, text => (tails text).any (accepts ps)
  | .anyChar :: ps, text =>
    match text with
    | _ :: rest => accepts ps rest
    | [] => false
  | .exactly c :: ps, text =>
    match text with
    | d :: rest => c == d && accepts ps rest
    | [] => false
  | .oneOf negated rs :: ps, text =>
    match text with
    | d :: rest => (rs.any (fun r => r.1 ≤ d && d ≤ r.2)) != negated && accepts ps rest
    | [] => false

def covers (p : Marked) (text : List Char) : Bool := accepts (atoms p) text

def dropStart (p : Marked) (longest : Bool) (text : List Char) : List Char :=
  let cuts := List.range (text.length + 1)
  let cuts := if longest then cuts.reverse else cuts
  match cuts.find? fun n => covers p (text.take n) with
  | some n => text.drop n
  | none => text

def dropEnd (p : Marked) (longest : Bool) (text : List Char) : List Char :=
  let cuts := List.range (text.length + 1)
  let cuts := if longest then cuts else cuts.reverse
  match cuts.find? fun n => covers p (text.drop n) with
  | some n => text.take n
  | none => text

end Pattern

end ScriptBatch.Shell
