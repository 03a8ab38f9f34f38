import ScriptBatch.Toml.Value

/-!
# Excerpts

A complaint about a place in a text shows the line, with its number before it and carets under the
place:

      |
    2 | plot = 1
      |        ^

The column counts characters. There is one caret for every byte of the place, as far as the line
goes, and at least one.
-/

namespace ScriptBatch.Toml

/-- A place in a text: the line with its number, counted from one, the characters of the line before
the place, and the number of carets. -/
structure Excerpt where
  lineNumber : Nat
  line : String
  column : Nat
  carets : Nat
  deriving Repr, DecidableEq

namespace Excerpt

/-- The line that the offset falls into, with its number and the offset from its start. -/
def lineAt : Nat → List String → Nat → Nat × String × Nat
  | n, [], offset => (n, "", offset)
  | n, [line], offset => (n, line, offset)
  | n, line :: rest, offset =>
    if offset ≤ line.utf8ByteSize then (n, line, offset)
    else lineAt (n + 1) rest (offset - line.utf8ByteSize - 1)

def charsBefore : List Char → Nat → Nat
  | [], _ => 0
  | c :: rest, offset => if offset == 0 then 0 else charsBefore rest (offset - c.utf8Size) + 1

def lines (text : String) : List String := (text.toList.splitOn '\n').map String.ofList

def ofSpan (text : String) (span : Span) : Excerpt :=
  let (n, line, offset) := lineAt 1 (lines text) span.start
  let column := charsBefore line.toList offset
  ⟨n, line, column, max 1 (min span.size (line.utf8ByteSize - column))⟩

def spaces (n : Nat) : String := String.ofList (List.replicate n ' ')

def render (x : Excerpt) (complaint : String) : String :=
  let number := x.lineNumber.repr
  let gutter := spaces (number.length + 1) ++ "|"
  let caretText := String.ofList (List.replicate x.carets '^')
  s!"TOML parse error at line {number}, column {x.column + 1}\n" ++
    gutter ++ "\n" ++
    s!"{number} | {x.line}\n" ++
    gutter ++ spaces (x.column + 1) ++ caretText ++ "\n" ++
    complaint ++ "\n"

end Excerpt

end ScriptBatch.Toml
