import ScriptBatch.Toml.Value

/-!
# Reading positions

A cursor is the rest of a text together with the offset in bytes at which it starts. The functions
of this module move over blanks, comments and line ends.
-/

namespace ScriptBatch.Toml

/-- The rest of a text and its offset. -/
structure Cursor where
  offset : Nat
  rest : List Char

namespace Cursor

def byteSize (cs : List Char) : Nat := cs.foldr (fun c n => c.utf8Size + n) 0

def takeRun (p : Char → Bool) (c : Cursor) : List Char × Cursor :=
  let run := c.rest.takeWhile p
  (run, ⟨c.offset + byteSize run, c.rest.dropWhile p⟩)

def skipRun (p : Char → Bool) (c : Cursor) : Cursor := (c.takeRun p).2

def expect? (ch : Char) (c : Cursor) : Option Cursor :=
  match c.rest with
  | x :: rest => if x == ch then some ⟨c.offset + x.utf8Size, rest⟩ else none
  | [] => none

def skipBlanks (c : Cursor) : Cursor := c.skipRun fun x => x == ' ' || x == '\t'

def newline? (c : Cursor) : Option Cursor :=
  match c.rest with
  | '\n' :: rest => some ⟨c.offset + 1, rest⟩
  | '\r' :: '\n' :: rest => some ⟨c.offset + 2, rest⟩
  | _ => none

/-- Control characters other than the tab. They may stand in no comment and in no string. -/
def isControl (c : Char) : Bool := (c.toNat < 0x20 && c != '\t') || c.toNat == 0x7F

def skipComment (c : Cursor) : Cursor :=
  match c.rest with
  | '#' :: _ => c.skipRun fun x => !isControl x
  | _ => c

/-- Moves to the next line over blanks and a comment, with nothing else left on this line. -/
def lineEnd? (c : Cursor) : Option Cursor :=
  let c := c.skipBlanks.skipComment
  if c.rest.isEmpty then some c else c.newline?

/-- Moves over any number of blanks, comments and line ends. Each round takes at least one
character, so the length of the rest is enough of a bound. -/
def skipFillerBounded : Nat → Cursor → Cursor
  | 0, c => c
  | n + 1, c =>
    let c := c.skipBlanks
    match c.newline? with
    | some next => skipFillerBounded n next
    | none =>
      match c.rest with
      | '#' :: _ => skipFillerBounded n c.skipComment
      | _ => c

def skipFiller (c : Cursor) : Cursor := skipFillerBounded (c.rest.length + 1) c

end Cursor

end ScriptBatch.Toml
