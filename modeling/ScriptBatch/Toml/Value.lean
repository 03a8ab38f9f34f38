import ScriptBatch.Decimal

/-!
# Values of the batch file format

Batch files are written in TOML. A document is a tree of tables and arrays over texts, numbers,
truth values and dates, and every key and value remembers where it stands in the text. Dates and
times are checked when they are read, but no later step asks for their parts.
-/

namespace ScriptBatch.Toml

/-- A piece of the text, by the offsets in bytes of its start and its end. -/
structure Span where
  start : Nat
  stop : Nat
  deriving Repr, DecidableEq, Inhabited

def Span.size (s : Span) : Nat := s.stop - s.start

/-- A key and where it is written. -/
structure Key where
  text : String
  span : Span
  deriving Repr, DecidableEq, Inhabited

/-- A value; the values inside of it come with the places where they stand. -/
inductive Value where
  | string (text : String)
  | integer (n : Int)
  /-- A word that is taken for a whole number but does not stand for one. -/
  | garbled
  | float (x : Decimal.Number)
  | boolean (b : Bool)
  | datetime
  | array (items : List (Span × Value))
  | table (entries : List (Key × Span × Value))
  deriving Inhabited

def Value.string? : Value → Option String
  | string text => some text
  | _ => none

def Value.boolean? : Value → Option Bool
  | boolean b => some b
  | _ => none

abbrev Table := List (Key × Span × Value)

end ScriptBatch.Toml
