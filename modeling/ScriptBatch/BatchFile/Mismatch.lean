import ScriptBatch.Keyword
import ScriptBatch.Text.Quoted
import ScriptBatch.Toml.Value

/-!
# Mismatches

A document can be well written and still not describe a batch. A mismatch says what stands in its
way and where.
-/

namespace ScriptBatch.BatchFile

/-- What a place in a batch file calls for. -/
inductive Expected where
  | text
  | truth
  | list
  | count
  | settings
  | invocation
  deriving Repr, DecidableEq

def Expected.describe : Expected → String
  | text => "a string"
  | truth => "a boolean"
  | list => "a sequence"
  | count => "u32"
  | settings => "struct ConfigSection"
  | invocation => "struct Invocation"

/-- Why a value does not fit. -/
inductive Mismatch where
  /-- A key outside of the fields listed. -/
  | unknownField (key : String) (fields : List String)
  /-- A value of another kind than expected. -/
  | wrongType (found : String) (expected : Expected)
  /-- A whole number outside of the range of a count. -/
  | outOfRange (n : Int)
  /-- A whole number beyond 128 bits, or one that cannot be read. -/
  | integerOverflow
  /-- A number with a fraction beyond double precision. -/
  | floatOverflow
  /-- A word outside of its vocabulary. -/
  | unknownKeyword (word : UnknownKeyword)
  deriving Repr, DecidableEq

def describeFields (fields : List String) : String :=
  match fields.map fun f => "`" ++ f ++ "`" with
  | [a] => a
  | [a, b] => a ++ " or " ++ b
  | quoted => "one of " ++ ", ".intercalate quoted

def Mismatch.message : Mismatch → String
  | unknownField key fields => s!"unknown field `{key}`, expected {describeFields fields}"
  | wrongType found expected => s!"invalid type: {found}, expected {expected.describe}"
  | outOfRange n => s!"invalid value: integer `{n}`, expected {Expected.count.describe}"
  | integerOverflow => "integer number overflowed"
  | floatOverflow => "floating-point number overflowed"
  | unknownKeyword word => word.message

/-- A whole number fits into 64 bits, with or without a sign. -/
def fitsWord (n : Int) : Bool := -0x8000000000000000 ≤ n && n < 0x10000000000000000

def fitsSignedPair (n : Int) : Bool :=
  -0x80000000000000000000000000000000 ≤ n && n < 0x80000000000000000000000000000000

def fitsUnsignedPair (n : Int) : Bool := 0 ≤ n && n < 0x100000000000000000000000000000000

/-- The complaint about a value where something else is expected. Whole numbers are named after the
smallest of the 64-bit and 128-bit ranges that holds them. -/
def Mismatch.ofValue (v : Toml.Value) (expected : Expected) : Mismatch :=
  match v with
  | .string text => .wrongType ("string " ++ Text.quote text) expected
  | .integer n =>
    if fitsWord n then .wrongType s!"integer `{n}`" expected
    else if fitsSignedPair n then .wrongType s!"integer `{n}` as i128" expected
    else if fitsUnsignedPair n then .wrongType s!"integer `{n}` as u128" expected
    else .integerOverflow
  | .garbled => .integerOverflow
  | .float x =>
    match x.text? with
    | some text => .wrongType s!"floating point `{text}`" expected
    | none => .floatOverflow
  | .boolean b => .wrongType s!"boolean `{b}`" expected
  | .array _ => .wrongType "sequence" expected
  | .table _ => .wrongType "map" expected
  | .datetime => .wrongType "map" expected

/-- A mismatch and the place that it is about, once that is known. -/
structure DecodeError where
  cause : Mismatch
  span : Option Toml.Span := none
  deriving Repr, DecidableEq

abbrev Decoded (α : Type) := Except DecodeError α

/-- Blames this place, unless a place inside of it is already blamed. -/
def Decoded.within {α : Type} (span : Toml.Span) : Decoded α → Decoded α
  | .error e => .error { e with span := e.span.or (some span) }
  | .ok a => .ok a

@[simp] theorem Decoded.within_eq_ok {α : Type} {span : Toml.Span} {r : Decoded α} {a : α} :
    r.within span = .ok a ↔ r = .ok a := by
  cases r <;> simp [within]

end ScriptBatch.BatchFile
