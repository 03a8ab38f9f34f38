import ScriptBatch.Batch
import ScriptBatch.BatchFile.Mismatch
import ScriptBatch.Toml.Document
import ScriptBatch.Toml.Excerpt

/-!
# Decoding batch files

A batch file has a table `config` with the settings and an array `invocation` with the entries. Both
may be missing, and so may every field; missing fields have their defaults. Keys that are not fields
are refused.

The fields of a table are visited in the order of their keys, and the first mismatch counts.
Settings and entries may also be written as arrays that list the fields in their declared order;
such an array may be short, and what is too much is ignored.

The text of a batch file is read completely before anything in it is decoded, so a text that is not
a document is refused whatever stands in its valid parts.
-/

namespace ScriptBatch.BatchFile

open Toml (Key Span Table Value)

/-- A value of a single kind, which `part?` takes out of it. -/
def decodeScalar {α : Type} (part? : Value → Option α) (expected : Expected) (v : Span × Value) :
    Decoded α :=
  match part? v.2 with
  | some a => .ok a
  | none => .error ⟨.ofValue v.2 expected, some v.1⟩

def decodeText : Span × Value → Decoded String := decodeScalar Value.string? .text

def decodeTruth : Span × Value → Decoded Bool := decodeScalar Value.boolean? .truth

/-- A whole number of 32 bits without a sign. -/
def decodeCount (v : Span × Value) : Decoded UInt32 :=
  match v.2 with
  | .integer n =>
    if 0 ≤ n && n < UInt32.size then .ok (UInt32.ofNat n.toNat)
    else if fitsWord n then .error ⟨.outOfRange n, some v.1⟩
    else .error ⟨.ofValue v.2 .count, some v.1⟩
  | other => .error ⟨.ofValue other .count, some v.1⟩

/-- An array of items. A mismatch without a place of its own is blamed on the whole array. -/
def decodeList {α : Type} (item : Span × Value → Decoded α) (v : Span × Value) :
    Decoded (List α) :=
  match v.2 with
  | .array items => (items.mapM item).within v.1
  | other => .error ⟨.ofValue other .list, some v.1⟩

/-- Text that has to be a word of a vocabulary. The blame for a wrong word is left to the caller. -/
def decodeKeyword {α : Type} (parse : String → Except UnknownKeyword α) (v : Span × Value) :
    Decoded α := do
  match parse (← decodeText v) with
  | .ok a => .ok a
  | .error word => .error ⟨.unknownKeyword word, none⟩

/-- A field of a record: its key, and how its value is read into the record. -/
structure Field (α : Type) where
  name : String
  read : α → Span × Value → Decoded α

namespace Field

def readEntry {α : Type} (fields : List (Field α)) (a : α) (e : Key × Span × Value) : Decoded α :=
  match fields.find? (·.name == e.1.text) with
  | some field => (field.read a e.2).within e.2.1
  | none => .error ⟨.unknownField e.1.text (fields.map (·.name)), some e.1.span⟩

def sorted (entries : Table) : Table := entries.mergeSort fun a b => a.1.text ≤ b.1.text

def readTable {α : Type} (fields : List (Field α)) (a : α) (entries : Table) : Decoded α :=
  (sorted entries).foldlM (readEntry fields) a

def readItems {α : Type} (fields : List (Field α)) (a : α) (items : List (Span × Value)) :
    Decoded α :=
  (fields.zip items).foldlM (fun a p => p.1.read a p.2) a

def dateKey : String := "$__toml_private_datetime"

def readRecord {α : Type} (fields : List (Field α)) (expected : Expected) (a : α)
    (v : Span × Value) : Decoded α :=
  match v.2 with
  | .table entries => (readTable fields a entries).within v.1
  | .array items => (readItems fields a items).within v.1
  | .datetime => .error ⟨.unknownField dateKey (fields.map (·.name)), some v.1⟩
  | other => .error ⟨.ofValue other expected, some v.1⟩

end Field

def settingsFields : List (Field Settings) :=
  [⟨"interpreter", fun s v => return { s with interpreter := some (← decodeText v) }⟩,
   ⟨"script", fun s v => return { s with script := ← decodeText v }⟩,
   ⟨"log_dir", fun s v => return { s with logDir := ← decodeText v }⟩,
   ⟨"working_dir", fun s v => return { s with workingDir := some (← decodeText v) }⟩,
   ⟨"on_failure", fun s v => return { s with onFailure := ← decodeKeyword FailureMode.parse v }⟩]

def invocationFields : List (Field Invocation) :=
  [⟨"name", fun i v => return { i with name := some (← decodeText v) }⟩,
   ⟨"enabled", fun i v => return { i with enabled := ← decodeTruth v }⟩,
   ⟨"plot", fun i v => return { i with plot := ← decodeTruth v }⟩,
   ⟨"normalize", fun i v => return { i with normalize := ← decodeTruth v }⟩,
   ⟨"apt_stats", fun i v => return { i with aptStats := ← decodeTruth v }⟩,
   ⟨"ignore", fun i v => return { i with ignore := ← decodeList (decodeKeyword Tag.parse) v }⟩,
   ⟨"min_apis", fun i v => return { i with minApis := some (← decodeCount v) }⟩,
   ⟨"out_dir", fun i v => return { i with outDir := some (← decodeText v) }⟩,
   ⟨"dataset", fun i v => return { i with dataset := some (← decodeText v) }⟩]

def decodeSettings (v : Span × Value) : Decoded Settings :=
  Field.readRecord settingsFields .settings {} v

def decodeInvocation (v : Span × Value) : Decoded Invocation :=
  Field.readRecord invocationFields .invocation {} v

def batchFields : List (Field Batch) :=
  [⟨"config", fun b v => return { b with settings := ← decodeSettings v }⟩,
   ⟨"invocation", fun b v => return { b with invocations := ← decodeList decodeInvocation v }⟩]

def decode (root : Table) : Decoded Batch := Field.readTable batchFields {} root

/-! ## From the text of a file -/

/-- Why a text gives no batch. -/
inductive LoadError where
  /-- The text is not a document. -/
  | notADocument
  /-- The document does not describe a batch. -/
  | mismatch (cause : Mismatch) (place : Toml.Excerpt)
  deriving Repr, DecidableEq

def LoadError.detail? : LoadError → Option String
  | notADocument => none
  | mismatch cause _ => some cause.message

def LoadError.message : LoadError → String
  | notADocument => "TOML parse error\n"
  | mismatch cause place => place.render cause.message

def load (text : String) : Except LoadError Batch :=
  match Toml.Document.parse? text with
  | none => .error .notADocument
  | some root =>
    match decode root with
    | .ok b => .ok b
    | .error e => .error (.mismatch e.cause (.ofSpan text (e.span.getD ⟨0, 0⟩)))

end ScriptBatch.BatchFile
