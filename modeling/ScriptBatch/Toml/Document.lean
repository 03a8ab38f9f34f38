import ScriptBatch.Toml.Assembly
import ScriptBatch.Toml.Scalar

/-!
# Documents

A document is a list of sections: the pairs before the first header, and each header with the pairs
under it. This module reads the text of a document into sections and puts the sections together into
one table. A text that is not a document is refused as a whole.
-/

namespace ScriptBatch.Toml

/-- A key with a dotted path before it, and its value. -/
structure Pair where
  path : List Key
  key : Key
  span : Span
  value : Value

/-- A header: the path to the table, its last key, the place of the whole header, and whether it
adds an element to an array. -/
structure Header where
  path : List Key
  key : Key
  span : Span
  isElement : Bool

/-- A line that says something. -/
inductive Statement where
  | pair (p : Pair)
  | header (h : Header)

namespace Document

def maxDepth : Nat := 80

def maxKeys : Nat := 80

def isBareKeyChar (c : Char) : Bool := c.isAlphanum || c == '_' || c == '-'

def key? (c : Cursor) : Option (Key × Cursor) :=
  let (bare, next) := c.takeRun isBareKeyChar
  if bare.isEmpty then do
    let (text, next) ← Quotation.oneLine? c
    some (⟨text, c.offset, next.offset⟩, next)
  else some (⟨String.ofList bare, c.offset, next.offset⟩, next)

def keysBounded? : Nat → Cursor → Option (List Key × Cursor)
  | 0, _ => none
  | n + 1, c => do
    let (key, next) ← key? c
    match next.skipBlanks.expect? '.' with
    | some more =>
      let (keys, last) ← keysBounded? n more.skipBlanks
      some (key :: keys, last)
    | none => some ([key], next)

def dottedKey? (c : Cursor) : Option (List Key × Key × Cursor) := do
  let (keys, next) ← keysBounded? maxKeys c
  some (keys.dropLast, ← keys.getLast?, next)

/-- A key, an equals sign and a value read by `value`. What `skip` moves over may stand on both
sides of the equals sign. -/
def pair? (skip : Cursor → Cursor) (value : Cursor → Option (Span × Value × Cursor)) (c : Cursor) :
    Option (Pair × Cursor) := do
  let (path, key, next) ← dottedKey? c
  let next ← (skip next).expect? '='
  let (span, v, next) ← value (skip next)
  some (⟨path, key, span, v⟩, next)

/-- Items with commas between them up to the closing character; a comma may follow the last one, and
blanks, comments and line ends may stand anywhere between. -/
def itemsBounded? {α : Type} (item : Cursor → Option (α × Cursor)) (close : Char) :
    Nat → Cursor → Option (List α × Cursor)
  | 0, _ => none
  | n + 1, c =>
    let c := c.skipFiller
    match c.expect? close with
    | some next => some ([], next)
    | none => do
      let (first, next) ← item c
      let next := next.skipFiller
      match next.expect? ',' with
      | some next =>
        let (rest, last) ← itemsBounded? item close n next
        some (first :: rest, last)
      | none =>
        let last ← next.expect? close
        some ([first], last)

def items? {α : Type} (item : Cursor → Option (α × Cursor)) (close : Char) (c : Cursor) :
    Option (List α × Cursor) :=
  itemsBounded? item close (c.rest.length + 1) c

def inlineTable? (pairs : List Pair) : Option Table :=
  (pairs.foldlM (fun (entries : Parts) p => entries.insertPair p.path p.key p.span p.value) []).map
    Parts.toTable

/-- A value with at most `depth` levels of arrays and inline tables, and its place. -/
def value? (depth : Nat) (c : Cursor) : Option (Span × Value × Cursor) :=
  match c.rest with
  | '"' :: _ | '\'' :: _ => do
    let (text, next) ← Quotation.any? c
    some (⟨c.offset, next.offset⟩, .string text, next)
  | '[' :: rest =>
    match depth with
    | 0 => none
    | depth + 1 => do
      let item (c : Cursor) : Option ((Span × Value) × Cursor) := do
        let (span, v, next) ← value? depth c
        some ((span, v), next)
      let (items, next) ← items? item ']' ⟨c.offset + 1, rest⟩
      some (⟨c.offset, next.offset⟩, .array items, next)
  | '\x7b' :: rest =>
    match depth with
    | 0 => none
    | depth + 1 => do
      let entry := pair? Cursor.skipFiller (value? depth)
      let (pairs, next) ← items? entry '\x7d' ⟨c.offset + 1, rest⟩
      some (⟨c.offset, next.offset⟩, .table (← inlineTable? pairs), next)
  | _ => do
    let (word, next) := Scalar.word c
    some (⟨c.offset, next.offset⟩, ← Scalar.ofWord? word, next)

def header? (c : Cursor) : Option (Header × Cursor) := do
  let inner ← c.expect? '['
  match inner.expect? '[' with
  | some inner =>
    let (path, key, next) ← dottedKey? inner.skipBlanks
    let next ← next.skipBlanks.expect? ']'
    let next ← next.expect? ']'
    some (⟨path, key, ⟨c.offset, next.offset⟩, true⟩, next)
  | none =>
    let (path, key, next) ← dottedKey? inner.skipBlanks
    let next ← next.skipBlanks.expect? ']'
    some (⟨path, key, ⟨c.offset, next.offset⟩, false⟩, next)

/-- The statements of a text. Each round takes at least one character. -/
def statementsBounded? : Nat → Cursor → Option (List Statement)
  | 0, _ => none
  | n + 1, c =>
    let c := c.skipFiller
    match c.rest with
    | [] => some []
    | '[' :: _ => do
      let (h, next) ← header? c
      let rest ← statementsBounded? n (← next.lineEnd?)
      some (.header h :: rest)
    | _ => do
      let (p, next) ← pair? Cursor.skipBlanks (value? maxDepth) c
      let rest ← statementsBounded? n (← next.lineEnd?)
      some (.pair p :: rest)

/-- The text behind a byte order mark, which takes three bytes. -/
def start (cs : List Char) : Cursor :=
  match cs with
  | c :: rest => if c.toNat == 0xFEFF then ⟨3, rest⟩ else ⟨0, cs⟩
  | [] => ⟨0, []⟩

def statements? (text : String) : Option (List Statement) :=
  statementsBounded? (text.length + 1) (start text.toList)

/-- A document while it is put together: finished sections, and the one that is open. -/
structure State where
  root : Parts
  header : Option Header
  body : Parts

def State.close? (s : State) : Option Parts :=
  match s.header with
  | none => some s.body
  | some h =>
    if h.isElement then s.root.addElement h.path h.key h.span s.body
    else s.root.closeTable h.path h.key h.span s.body

def State.add? (s : State) : Statement → Option State
  | .pair p => do
    let body ← s.body.insertPair p.path p.key p.span p.value
    some { s with body }
  | .header h => do
    let root ← s.close?
    if h.isElement then some ⟨root, some h, []⟩
    else
      let (body, root) ← root.openTable h.path h.key
      some ⟨root, some h, body⟩

def ofStatements? (statements : List Statement) : Option Table := do
  let s ← statements.foldlM State.add? ⟨[], none, []⟩
  (← s.close?).toTable

/-- The table that a text stands for, unless the text is not a document. -/
def parse? (text : String) : Option Table := do
  ofStatements? (← statements? text)

end Document

end ScriptBatch.Toml
