import ScriptBatch.Toml.Value

/-!
# Putting tables together

A table can be spread over a document: a header `[a.b]` opens it, a longer header or a dotted key
adds a part to it, and `[[a]]` adds an element to an array of tables. While a document is read its
tables remember how they came about, because that decides what may still be added to them:

* a table opened by a header is not opened again, and dotted keys do not reach into it from outside;
* a table that only longer headers have mentioned can be opened once;
* a table made by dotted keys takes more dotted keys of the same section, but no header opens it;
* values written in place, inline tables and arrays included, are finished.
-/

namespace ScriptBatch.Toml

/-- How a table came about. -/
inductive Origin where
  | header
  | mentioned
  | dotted
  deriving Repr, DecidableEq

/-- A part of a document under construction. -/
inductive Part where
  | finished (value : Value)
  | table (origin : Origin) (entries : List (Key × Span × Part))
  | tables (elements : List (Span × List (Key × Span × Part)))
  deriving Inhabited

/-- The entries of a table under construction, in the order in which they appeared. -/
abbrev Parts := List (Key × Span × Part)

namespace Part

def toValue : Part → Value
  | finished value => value
  | table _ entries => .table (entries.map fun e => (e.1, e.2.1, e.2.2.toValue))
  | tables elements =>
    .array (elements.map fun t => (t.1, .table (t.2.map fun e => (e.1, e.2.1, e.2.2.toValue))))
termination_by p => sizeOf p
decreasing_by
  all_goals
    rename_i h
    have h1 := List.sizeOf_lt_of_mem h
    obtain ⟨k, s, p⟩ := e
  · simp at h1 ⊢
    omega
  · rename_i ht
    have h2 := List.sizeOf_lt_of_mem ht
    obtain ⟨s', es⟩ := t
    simp at h1 h2 ⊢
    omega

end Part

namespace Parts

def toTable (entries : Parts) : Table := entries.map fun e => (e.1, e.2.1, e.2.2.toValue)

def find? (entries : Parts) (key : Key) : Option (Span × Part) :=
  (List.find? (fun e => e.1.text == key.text) entries).map (·.2)

def erase (entries : Parts) (key : Key) : Parts :=
  entries.filter fun e => e.1.text != key.text

/-- Puts another part under a key that is present; the key and its place stay as they are. -/
def replace (entries : Parts) (key : Key) (part : Part) : Parts :=
  entries.map fun e => if e.1.text == key.text then (e.1, e.2.1, part) else e

/-- Changes the table at the end of a path by `change`, which is told how that table came about.
Tables on the way that do not exist are made. With `dotted` the path belongs to a dotted key,
otherwise to a header. -/
def updateAt (dotted : Bool) (change : Origin → Parts → Option Parts) :
    List Key → Origin → Parts → Option Parts
  | [], origin, entries => change origin entries
  | key :: path, _, entries =>
    match entries.find? key with
    | none => do
      let origin := if dotted then Origin.dotted else Origin.mentioned
      let inner ← updateAt dotted change path origin []
      some (entries ++ [(key, key.span, .table origin inner)])
    | some (_, .table origin inner) =>
      if dotted && origin == .header then none
      else do
        let inner ← updateAt dotted change path origin inner
        some (entries.replace key (.table origin inner))
    | some (_, .tables elements) =>
      match elements.getLast? with
      | none => none
      | some (span, inner) => do
        let inner ← updateAt dotted change path .header inner
        some (entries.replace key (.tables (elements.dropLast ++ [(span, inner)])))
    | some (_, .finished _) => none

/-- Adds a value under a key that is not yet present in the table at the end of the path. A dotted
key ends in a table made by dotted keys, and a plain one does not. -/
def insertPair (entries : Parts) (path : List Key) (key : Key) (span : Span) (value : Value) :
    Option Parts :=
  let dotted := !path.isEmpty
  updateAt dotted
    (fun origin inner =>
      if (origin == .dotted) != dotted || (inner.find? key).isSome then none
      else some (inner ++ [(key, span, .finished value)]))
    path .header entries

/-- Takes out the table that a header opens: new, or mentioned before. Its entries come first. -/
def openTable (entries : Parts) (path : List Key) (key : Key) : Option (Parts × Parts) := do
  -- The update itself removes the entry; what stood there is looked up on the way.
  let rest ← updateAt false
    (fun _ inner =>
      match inner.find? key with
      | none => some inner
      | some (_, .table .mentioned _) => some (inner.erase key)
      | some _ => none)
    path .header entries
  some (lookup path entries, rest)
where
  /-- The entries of the table with this path, none if it does not exist. -/
  lookup : List Key → Parts → Parts
    | [], inner =>
      match inner.find? key with
      | some (_, .table _ found) => found
      | _ => []
    | step :: path, inner =>
      match inner.find? step with
      | some (_, .table _ found) => lookup path found
      | some (_, .tables elements) => lookup path ((elements.getLast?.map (·.2)).getD [])
      | _ => []

def closeTable (entries : Parts) (path : List Key) (key : Key) (span : Span) (body : Parts) :
    Option Parts :=
  updateAt false (fun _ inner => some (inner ++ [(key, span, .table .header body)]))
    path .header entries

def addElement (entries : Parts) (path : List Key) (key : Key) (span : Span) (body : Parts) :
    Option Parts :=
  updateAt false
    (fun _ inner =>
      match inner.find? key with
      | none => some (inner ++ [(key, span, .tables [(span, body)])])
      | some (_, .tables elements) =>
        some (inner.replace key (.tables (elements ++ [(span, body)])))
      | some _ => none)
    path .header entries

end Parts

end ScriptBatch.Toml
