import ScriptBatch.Shell.Pattern
import ScriptBatch.Shell.State

/-!
# Fields

A word becomes fields: values that were not quoted are divided at separators, and fields with
special characters are replaced by the paths that match them.
-/

namespace ScriptBatch.Shell

/-- Fields under construction: those that are complete, and the one that is open, if any. -/
structure Fields where
  complete : List Marked := []
  current : Option Marked := none

namespace Fields

def add (f : Fields) (m : Marked) : Fields := { f with current := some (f.current.getD [] ++ m) }

def close (f : Fields) : Fields := ⟨f.complete ++ f.current.toList, none⟩

/-- Completes a field even if nothing has opened it. -/
def closeAlways (f : Fields) : Fields := ⟨f.complete ++ [f.current.getD []], none⟩

def isBlank (c : Char) : Bool := c == ' ' || c == '\t' || c == '\n'

/-- Adds a value that separators divide into fields. Blanks among the separators divide only what is
there; any other separator, with blanks around it, ends a field that may be empty. Each round takes
at least one character. -/
def addSplit (separators : List Char) : Nat → Fields → List Char → Fields
  | 0, f, _ => f
  | _, f, [] => f
  | n + 1, f, c :: rest =>
    let skip (cs : List Char) : List Char :=
      cs.dropWhile fun c => isBlank c && separators.contains c
    if separators.contains c then
      match skip (c :: rest) with
      | [] => f.close
      | d :: more =>
        if separators.contains d then addSplit separators n f.closeAlways (skip more)
        else addSplit separators n f.close (d :: more)
    else
      let run := (c :: rest).takeWhile fun c => !separators.contains c
      addSplit separators n (f.add (.ofText run false)) ((c :: rest).drop run.length)

def addList (f : Fields) (values : List String) : Fields :=
  match values with
  | [] => f
  | first :: rest =>
    rest.foldl (fun f v => f.close.add (.ofText v.toList true)) (f.add (.ofText first.toList true))

def addSplitList (separators : List Char) (f : Fields) (values : List String) : Fields :=
  let put (f : Fields) (v : String) : Fields := addSplit separators (v.length + 1) f v.toList
  match values with
  | [] => f
  | first :: rest => rest.foldl (fun f v => put f.close v) (put f first)

def toList (f : Fields) : List Marked := f.close.complete

end Fields

def Marked.pathPieces (field : Marked) : List Marked :=
  field.foldr
    (fun c pieces =>
      match pieces with
      | piece :: more => if c.1 == '/' then [] :: piece :: more else (c :: piece) :: more
      | [] => [[c]])
    [[]]

/-- The names in a directory that match a piece. Hidden names have to be asked for. -/
def matchingNames (s : State) (dir : String) (piece : Marked) : List String :=
  match s.tree.directory s.cwd (if dir.isEmpty then "." else dir) with
  | .error _ => []
  | .ok path =>
    let hidden := piece.head?.any (·.1 == '.')
    let names := (if hidden then [".", ".."] else []) ++ s.tree.children path
    names.filter fun name =>
      (hidden || name.toList.head? != some '.') && Pattern.covers piece name.toList

def matchingPaths (s : State) : String → List Marked → List String
  | dir, [] => [dir]
  | dir, piece :: rest =>
    let slash := if rest.isEmpty then "" else "/"
    if piece.any Marked.isSpecial then
      (matchingNames s dir piece).flatMap fun name => matchingPaths s (dir ++ name ++ slash) rest
    else
      let path := dir ++ piece.text
      let exists_ :=
        match s.tree.locate s.cwd (if path.isEmpty then "/" else path) with
        | .ok p => (s.tree.node? p).isSome
        | .error _ => false
      if exists_ then matchingPaths s (path ++ slash) rest else []

/-- The paths that match a field with special characters, or the field itself if there are none. -/
def pathnames (s : State) (field : Marked) : List String :=
  if s.isOn 'f' || !(field.any Marked.isSpecial) then [field.text]
  else
    match matchingPaths s "" field.pathPieces with
    | [] => [field.text]
    | found => found

end ScriptBatch.Shell
