/-!
# File trees

A run happens inside of a file tree: a finite set of named files and directories. Paths are looked
up step by step, the way an operating system does it, so a path that leads nowhere fails for a
particular reason. A path of the tree is the list of the names from the root.
-/

namespace ScriptBatch

/-- What a path of a file tree stands for. -/
inductive FileNode where
  | directory
  | file (content : ByteArray) (executable : Bool)
  /-- An installed program, by its name. -/
  | program (name : String)
  /-- A device that swallows what is written to it and has nothing to read. -/
  | nullDevice

/-- Why a file cannot be reached or read. -/
inductive FileError where
  | notFound
  | permissionDenied
  | notADirectory
  | isADirectory
  | nameTooLong
  | nulInName
  | notText
  deriving Repr, DecidableEq

def FileError.message : FileError → String
  | notFound => "No such file or directory (os error 2)"
  | permissionDenied => "Permission denied (os error 13)"
  | notADirectory => "Not a directory (os error 20)"
  | isADirectory => "Is a directory (os error 21)"
  | nameTooLong => "File name too long (os error 36)"
  | nulInName => "file name contained an unexpected NUL byte"
  | notText => "stream did not contain valid UTF-8"

/-- A set of files and directories with their paths. The root is always there. -/
structure FileTree where
  nodes : List (List String × FileNode) := []
  deriving Inhabited

namespace FileTree

def node? (t : FileTree) (path : List String) : Option FileNode :=
  if path.isEmpty then some .directory else t.nodes.lookup path

def put (t : FileTree) (path : List String) (node : FileNode) : FileTree :=
  ⟨(path, node) :: t.nodes.filter fun n => n.1 != path⟩

def makeParents (t : FileTree) (path : List String) : FileTree :=
  ((List.range path.length).map path.take).foldl
    (fun t dir => if (t.node? dir).isSome then t else t.put dir .directory) t

/-- Puts a node at a path, and the directories that it needs. -/
def insert (t : FileTree) (path : List String) (node : FileNode) : FileTree :=
  (t.makeParents path).put path node

/-- Takes away what stands at a path and below it. -/
def erase (t : FileTree) (path : List String) : FileTree :=
  ⟨t.nodes.filter fun n => !path.isPrefixOf n.1⟩

def children (t : FileTree) (dir : List String) : List String :=
  (t.nodes.filterMap fun n =>
    if n.1.dropLast == dir && !n.1.isEmpty then n.1.getLast? else none).mergeSort (· ≤ ·)

/-- The longest name of a file, in bytes. -/
def maxName : Nat := 255

/-- The longest path that can be looked up, in bytes. -/
def maxPath : Nat := 4095

/-- One step of a look-up: from a directory to something in it, which need not exist. -/
def step (t : FileTree) (dir : List String) (name : String) : Except FileError (List String) :=
  match t.node? dir with
  | none => .error .notFound
  | some .directory =>
    if name == "." then .ok dir
    else if name == ".." then .ok dir.dropLast
    else if maxName < name.utf8ByteSize then .error .nameTooLong
    else .ok (dir ++ [name])
  | some _ => .error .notADirectory

def names (path : String) : List String :=
  let parts := (path.toList.splitOn '/').map String.ofList
  parts.filter (!·.isEmpty) ++ (if path.toList.getLast? == some '/' then ["."] else [])

/-- The path of the tree that a written path leads to from a directory. There may be nothing. -/
def locate (t : FileTree) (cwd : List String) (path : String) : Except FileError (List String) :=
  if path.toList.contains '\x00' then .error .nulInName
  else if path.isEmpty then .error .notFound
  else if maxPath < path.utf8ByteSize then .error .nameTooLong
  else (names path).foldlM t.step (if path.toList.head? == some '/' then [] else cwd)

def readBytes (t : FileTree) (cwd : List String) (path : String) : Except FileError ByteArray := do
  match t.node? (← t.locate cwd path) with
  | none => .error .notFound
  | some .directory => .error .isADirectory
  | some (.file content _) => .ok content
  | some (.program _) => .ok ⟨#[0x7F, 0x45, 0x4C, 0x46, 0xFF]⟩
  | some .nullDevice => .ok ⟨#[]⟩

def readText (t : FileTree) (cwd : List String) (path : String) : Except FileError String := do
  match String.fromUTF8? (← t.readBytes cwd path) with
  | some text => .ok text
  | none => .error .notText

def directory (t : FileTree) (cwd : List String) (path : String) :
    Except FileError (List String) := do
  let dir ← t.locate cwd path
  match t.node? dir with
  | some .directory => .ok dir
  | some _ => .error .notADirectory
  | none => .error .notFound

/-- Opens a file for writing and returns its path. It is made if it does not exist, and emptied
unless it is opened for additions. -/
def openForWriting (t : FileTree) (cwd : List String) (path : String) (additions : Bool) :
    Except FileError (List String × FileTree) := do
  let target ← t.locate cwd path
  match t.node? target with
  | none => .ok (target, t.put target (.file ⟨#[]⟩ false))
  | some .directory => .error .isADirectory
  | some (.file content executable) =>
    .ok (target, if additions then t else t.put target (.file (content.extract 0 0) executable))
  | some (.program _) => .error .permissionDenied
  | some .nullDevice => .ok (target, t)

def append (t : FileTree) (path : List String) (text : String) : FileTree :=
  match t.node? path with
  | some (.file content executable) => t.put path (.file (content ++ text.toUTF8) executable)
  | _ => t

end FileTree

end ScriptBatch
