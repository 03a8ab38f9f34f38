import ScriptBatch.FileTree

/-!
# Starting files

How a program is found, and what a file is when it is started.
-/

namespace ScriptBatch.Shell

/-- What a file is when it is started. -/
inductive Executable where
  /-- One of the small programs, or the shell, with arguments that come before all others. -/
  | program (name : String) (leading : List String)
  /-- Neither a program nor a script. -/
  | unknown

/-- The path of the interpreter on the first line of a script, and its argument if there is one. -/
def interpreterLine? (text : String) : Option (String × Option String) :=
  match text.toList with
  | '#' :: '!' :: rest =>
    let isBlank (c : Char) : Bool := c == ' ' || c == '\t'
    let line := (rest.takeWhile (· != '\n')).dropWhile isBlank
    let path := line.takeWhile fun c => !isBlank c
    let argument := ((line.drop path.length).dropWhile isBlank).reverse.dropWhile isBlank
    if path.isEmpty then none
    else
      some (String.ofList path,
        if argument.isEmpty then none else some (String.ofList argument.reverse))
  | _ => none

/-- What stands at a path of the tree as something to start. A script is started as its interpreter,
with the path as it was written as an argument. -/
def executableAt (tree : FileTree) (cwd path : List String) (written : String) :
    Except FileError Executable :=
  match tree.node? path with
  | none => .error .notFound
  | some .directory => .error .permissionDenied
  | some .nullDevice => .error .permissionDenied
  | some (.program name) => .ok (.program name [])
  | some (.file _ false) => .error .permissionDenied
  | some (.file content true) =>
    match (String.fromUTF8? content).bind interpreterLine? with
    | none => .ok .unknown
    | some (interpreter, argument) => do
      match tree.node? (← tree.locate cwd interpreter) with
      | none => .error .notFound
      | some (.program name) => .ok (.program name (argument.toList ++ [written]))
      | some (.file _ true) => .ok .unknown
      | some _ => .error .permissionDenied

def programDirectories : List String := ["/usr/bin", "/bin"]

/-- Looks for a program in directories. What cannot be started does not end the look-up, but is
remembered. -/
def searchProgram (tree : FileTree) (cwd : List String) (name : String) :
    List String → Except FileError Executable
  | [] => .error .notFound
  | dir :: rest =>
    let path := dir ++ "/" ++ name
    match (tree.locate cwd path).bind fun p => executableAt tree cwd p path with
    | .ok found => .ok found
    | .error .permissionDenied =>
      match searchProgram tree cwd name rest with
      | .error _ => .error .permissionDenied
      | found => found
    | .error _ => searchProgram tree cwd name rest

/-- Finds a program: by its path if its name has a slash in it, and else in the directories. -/
def findProgram (tree : FileTree) (cwd : List String) (directories : List String)
    (name : String) : Except FileError Executable :=
  if name.toList.contains '/' then do executableAt tree cwd (← tree.locate cwd name) name
  else if name.isEmpty then .error .notFound
  else if FileTree.maxName < name.utf8ByteSize then .error .nameTooLong
  else searchProgram tree cwd name directories

end ScriptBatch.Shell
