import ScriptBatch.Shell.Programs.Call

/-!
# Programs for files

Programs that list, make, copy, move and remove files and directories.
-/

namespace ScriptBatch.Shell.Programs

def nodeOf (s : State) (path : String) : Except FileError (List String × FileNode) := do
  let p ← s.tree.locate s.cwd path
  match s.tree.node? p with
  | some node => .ok (p, node)
  | none => .error .notFound

def list (s : State) (args : List String) : State × Flow :=
  withCall s "ls" { plain := "aAC1dFhlprRstu" } 2 args fun call =>
    let visible (name : String) : Bool :=
      call.has 'a' || call.has 'A' || name.toList.head? != some '.'
    let paths := if call.operands.isEmpty then ["."] else call.operands
    let nodes := (paths.mergeSort (· ≤ ·)).map fun path => (path, nodeOf s path)
    let missing := nodes.filterMap fun (path, r) =>
      match r with
      | .error e => some s!"cannot access '{path}': {reason e}"
      | .ok _ => none
    let isListed (node : FileNode) : Bool :=
      match node with
      | .directory => !(call.has 'd')
      | _ => false
    let plain := nodes.filterMap fun (path, r) =>
      match r with
      | .ok (_, node) => if isListed node then none else some path
      | .error _ => none
    let dirs := nodes.filterMap fun (path, r) =>
      match r with
      | .ok (p, node) => if isListed node then some (path, p) else none
      | .error _ => none
    let namesIn (p : List String) : String :=
      joinLines ((if call.has 'a' then [".", ".."] else []) ++ (s.tree.children p).filter visible)
    let shown := dirs.map fun (path, p) =>
      (if paths.length == 1 then "" else path ++ ":\n") ++ namesIn p
    let blocks := (if plain.isEmpty then [] else [joinLines plain]) ++ shown
    let s := missing.foldl (complainAs · "ls" ·) s
    done (s.write ("\n".intercalate blocks)) (if missing.isEmpty then 0 else 2)

def remove (s : State) (args : List String) : State × Flow :=
  withCall s "rm" { plain := "dfirRv" } 1 args fun call =>
    if call.operands.isEmpty && !(call.has 'f') then misuse s "rm" "missing operand" 1
    else
      forEach s call.operands 1 fun s path =>
        match nodeOf s path with
        | .ok (p, .directory) =>
          if call.has 'r' || call.has 'R' then ({ s with tree := s.tree.erase p }, true)
          else (complainAs s "rm" s!"cannot remove '{path}': Is a directory", false)
        | .ok (p, _) => ({ s with tree := s.tree.erase p }, true)
        | .error e =>
          if call.has 'f' then (s, true)
          else (complainAs s "rm" s!"cannot remove '{path}': {reason e}", false)

def removeDirectories (s : State) (args : List String) : State × Flow :=
  withCall s "rmdir" { plain := "pv" } 1 args fun call =>
    if call.operands.isEmpty then misuse s "rmdir" "missing operand" 1
    else
      forEach s call.operands 1 fun s path =>
        let complain (text : String) : State × Bool :=
          (complainAs s "rmdir" s!"failed to remove '{path}': {text}", false)
        match nodeOf s path with
        | .ok (p, .directory) =>
          if (s.tree.children p).isEmpty then ({ s with tree := s.tree.erase p }, true)
          else complain "Directory not empty"
        | .ok _ => complain "Not a directory"
        | .error e => complain (reason e)

def makeDirectories (s : State) (args : List String) : State × Flow :=
  withCall s "mkdir" { plain := "pv", valued := "m" } 1 args fun call =>
    if call.operands.isEmpty then misuse s "mkdir" "missing operand" 1
    else
      forEach s call.operands 1 fun s path =>
        let complain (text : String) : State × Bool :=
          (complainAs s "mkdir" s!"cannot create directory '{path}': {text}", false)
        if call.has 'p' then
          let target := (if path.startsWith "/" then [] else s.cwd) ++ FileTree.names path
          let target := target.filter (· != ".")
          match s.tree.node? target with
          | none => ({ s with tree := s.tree.insert target .directory }, true)
          | some .directory => (s, true)
          | some _ => complain "File exists"
        else
          -- A slash at the end does not ask for a directory that is already there.
          let trimmed := (path.toList.reverse.dropWhile (· == '/')).reverse
          match s.tree.locate s.cwd (if trimmed.isEmpty then path else String.ofList trimmed) with
          | .error e => complain (reason e)
          | .ok p =>
            match s.tree.node? p, s.tree.node? p.dropLast with
            | some _, _ => complain "File exists"
            | none, some .directory => ({ s with tree := s.tree.put p .directory }, true)
            | none, _ => complain "No such file or directory"

def touch (s : State) (args : List String) : State × Flow :=
  withCall s "touch" { plain := "acmfh", valued := "drt" } 1 args fun call =>
    if call.operands.isEmpty then misuse s "touch" "missing file operand" 1
    else
      forEach s call.operands 1 fun s path =>
        match s.tree.openForWriting s.cwd path true with
        | .ok (_, tree) => ({ s with tree }, true)
        | .error .isADirectory => (s, true)
        | .error e => (complainAs s "touch" s!"cannot touch '{path}': {reason e}", false)

/-- Changes whether files can be executed. Other permissions are not kept. -/
def changeMode (s : State) (args : List String) : State × Flow :=
  match args with
  | mode :: paths =>
    let digits := mode.toList.filter Char.isDigit
    let executable :=
      if digits.isEmpty then mode.toList.contains '+' && mode.toList.contains 'x'
      else digits.any fun c => (c.toNat - '0'.toNat) % 2 == 1
    let keeps := digits.isEmpty && !mode.toList.contains 'x'
    forEach s paths 1 fun s path =>
      match nodeOf s path with
      | .ok (p, .file content old) =>
        ({ s with tree := s.tree.put p (.file content (if keeps then old else executable)) }, true)
      | .ok _ => (s, true)
      | .error e => (complainAs s "chmod" s!"cannot access '{path}': {reason e}", false)
  | [] => misuse s "chmod" "missing operand" 1

def copyTree (t : FileTree) (source target : List String) : FileTree :=
  (t.nodes.filter fun n => source.isPrefixOf n.1).foldl
    (fun t n => t.put (target ++ n.1.drop source.length) n.2) t

def transfer (s : State) (name : String) (moves : Bool) (args : List String) : State × Flow :=
  withCall s name { plain := "afinpPrRuv" } 1 args fun call =>
    match call.operands.reverse with
    | [] => misuse s name "missing file operand" 1
    | [only] => misuse s name s!"missing destination file operand after '{only}'" 1
    | last :: sources =>
      let target := nodeOf s last
      let intoDirectory := match target with
        | .ok (_, .directory) => true
        | _ => false
      if sources.length != 1 && !intoDirectory then
        done (complainAs s name s!"target '{last}': No such file or directory") 1
      else
        forEach s sources.reverse 1 fun s path =>
          match nodeOf s path, s.tree.locate s.cwd last with
          | .error e, _ => (complainAs s name s!"cannot stat '{path}': {reason e}", false)
          | .ok (p, node), .ok place =>
            let goal := if intoDirectory then place ++ [p.getLast?.getD ""] else place
            let isDirectory := match node with
              | .directory => true
              | _ => false
            let parent := match s.tree.node? goal.dropLast with
              | some .directory => true
              | _ => false
            if isDirectory && !moves && !(call.has 'r' || call.has 'R' || call.has 'a') then
              (complainAs s name s!"-r not specified; omitting directory '{path}'", false)
            else if goal == p then
              (complainAs s name s!"'{path}' and '{last}' are the same file", false)
            else if !parent then
              let verb := if moves then s!"cannot move '{path}' to '{last}'"
                else s!"cannot create regular file '{last}'"
              (complainAs s name s!"{verb}: No such file or directory", false)
            else
              let tree := copyTree s.tree p goal
              ({ s with tree := if moves then tree.erase p else tree }, true)
          | _, .error e => (complainAs s name s!"cannot create '{last}': {reason e}", false)

end ScriptBatch.Shell.Programs
