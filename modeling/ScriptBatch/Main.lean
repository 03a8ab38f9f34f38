import ScriptBatch.Program

/-!
# The command line

The files below the current directory are read into a file tree, the program runs in that tree, and
the files that it has changed are written back.
-/

namespace ScriptBatch

namespace Snapshot

/-- Directories further down are left out. -/
def maxDepth : Nat := 32

def isScript (content : ByteArray) : Bool :=
  (content.extract 0 2).toList == [0x23, 0x21]

def addEntries : Nat → FileTree → List String → Array IO.FS.DirEntry → IO FileTree
  | 0, tree, _, _ => return tree
  | depth + 1, tree, dir, entries =>
    entries.foldlM
      (fun tree entry => do
        let path := dir ++ [entry.fileName]
        if ← entry.path.isDir then
          addEntries depth (tree.insert path .directory) path (← entry.path.readDir)
        else
          let content ← IO.FS.readBinFile entry.path
          return tree.insert path (.file content (isScript content)))
      tree

def written (path : List String) : String := "/" ++ String.intercalate "/" path

/-- Brings one node of a tree to the disk, unless it is there already. -/
def save (before : FileTree) (path : List String) : FileNode → IO Unit
  | .directory => IO.FS.createDirAll (written path)
  | .file content _ =>
    match before.node? path with
    | some (.file old _) =>
      if old.toList == content.toList then return () else IO.FS.writeBinFile (written path) content
    | _ => IO.FS.writeBinFile (written path) content
  | _ => return ()

def isBelow (home path : List String) : Bool := path.take home.length == home

/-- Brings the disk from one tree to another, below a directory. Nodes are saved from the top down
and removed from the bottom up. -/
def saveAll (home : List String) (before after : FileTree) : IO Unit := do
  let byDepth (nodes : List (List String × FileNode)) :=
    (nodes.filter fun n => isBelow home n.1).mergeSort fun m n => m.1.length ≤ n.1.length
  for (path, node) in byDepth after.nodes do
    save before path node
  for (path, node) in (byDepth before.nodes).reverse do
    if (after.node? path).isNone then
      match node with
      | .directory => IO.FS.removeDir (written path)
      | _ => IO.FS.removeFile (written path)

end Snapshot

end ScriptBatch

open ScriptBatch in
def main (args : List String) : IO UInt32 := do
  let here ← IO.currentDir
  let home := FileTree.names here.toString
  let base := World.systemTree.insert home .directory
  let tree ← Snapshot.addEntries Snapshot.maxDepth base home (← here.readDir)
  let ending := Program.run tree home args (← IO.getEnv Usage.logVariable)
  IO.print ending.output
  IO.eprint ending.errors
  Snapshot.saveAll home tree ending.tree
  return ending.exitCode.toUInt32
