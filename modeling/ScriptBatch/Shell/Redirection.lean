import ScriptBatch.Shell.State

/-!
# Redirections

What opening a redirection does to the file descriptors.
-/

namespace ScriptBatch.Shell

/-- A redirection that cannot be opened: the complaint, and whether that ends the shell. -/
structure RedirectFault where
  complaint : String
  ends : Bool := false

/-- Opens a file for writing. With `fresh` there must not be a file yet. -/
def openOutput (s : State) (descriptor : Nat) (target : String) (additions fresh : Bool) :
    Except RedirectFault State :=
  let isFile : Bool :=
    match s.tree.locate s.cwd target with
    | .ok p =>
      match s.tree.node? p with
      | some (.file ..) | some (.program _) => true
      | _ => false
    | .error _ => false
  if fresh && isFile then .error { complaint := s!"cannot create {target}: File exists" }
  else
    match s.tree.openForWriting s.cwd target additions with
    | .ok (path, tree) =>
      let c := match tree.node? path with
        | some .nullDevice => Channel.nowhere
        | _ => .file path
      .ok ({ s with tree }.setChannel descriptor c)
    | .error e =>
      let reason := match e with
        | .isADirectory => "Is a directory"
        | .permissionDenied => "Permission denied"
        | .nameTooLong => "File name too long"
        | _ => "Directory nonexistent"
      .error { complaint := s!"cannot create {target}: {reason}" }

/-- Opens a file for reading. A directory can be opened, but has no text. -/
def openInput (s : State) (descriptor : Nat) (target : String) : Except RedirectFault State :=
  match s.tree.readText s.cwd target with
  | .ok text => .ok (s.openText descriptor text.toList)
  | .error .isADirectory => .ok (s.setChannel descriptor .nowhere)
  | .error .notText => .ok (s.openText descriptor [])
  | .error .nameTooLong => .error { complaint := s!"cannot open {target}: File name too long" }
  | .error _ => .error { complaint := s!"cannot open {target}: No such file" }

def redirectTo (s : State) (descriptor : Nat) (direction : Direction) (target : String) :
    Except RedirectFault State :=
  match direction with
  | .here => .ok (s.openText descriptor target.toList)
  | .read => openInput s descriptor target
  | .write => openOutput s descriptor target false (s.isOn 'C')
  | .overwrite => openOutput s descriptor target false false
  | .append => openOutput s descriptor target true false
  | .readWrite =>
    match openOutput s descriptor target true false with
    | .ok opened => if descriptor == 0 then openInput opened 0 target else .ok opened
    | failed => failed
  | .duplicate =>
    if target == "-" then .ok { s with channels := s.channels.filter (·.1 != descriptor) }
    else
      match target.toList with
      | [c] =>
        if c.isDigit then
          match s.channels.lookup (c.toNat - '0'.toNat) with
          | some channel => .ok (s.setChannel descriptor channel)
          | none => .error { complaint := s!"{target}: Bad file descriptor" }
        else .error { complaint := SyntaxFault.descriptor.message, ends := true }
      | _ => .error { complaint := SyntaxFault.descriptor.message, ends := true }

/-- The state after a command with redirections: its descriptors are those from before. -/
def restoreChannels (before after : State) : State := { after with channels := before.channels }

end ScriptBatch.Shell
