import ScriptBatch.Keyword

/-!
# Invocations

An invocation is one entry of a batch: a set of flags for a single run of the script. The flags have
a fixed order on the command line,

    [-pna] [--ignore TAG...] [--min_apis N] [--out_dir DIR] [--dataset FILE]

so equal flag sets give equal argument lists.
-/

namespace ScriptBatch

/-- One entry of a batch. -/
structure Invocation where
  name : Option String := none
  enabled : Bool := true
  plot : Bool := false
  normalize : Bool := false
  aptStats : Bool := false
  ignore : List Tag := []
  minApis : Option UInt32 := none
  outDir : Option String := none
  dataset : Option String := none
  deriving Repr, DecidableEq, Inhabited

namespace Invocation

def plotNormalized : Invocation := { plot := true, normalize := true }

def ignoring (i : Invocation) (tags : List Tag) : Invocation :=
  { i with ignore := i.ignore ++ tags }

def withMinApis (i : Invocation) (n : UInt32) : Invocation := { i with minApis := some n }

def switchLetters (i : Invocation) : List Char :=
  (if i.plot then ['p'] else []) ++ (if i.normalize then ['n'] else []) ++
    (if i.aptStats then ['a'] else [])

def switchArgs (i : Invocation) : List String :=
  match i.switchLetters with
  | [] => []
  | letters => [String.ofList ('-' :: letters)]

def ignoreArgs (i : Invocation) : List String :=
  match i.ignore with
  | [] => []
  | tags => "--ignore" :: tags.map Tag.name

def minApisArgs (i : Invocation) : List String :=
  match i.minApis with
  | none => []
  | some n => ["--min_apis", n.toNat.repr]

def outDirArgs (i : Invocation) : List String :=
  match i.outDir with
  | none => []
  | some dir => ["--out_dir", dir]

def datasetArgs (i : Invocation) : List String :=
  match i.dataset with
  | none => []
  | some file => ["--dataset", file]

def flagArgs (i : Invocation) : List String :=
  i.switchArgs ++ i.ignoreArgs ++ i.minApisArgs ++ i.outDirArgs ++ i.datasetArgs

/-- The script, the log directory and the flags. -/
def argv (i : Invocation) (script logDir : String) : List String :=
  script :: logDir :: i.flagArgs

/-- How logs and reports refer to the entry: by its name, or else by its flags. -/
def label (i : Invocation) : String :=
  match i.name with
  | some name => name
  | none =>
    match i.flagArgs with
    | [] => "(no flags)"
    | args => " ".intercalate args

end Invocation

end ScriptBatch
