import ScriptBatch.Text.Case

/-!
# Keywords

Words of a fixed vocabulary are read without regard to letter case and to blanks around them. There
are two vocabularies: the tags, which name categories of samples that a run can be told to skip, and
the failure modes, which say what a batch does with the entries that follow a failed one.
-/

namespace ScriptBatch

def Keyword.fold (s : String) : String := Text.lower (Text.trim s)

/-- A word outside its vocabulary, in folded form. -/
inductive UnknownKeyword where
  | tag (word : String)
  | failureMode (word : String)
  deriving Repr, DecidableEq

def UnknownKeyword.message : UnknownKeyword → String
  | .tag word =>
    s!"invalid ignore tag: {word} (expected one of dotnet, nonc, dll, packed, empty)"
  | .failureMode word => s!"invalid on_failure: {word} (expected \"continue\" or \"halt\")"

/-! ## Tags -/

/-- A category of samples. -/
inductive Tag where
  | dotnet
  | nonc
  | dll
  | packed
  | empty
  deriving Repr, DecidableEq, Inhabited

namespace Tag

def all : List Tag := [.dotnet, .nonc, .dll, .packed, .empty]

def name : Tag → String
  | dotnet => "dotnet"
  | nonc => "nonc"
  | dll => "dll"
  | packed => "packed"
  | empty => "empty"

theorem mem_all (t : Tag) : t ∈ all := by cases t <;> decide

theorem name_injective {t u : Tag} (h : t.name = u.name) : t = u := by
  cases t <;> cases u <;> first | rfl | exact absurd h (by decide)

def parse (s : String) : Except UnknownKeyword Tag :=
  match all.find? (·.name == Keyword.fold s) with
  | some t => .ok t
  | none => .error (.tag (Keyword.fold s))

end Tag

/-! ## Failure modes -/

/-- Go on after a failed entry, or leave the remaining entries alone. -/
inductive FailureMode where
  | proceed
  | halt
  deriving Repr, DecidableEq, Inhabited

namespace FailureMode

def label : FailureMode → String
  | proceed => "Continue"
  | halt => "Halt"

def parse (s : String) : Except UnknownKeyword FailureMode :=
  let word := Keyword.fold s
  if word == "continue" then .ok .proceed
  else if word == "halt" then .ok .halt
  else .error (.failureMode word)

end FailureMode

end ScriptBatch
