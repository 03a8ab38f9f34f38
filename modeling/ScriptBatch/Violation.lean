import ScriptBatch.Batch

/-!
# Violations

A batch can be run only if its texts say something and its names and tags are not repeated. A batch
that breaks a rule is rejected with its first violation: those of the batch as a whole and of the
settings come before those of the entries, and entries are looked at in order.
-/

namespace ScriptBatch

/-- A broken rule. Entries are numbered from one. -/
inductive Violation where
  | noInvocations
  | blankScript
  | blankLogDir
  | blankWorkingDir
  | blankName (entry : Nat)
  | repeatedName (name : String)
  | repeatedTag (entry : Nat) (tag : Tag)
  | blankOutDir (entry : Nat)
  | blankDataset (entry : Nat)
  deriving Repr, DecidableEq

namespace Violation

def message : Violation → String
  | noInvocations => "batch must contain at least one [[invocation]] entry"
  | blankScript => "[config].script must not be empty"
  | blankLogDir => "[config].log_dir must not be empty"
  | blankWorkingDir => "[config].working_dir must not be empty when set"
  | blankName n => s!"invocation #{n} has an empty name"
  | repeatedName name => s!"invocation name '{name}' is used more than once"
  | repeatedTag n tag => s!"invocation #{n} lists ignore tag '{tag.name}' more than once"
  | blankOutDir n => s!"invocation #{n} has an empty `out_dir`"
  | blankDataset n => s!"invocation #{n} has an empty `dataset`"

end Violation

def givenBlank (text : Option String) : Bool := text.any Text.isBlankText

/-- The first element that occurs before itself, where `seen` counts as standing in front. -/
def firstRepeated {α : Type} [DecidableEq α] : List α → List α → Option α
  | _, [] => none
  | seen, a :: rest => if a ∈ seen then some a else firstRepeated (a :: seen) rest

def Settings.violation? (s : Settings) : Option Violation :=
  if Text.isBlankText s.script then some .blankScript
  else if Text.isBlankText s.logDir then some .blankLogDir
  else if givenBlank s.workingDir then some .blankWorkingDir
  else none

/-- The first broken rule of the entry with number `n`, after entries with the names `names`. -/
def Invocation.violation? (names : List String) (n : Nat) (i : Invocation) : Option Violation :=
  if givenBlank i.name then some (.blankName n)
  else
    match i.name.filter (· ∈ names) with
    | some name => some (.repeatedName name)
    | none =>
      match firstRepeated [] i.ignore with
      | some tag => some (.repeatedTag n tag)
      | none =>
        if givenBlank i.outDir then some (.blankOutDir n)
        else if givenBlank i.dataset then some (.blankDataset n)
        else none

/-- The first broken rule of entries numbered from `n`, after entries with the names `names`. -/
def entriesViolation? : List String → Nat → List Invocation → Option Violation
  | _, _, [] => none
  | names, n, i :: rest =>
    match i.violation? names n with
    | some v => some v
    | none => entriesViolation? (names ++ i.name.toList) (n + 1) rest

namespace Batch

def violation? (b : Batch) : Option Violation :=
  if b.invocations.isEmpty then some .noInvocations
  else
    match b.settings.violation? with
    | some v => some v
    | none => entriesViolation? [] 1 b.invocations

end Batch

/-- A batch that breaks no rule. -/
structure ValidBatch where
  batch : Batch
  valid : batch.violation? = none

/-- Accepts a batch without violations and rejects any other with its first one. -/
def Batch.validate (b : Batch) : Except Violation ValidBatch :=
  match h : b.violation? with
  | some v => .error v
  | none => .ok ⟨b, h⟩

theorem Batch.validate_of_violation {b : Batch} {v : Violation} (h : b.violation? = some v) :
    b.validate = .error v := by
  unfold validate
  split <;> simp_all

theorem ValidBatch.validate_batch (b : ValidBatch) : b.batch.validate = .ok b := by
  have h := b.valid
  unfold Batch.validate
  split <;> simp_all

end ScriptBatch
