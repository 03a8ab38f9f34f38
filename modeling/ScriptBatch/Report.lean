import ScriptBatch.Error

/-!
# Reports

What is known after a batch has been run: a result for each entry that was started, and how many
entries were not.
-/

namespace ScriptBatch

/-- How a started command ended. The code is `-1` if there is none. -/
inductive Outcome where
  | success
  | failed (code : Int)
  deriving Repr, DecidableEq, Inhabited

namespace Outcome

def isFailed : Outcome → Bool
  | success => false
  | failed _ => true

end Outcome

/-- A started entry: its position in the batch, counted from zero, and how it went. -/
structure Result where
  index : Nat
  label : String
  command : Command
  outcome : Outcome
  deriving Repr, DecidableEq

/-- What came of a batch. -/
structure Report where
  results : List Result := []
  disabled : Nat := 0
  notRun : Nat := 0
  halted : Bool := false
  deriving Repr, DecidableEq

namespace Report

def failed (r : Report) : List Result := r.results.filter (·.outcome.isFailed)

def failedCount (r : Report) : Nat := r.failed.length

def succeededCount (r : Report) : Nat := r.results.length - r.failedCount

theorem failedCount_le_length (r : Report) : r.failedCount ≤ r.results.length :=
  List.length_filter_le _ _

/-- Nothing failed and nothing was left out. -/
def isSuccess (r : Report) : Bool := r.failedCount == 0 && r.notRun == 0

/-- The verdict on the batch: an entry that failed or was left out makes all of it fail. -/
def verdict (r : Report) : Except Error Unit :=
  if r.isSuccess then .ok ()
  else .error (.incomplete r.failedCount (r.results.length + r.notRun) r.notRun)

end Report

end ScriptBatch
