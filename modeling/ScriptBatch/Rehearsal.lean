import ScriptBatch.Run

/-!
# Rehearsed outcomes

A backend that starts nothing: it answers from a list of outcomes prepared in advance, one for each
command, and remembers the commands. Once the list is used up every command succeeds.
-/

namespace ScriptBatch

/-- A prepared answer. -/
inductive Rehearsed where
  | outcome (o : Outcome)
  | notStarted
  deriving Repr, DecidableEq

/-- The answers that are left, and the commands that have come in. -/
structure Rehearsal where
  answers : List Rehearsed := []
  commands : List Command := []
  deriving Repr, DecidableEq

def Rehearsed.answer (c : Command) : Rehearsed → Except Error Outcome
  | outcome o => .ok o
  | notStarted => .error (.notStarted c.program .prepared)

/-- Answers a command with the next prepared outcome. -/
def Rehearsal.backend : Backend Rehearsal := fun r c =>
  ({ answers := r.answers.tail, commands := r.commands ++ [c] },
    match r.answers with
    | [] => .ok .success
    | next :: _ => next.answer c)

end ScriptBatch
