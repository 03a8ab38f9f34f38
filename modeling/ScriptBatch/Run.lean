import ScriptBatch.Log

/-!
# Running a batch

A batch is run one entry at a time by a backend, which starts commands and knows how they ended. The
backend may be anything that keeps a state: each call takes the state that the call before it left.

Disabled entries are passed over. An entry that fails, or cannot be started, is recorded; whether
the entries behind it are still run depends on the failure mode of the batch.
-/

namespace ScriptBatch

open Log (Event)

/-- Something that runs commands, with a state of its own. -/
abbrev Backend (σ : Type) := σ → Command → σ × Except Error Outcome

/-- The outcome that is recorded for an answer of a backend: an error is a failure with the code
`-1`. -/
def recorded : Except Error Outcome → Outcome
  | .ok outcome => outcome
  | .error _ => .failed (-1)

/-- How far a run has come: the state of the backend, the report on the entries so far, how many
commands have been started, and what has been told. -/
structure Run (σ : Type) where
  backend : σ
  report : Report := {}
  position : Nat := 0
  log : List Event := []

namespace Run

def failureEvents (b : Batch) (index : Nat) (label : String) (answer : Except Error Outcome) :
    List Event :=
  (match answer with
    | .error e => [Event.entryNotRunnable index label e]
    | .ok _ => []) ++
  (match recorded answer with
    | .failed code =>
      .entryFailed index label code ::
        (if b.settings.onFailure == .halt then [Event.batchHalted] else [])
    | .success => [])

/-- Starts an enabled entry and records what came of it. -/
def start {σ : Type} (backend : Backend σ) (b : Batch) (r : Run σ) (i : Invocation) (index : Nat) :
    Run σ :=
  let command := b.commandFor i
  let position := r.position + 1
  let (state, answer) := backend r.backend command
  let outcome := recorded answer
  { backend := state
    position := position
    report := { r.report with
      results := r.report.results ++ [⟨index, i.label, command, outcome⟩]
      halted := r.report.halted || (outcome.isFailed && b.settings.onFailure == .halt) }
    log := r.log ++ .entryStarted position b.enabledCount command index i.label ::
      failureEvents b index i.label answer }

/-- Deals with one entry, which comes with its position in the batch. -/
def step {σ : Type} (backend : Backend σ) (b : Batch) (r : Run σ) (entry : Invocation × Nat) :
    Run σ :=
  let (i, index) := entry
  if !i.enabled then
    { r with
      report := { r.report with disabled := r.report.disabled + 1 }
      log := r.log ++ [.entryDisabled index i.label] }
  else if r.report.halted then
    { r with report := { r.report with notRun := r.report.notRun + 1 } }
  else r.start backend b i index

def initial {σ : Type} (b : Batch) (s : σ) : Run σ :=
  { backend := s, log := [.batchStarted b.enabledCount b.settings.onFailure] }

/-- The run after the first `k` entries. -/
def afterEntries {σ : Type} (backend : Backend σ) (b : Batch) (s : σ) (k : Nat) : Run σ :=
  (b.invocations.zipIdx.take k).foldl (step backend b) (initial b s)

def finish {σ : Type} (r : Run σ) : Run σ :=
  { r with
    log := r.log ++ [.batchFinished r.report.succeededCount r.report.failedCount
      r.report.disabled r.report.notRun] }

end Run

/-- Runs all entries of a batch, from a state of the backend. -/
def Batch.run {σ : Type} (backend : Backend σ) (b : Batch) (s : σ) : Run σ :=
  (b.invocations.zipIdx.foldl (Run.step backend b) (Run.initial b s)).finish

/-- The entries of a batch as a whole are the entries up to its length. -/
theorem Batch.run_eq_finish_afterEntries {σ : Type} (backend : Backend σ) (b : Batch) (s : σ) :
    b.run backend s = (Run.afterEntries backend b s b.invocations.length).finish := by
  simp [Batch.run, Run.afterEntries, List.take_of_length_le]

end ScriptBatch
