import ScriptBatch.Proofs.Refinement
import ScriptBatch.Rehearsal

/-!
# Batches run one after another

Several batches share a backend: each is run in the state that the one before it left. With prepared
answers that state is a queue, and which answer meets which command depends on all that was started
before, since entries that are disabled or left out take none. What holds all along is that the
commands that came in are those of the reports, and that each took one answer.
-/

namespace ScriptBatch

/-- What has come of batches that were run one after another: their reports, and the state in which
the last of them left the backend. -/
structure Series (σ : Type) where
  reports : List Report := []
  backend : σ

namespace Series

variable {σ : Type} (backend : Backend σ)

def next (x : Series σ) (b : Batch) : Series σ :=
  let r := b.run backend x.backend
  { reports := x.reports ++ [r.report], backend := r.backend }

/-- Runs batches one after another, from a state of the backend. -/
def run (s : σ) (batches : List Batch) : Series σ := batches.foldl (next backend) { backend := s }

/-- The results of all batches, in the order in which the commands were started. -/
def results (x : Series σ) : List Result := x.reports.flatMap (·.results)

@[simp] theorem results_next (x : Series σ) (b : Batch) :
    (x.next backend b).results = x.results ++ (b.run backend x.backend).report.results := by
  simp [results, next]

/-- Every report is that of a run which starts where the batches in front have ended. -/
theorem reports_foldl (x : Series σ) (batches : List Batch) :
    (batches.foldl (next backend) x).reports =
      x.reports ++ batches.mapIdx fun n b =>
        (b.run backend ((batches.take n).foldl (next backend) x).backend).report := by
  induction batches generalizing x with
  | nil => simp
  | cons b rest ih =>
    rw [List.foldl_cons, ih, List.mapIdx_cons]
    simp [next]

end Series

def Rehearsed.recorded : Rehearsed → Outcome
  | outcome o => o
  | notStarted => .failed (-1)

/-- The outcome of the command with number `k`, counted from zero: the one prepared for it, or else
success. -/
def Rehearsed.outcomeAt (answers : List Rehearsed) (k : Nat) : Outcome :=
  match answers[k]? with
  | some answer => answer.recorded
  | none => .success

theorem Rehearsed.recorded_answer (c : Command) (a : Rehearsed) :
    ScriptBatch.recorded (a.answer c) = a.recorded := by
  cases a <;> rfl

theorem Rehearsed.outcomeAt_drop (answers : List Rehearsed) (n k : Nat) :
    outcomeAt (answers.drop n) k = outcomeAt answers (n + k) := by
  simp [outcomeAt]

namespace Batch

variable (b : Batch) (r : Rehearsal)

/-- A rehearsal uses up one answer for each command, and notes the command. -/
theorem after_call_rehearsed (entry : Nat × Invocation) :
    (b.call Rehearsal.backend r entry).after =
      { answers := r.answers.tail, commands := r.commands ++ [b.commandFor entry.2] } := rfl

theorem recorded_call_rehearsed (entry : Nat × Invocation) :
    recorded (b.call Rehearsal.backend r entry).answer = Rehearsed.outcomeAt r.answers 0 := by
  cases h : r.answers with
  | nil => simp [call, Rehearsal.backend, h, Rehearsed.outcomeAt, recorded]
  | cons a rest => simp [call, Rehearsal.backend, h, Rehearsed.outcomeAt, Rehearsed.recorded_answer]

/-- Every call takes the answer at the front, so they come in order. -/
theorem map_recorded_calls_rehearsed (entries : List (Nat × Invocation)) :
    (b.calls Rehearsal.backend r entries).map (fun c => recorded c.answer) =
      (List.range entries.length).map (Rehearsed.outcomeAt r.answers) := by
  induction entries generalizing r with
  | nil => rfl
  | cons entry rest ih =>
    have htail (k : Nat) : Rehearsed.outcomeAt r.answers.tail k =
        Rehearsed.outcomeAt r.answers (k + 1) := by
      simp [Rehearsed.outcomeAt]
    rw [calls_cons, List.map_cons, recorded_call_rehearsed, ih, after_call_rehearsed,
      List.length_cons, List.range_succ_eq_map, List.map_cons, List.map_map]
    simp [htail]

theorem stateAfter_calls_rehearsed (entries : List (Nat × Invocation)) :
    Call.stateAfter r (b.calls Rehearsal.backend r entries) =
      { answers := r.answers.drop entries.length
        commands := r.commands ++ entries.map fun e => b.commandFor e.2 } := by
  induction entries generalizing r with
  | nil => simp [Call.stateAfter]
  | cons entry rest ih =>
    rw [calls_cons, Call.stateAfter, ih, after_call_rehearsed]
    simp

theorem map_outcome_run_rehearsed :
    (b.run Rehearsal.backend r).report.results.map (·.outcome) =
      (List.range (b.run Rehearsal.backend r).report.results.length).map
        (Rehearsed.outcomeAt r.answers) := by
  have hrecorded :=
    b.map_recorded_calls_rehearsed r ((b.runCalls Rehearsal.backend r).map Call.entry)
  rw [← runCalls_eq_calls, List.length_map] at hrecorded
  rw [results_run, List.map_map, List.length_map, ← hrecorded]
  simp [Function.comp_def, Call.result_eq]

/-- A run takes one answer for each result, and leaves the commands of its results. -/
theorem backend_run_rehearsed :
    (b.run Rehearsal.backend r).backend =
      { answers := r.answers.drop (b.run Rehearsal.backend r).report.results.length
        commands := r.commands ++ (b.run Rehearsal.backend r).report.results.map (·.command) } := by
  have hstate := b.stateAfter_calls_rehearsed r ((b.runCalls Rehearsal.backend r).map Call.entry)
  rw [← b.map_command_calls Rehearsal.backend r, ← runCalls_eq_calls, List.length_map] at hstate
  rw [run_backend, hstate, results_run, List.length_map, List.map_map]
  rfl

/-- The commands that came in before a run do not matter for its report. -/
theorem report_run_rehearsed :
    (b.run Rehearsal.backend r).report =
      (b.run Rehearsal.backend { answers := r.answers }).report := by
  have h := b.run_of_simulation Rehearsal.backend { answers := r.answers } Rehearsal.backend
    (fun q => { q with commands := r.commands ++ q.commands })
    fun q c => by simp [Rehearsal.backend]
  simpa using h.1

end Batch

namespace Series

/-- What holds of batches that were run with these answers prepared. -/
structure Faithful (answers : List Rehearsed) (x : Series Rehearsal) : Prop where
  outcomes : x.results.map (·.outcome) =
    (List.range x.results.length).map (Rehearsed.outcomeAt answers)
  commands : x.backend.commands = x.results.map (·.command)
  answers_left : x.backend.answers = answers.drop x.results.length

theorem faithful_initial (answers : List Rehearsed) :
    Faithful answers { backend := { answers := answers } } where
  outcomes := rfl
  commands := rfl
  answers_left := rfl

variable {answers : List Rehearsed} {x : Series Rehearsal}

/-- The step lemma: one more batch takes up the answers where the batches before it left them. -/
theorem Faithful.next (h : x.Faithful answers) (b : Batch) :
    (x.next Rehearsal.backend b).Faithful answers := by
  have hbackend := b.backend_run_rehearsed x.backend
  have houtcomes := b.map_outcome_run_rehearsed x.backend
  refine ⟨?_, ?_, ?_⟩
  · rw [results_next, List.map_append, h.outcomes, houtcomes, h.answers_left, List.length_append,
      List.range_add, List.map_append, List.map_map]
    simp [Rehearsed.outcomeAt_drop]
  · change (b.run Rehearsal.backend x.backend).backend.commands = _
    rw [hbackend, results_next, List.map_append, h.commands]
  · change (b.run Rehearsal.backend x.backend).backend.answers = _
    rw [hbackend, results_next, List.length_append, h.answers_left, List.drop_drop]

theorem Faithful.foldl_next (h : x.Faithful answers) (batches : List Batch) :
    (batches.foldl (Series.next Rehearsal.backend) x).Faithful answers := by
  induction batches generalizing x with
  | nil => exact h
  | cons b rest ih => exact ih (h.next b)

/-- Batches are run one after another with one queue of prepared answers. The commands that are
started, counted over all batches, meet the answers in order, and succeed once these are used up.
The backend has received the commands of the results, in order, and is left with the answers that no
command took. Each report is the one that a backend would give that has only the answers left at
that point, and knows of no batch before. -/
theorem run_rehearsed (answers : List Rehearsed) (batches : List Batch) :
    let x := run Rehearsal.backend { answers := answers } batches
    x.results.map (·.outcome) =
      (List.range x.results.length).map (Rehearsed.outcomeAt answers) ∧
    x.backend.commands = x.results.map (·.command) ∧
    x.backend.answers = answers.drop x.results.length ∧
    x.reports = batches.mapIdx fun n b =>
      let left := (run Rehearsal.backend { answers := answers } (batches.take n)).backend.answers
      (b.run Rehearsal.backend { answers := left }).report := by
  intro x
  have h := (faithful_initial answers).foldl_next batches
  refine ⟨h.outcomes, h.commands, h.answers_left, ?_⟩
  calc x.reports
      = batches.mapIdx fun n b => (b.run Rehearsal.backend
          (run Rehearsal.backend { answers := answers } (batches.take n)).backend).report :=
        reports_foldl Rehearsal.backend { backend := { answers := answers } } batches
    _ = _ := by
        congr
        funext n b
        exact b.report_run_rehearsed _

end Series

end ScriptBatch
