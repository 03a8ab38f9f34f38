import ScriptBatch.Proofs.Noninterference
import ScriptBatch.Proofs.Validity

/-!
# Entries in another order

The entries of a batch are independent of each other. If the backend answers a command without
regard to what it was asked before, the outcome of an entry is a matter of that entry alone, and a
batch that goes on after failures has the same results in any order. A batch that halts depends on
its order, which decides what is still started. Whether it succeeds does not: that is a question
about every enabled entry.
-/

namespace ScriptBatch

/-- The answer to a command does not depend on the state, and so not on the commands before. -/
def Backend.Stateless {σ : Type} (backend : Backend σ) : Prop :=
  ∀ (s t : σ) (c : Command), (backend s c).2 = (backend t c).2

/-- The result without the place of its entry in the batch. -/
def Result.unplaced (r : Result) : Result := { r with index := 0 }

theorem Report.failedCount_eq_countP (r : Report) :
    r.failedCount = (r.results.map Result.unplaced).countP (·.outcome.isFailed) := by
  rw [failedCount, failed, ← List.countP_eq_length_filter, List.countP_map]
  rfl

namespace Batch

variable {σ : Type} (backend : Backend σ) (b : Batch) (s : σ)

/-- What comes of an entry that is started in this state. -/
def resultOf (i : Invocation) : Result := (b.call backend s (0, i)).result

variable {backend}

/-- Without regard to the state, each call gives what the entry would give in any state. -/
theorem map_unplaced_calls (h : backend.Stateless) (t : σ) (entries : List (Nat × Invocation)) :
    (b.calls backend t entries).map (fun c => c.result.unplaced) =
      (entries.map Prod.snd).map (b.resultOf backend s) := by
  induction entries generalizing t with
  | nil => rfl
  | cons entry rest ih =>
    have hcall : (b.call backend t entry).result.unplaced = b.resultOf backend s entry.2 := by
      simp only [resultOf, call, Call.result, Result.unplaced]
      rw [h t s]
    rw [calls_cons, List.map_cons, List.map_cons, List.map_cons, hcall, ih]

/-- The results of a batch that goes on after failures. -/
theorem map_unplaced_results (h : backend.Stateless) (hmode : b.settings.onFailure = .proceed)
    (t : σ) :
    (b.run backend t).report.results.map Result.unplaced =
      (b.invocations.filter (·.enabled)).map (b.resultOf backend s) := by
  rw [results_run, b.runCalls_of_proceed backend t hmode, List.map_map, ← map_snd_enabled,
    ← b.map_unplaced_calls s h t]
  rfl

/-- The verdict asks about each enabled entry, in either failure mode. -/
theorem verdict_run_eq_ok_iff_entries (h : backend.Stateless) (t : σ) :
    (b.run backend t).report.verdict = .ok () ↔
      ∀ i ∈ b.invocations, i.enabled = true →
        (b.resultOf backend s i).outcome.isFailed = false := by
  have hcalls : (∀ c ∈ b.calls backend t b.enabled, c.failed = false) ↔
      ∀ x ∈ (b.calls backend t b.enabled).map (fun c => c.result.unplaced),
        x.outcome.isFailed = false := by
    rw [List.forall_mem_map]
    simp only [Result.unplaced, Call.isFailed_outcome_result]
  rw [verdict_run_eq_ok_iff_calls, hcalls, b.map_unplaced_calls s h, map_snd_enabled,
    List.forall_mem_map]
  simp only [List.mem_filter, and_imp]

end Batch

/-- Entries are independent of each other. A valid batch stays valid in any order. With a backend
that answers without regard to its state, a batch that goes on after failures has the same results
in any order, but for their places, and the same counters and verdict. A batch that halts on
failures may have other results, but it succeeds in one order if and only if it does in
another. -/
theorem ValidBatch.run_perm {σ : Type} {backend : Backend σ} (hbackend : backend.Stateless)
    (b : ValidBatch) {entries : List Invocation} (hperm : entries.Perm b.batch.invocations)
    (s t : σ) :
    let reordered := b.batch.withEntries entries
    let report := (b.batch.run backend s).report
    let report' := (reordered.run backend t).report
    reordered.violation? = none ∧
    (b.batch.settings.onFailure = .proceed →
      (report'.results.map Result.unplaced).Perm (report.results.map Result.unplaced) ∧
      report'.disabled = report.disabled ∧
      report'.notRun = report.notRun ∧
      report'.failedCount = report.failedCount ∧
      report'.verdict = report.verdict) ∧
    (b.batch.settings.onFailure = .halt →
      (report'.verdict = .ok () ↔ report.verdict = .ok ())) := by
  intro reordered report report'
  have hvalid := Batch.violation?_eq_none_iff.mp b.valid
  refine ⟨Batch.violation?_eq_none_iff.mpr (hvalid.of_perm hperm), ?_, ?_⟩
  · intro hmode
    have hresults : (report'.results.map Result.unplaced).Perm
        (report.results.map Result.unplaced) := by
      have h := b.batch.map_unplaced_results s hbackend hmode s
      have h' := reordered.map_unplaced_results s hbackend hmode t
      rw [h, h']
      exact (hperm.filter _).map _
    have hdisabled : report'.disabled = report.disabled := by
      simp only [report, report', Batch.run_report]
      exact hperm.countP_eq _
    have hnotRun : report'.notRun = report.notRun := by
      rw [(reordered.coherent_run backend t).notRun_eq_zero_of_proceed hmode,
        (b.batch.coherent_run backend s).notRun_eq_zero_of_proceed hmode]
    have hfailed : report'.failedCount = report.failedCount := by
      rw [Report.failedCount_eq_countP, Report.failedCount_eq_countP]
      exact hresults.countP_eq _
    have hlength : report'.results.length = report.results.length := by
      simpa using hresults.length_eq
    exact ⟨hresults, hdisabled, hnotRun, hfailed,
      Report.verdict_eq_of_counts hfailed hlength hnotRun⟩
  · intro _
    simp only [report, report']
    rw [reordered.verdict_run_eq_ok_iff_entries s hbackend,
      b.batch.verdict_run_eq_ok_iff_entries s hbackend]
    constructor
    · exact fun h i hi => h i (hperm.mem_iff.mpr hi)
    · exact fun h i hi => h i (hperm.mem_iff.mp hi)

/-- A batch whose second entry fails, in its order and in the opposite one. Going on after failures
it has the same results. Halting, it leaves out what happens to stand behind the failure, so the
results are not the same, but it fails in both orders. -/
theorem ValidBatch.run_perm_of_reversed :
    let backend : Backend Nat := fun n c =>
      (n + 1, if "-a" ∈ c.args then .error (.notStarted c.program .prepared) else .ok .success)
    let b (mode : FailureMode) : ValidBatch :=
      ⟨{ settings := { onFailure := mode }
         invocations := [{ plot := true }, { aptStats := true }, { enabled := false }] },
        by cases mode <;> decide⟩
    let entries : List Invocation := [{ enabled := false }, { aptStats := true }, { plot := true }]
    let results (mode : FailureMode) :=
      ((b mode).batch.run backend 0).report.results.map Result.unplaced
    let results' (mode : FailureMode) :=
      (((b mode).batch.withEntries entries).run backend 5).report.results.map Result.unplaced
    backend.Stateless ∧ entries.Perm (b .proceed).batch.invocations ∧
      (results' .proceed).Perm (results .proceed) ∧ ¬ (results' .halt).Perm (results .halt) ∧
      ((((b .halt).batch.withEntries entries).run backend 5).report.verdict = .ok () ↔
        ((b .halt).batch.run backend 0).report.verdict = .ok ()) := by
  intro backend b entries results results'
  have hbackend : backend.Stateless := fun _ _ _ => rfl
  have hperm (mode : FailureMode) : entries.Perm (b mode).batch.invocations := by
    cases mode <;> decide
  obtain ⟨-, hproceed, -⟩ := (b .proceed).run_perm hbackend (hperm .proceed) 0 5
  obtain ⟨-, -, hhalt⟩ := (b .halt).run_perm hbackend (hperm .halt) 0 5
  exact ⟨hbackend, hperm .proceed, (hproceed rfl).1, by decide, hhalt rfl⟩

end ScriptBatch
