import ScriptBatch.Proofs.Verdict

/-!
# Halting and going on

Two runs of one batch from one state of the backend, one that halts at the first failure and one
that goes on. They make the same calls until something fails. From there on only one of them still
calls its backend, so the other is cut short, but the verdict is settled.
-/

namespace ScriptBatch

def Batch.withMode (b : Batch) (mode : FailureMode) : Batch :=
  { b with settings := { b.settings with onFailure := mode } }

theorem Batch.violation?_withMode (b : Batch) (mode : FailureMode) :
    (b.withMode mode).violation? = b.violation? := rfl

def ValidBatch.withMode (b : ValidBatch) (mode : FailureMode) : ValidBatch :=
  ⟨b.batch.withMode mode, b.batch.violation?_withMode mode ▸ b.valid⟩

namespace Batch

variable {σ : Type} (backend : Backend σ) (b : Batch) (s : σ)

/-- The failure mode has no part in a call. -/
theorem calls_withMode (mode : FailureMode) (entries : List (Nat × Invocation)) :
    (b.withMode mode).calls backend s entries = b.calls backend s entries := by
  induction entries generalizing s with
  | nil => rfl
  | cons entry rest ih =>
    rw [calls_cons, calls_cons, ih]
    rfl

theorem runCalls_proceed :
    (b.withMode .proceed).runCalls backend s = b.calls backend s b.enabled := by
  rw [(b.withMode .proceed).runCalls_of_proceed backend s rfl, calls_withMode]
  rfl

/-- Stopping at failures starts the same entries in the same states, up to the first that fails.
-/
theorem runCalls_halt :
    (b.withMode .halt).runCalls backend s = cutAfter Call.failed (b.calls backend s b.enabled) := by
  rw [(b.withMode .halt).runCalls_of_halt backend s rfl, calls_withMode]
  rfl

/-- A batch succeeds in one mode exactly if it does in the other: it takes a failure to make a
difference. -/
theorem verdict_run_withMode (mode : FailureMode) :
    ((b.withMode mode).run backend s).report.verdict = .ok () ↔
      (b.run backend s).report.verdict = .ok () := by
  rw [verdict_run_eq_ok_iff_calls, verdict_run_eq_ok_iff_calls, calls_withMode]
  rfl

/-- The results of a batch that halts are the first ones of the batch that goes on, up to a
failure. -/
theorem results_halt :
    ((b.withMode .halt).run backend s).report.results =
      cutAfter (·.outcome.isFailed) ((b.withMode .proceed).run backend s).report.results := by
  rw [results_run, results_run, runCalls_halt, runCalls_proceed, cutAfter_map]
  simp only [Call.isFailed_outcome_result]

theorem exchanges_halt :
    (b.withMode .halt).exchanges backend s <+: (b.withMode .proceed).exchanges backend s := by
  rw [exchanges_eq, exchanges_eq, runCalls_halt, runCalls_proceed]
  exact (prefix_cutAfter Call.failed _).map Call.exchange

/-- What a batch that halts leaves out is what is cut off its results. -/
theorem notRun_halt :
    ∃ cut,
      ((b.withMode .proceed).run backend s).report.results =
        ((b.withMode .halt).run backend s).report.results ++ cut ∧
      ((b.withMode .halt).run backend s).report.notRun = cut.length := by
  have hcut := prefix_cutAfter (·.outcome.isFailed)
    ((b.withMode .proceed).run backend s).report.results
  rw [← results_halt] at hcut
  obtain ⟨cut, hcut⟩ := hcut
  refine ⟨cut, hcut.symm, ?_⟩
  have hhalt := (b.withMode .halt).results_add_notRun backend s
  have hproceed := (b.withMode .proceed).results_add_notRun backend s
  have hnone := ((b.withMode .proceed).coherent_run backend s).notRun_eq_zero_of_proceed rfl
  have hlength := congrArg List.length hcut
  have hcount : (b.withMode .halt).enabledCount = (b.withMode .proceed).enabledCount := rfl
  rw [List.length_append] at hlength
  omega

end Batch

theorem Batch.checked_withMode (b : Batch) (mode : FailureMode) :
    (b.withMode mode).checked = b.checked.map (·.withMode mode) := by
  cases h : b.violation? with
  | some v =>
    have hmode : (b.withMode mode).violation? = some v := h
    rw [checked, checked, validate_of_violation h, validate_of_violation hmode]
    rfl
  | none =>
    let valid : ValidBatch := ⟨b, h⟩
    have hb : b.validate = .ok valid := valid.validate_batch
    have hmode : (b.withMode mode).validate = .ok (valid.withMode mode) :=
      (valid.withMode mode).validate_batch
    rw [checked, checked, hb, hmode]
    rfl

/-- Failing fast changes the failure mode of the batch that is run, and nothing else. -/
theorem Batch.resolve_failFast (read : FileReader) (o : Options) :
    resolve read { o with failFast := true } =
      (resolve read { o with failFast := false }).map (·.withMode .halt) := by
  have hload : loadFor read { o with failFast := true } =
      loadFor read { o with failFast := false } := rfl
  have hoverride (b : Batch) : b.override { o with failFast := true } =
      (b.override { o with failFast := false }).withMode .halt := rfl
  unfold resolve
  rw [hload]
  cases loadFor read { o with failFast := false } with
  | error e => rfl
  | ok b =>
    change (b.override { o with failFast := true }).checked =
      ((b.override { o with failFast := false }).checked).map (·.withMode .halt)
    rw [hoverride, checked_withMode]

/-- Failing fast does not decide whether the command line is followed with success. -/
theorem perform_failFast {σ : Type} (read : FileReader) (backend : Backend σ) (o : Options)
    (s : σ) :
    (perform read backend { o with failFast := true } s).result = .ok () ↔
      (perform read backend { o with failFast := false } s).result = .ok () := by
  have hfast := Batch.resolve_failFast read o
  cases hslow : Batch.resolve read { o with failFast := false } with
  | error e =>
    rw [hslow] at hfast
    rw [(perform_of_error backend s hfast).1, (perform_of_error backend s hslow).1]
  | ok b =>
    rw [hslow] at hfast
    rcases Bool.eq_false_or_eq_true o.dryRun with hdry | hdry
    · rw [(perform_of_dryRun backend s hfast hdry).1, (perform_of_dryRun backend s hslow hdry).1]
    · rw [(perform_of_run backend s hfast hdry).1, (perform_of_run backend s hslow hdry).1]
      exact b.batch.verdict_run_withMode backend s .halt

/-- A batch that halts on failures has the results of one that goes on, cut after the first failure.
Its backend receives the first of the same commands, it leaves out what was cut off, and it succeeds
if and only if the other does. So failing fast never decides whether a batch succeeds. -/
theorem failFast_cuts_run {σ : Type} (backend : Backend σ) (b : Batch) (s : σ) :
    let halting := (b.withMode .halt).run backend s
    let proceeding := (b.withMode .proceed).run backend s
    halting.report.results = cutAfter (·.outcome.isFailed) proceeding.report.results ∧
    (b.withMode .halt).exchanges backend s <+: (b.withMode .proceed).exchanges backend s ∧
    halting.report.disabled = proceeding.report.disabled ∧
    (∃ cut, proceeding.report.results = halting.report.results ++ cut ∧
      halting.report.notRun = cut.length) ∧
    (halting.report.verdict = .ok () ↔ proceeding.report.verdict = .ok ()) ∧
    ∀ (read : FileReader) (o : Options),
      (perform read backend { o with failFast := true } s).result = .ok () ↔
        (perform read backend { o with failFast := false } s).result = .ok () := by
  refine ⟨b.results_halt backend s, b.exchanges_halt backend s, ?_, b.notRun_halt backend s, ?_,
    fun read o => perform_failFast read backend o s⟩
  · rw [Batch.run_report, Batch.run_report]
    rfl
  · rw [Batch.verdict_run_withMode, Batch.verdict_run_withMode]

end ScriptBatch
