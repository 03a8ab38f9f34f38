import ScriptBatch.Program
import ScriptBatch.Proofs.Coherence

/-!
# The verdict on a batch

A batch succeeds if all its enabled entries do. The verdict is taken from the counters of the
report, and says what it should because these come from a run: nothing is left out unless something
has failed, and a batch that halts has failed once.
-/

namespace ScriptBatch

/-- How many of these commands failed or could not be started. -/
def failures (exchanges : List (Command × Except Error Outcome)) : Nat :=
  exchanges.countP fun x => isFailure x.2

/-- The verdict looks at two numbers of the report, and at neither of the others. -/
theorem Report.verdict_eq_ok_iff {r : Report} :
    r.verdict = .ok () ↔ r.failedCount = 0 ∧ r.notRun = 0 := by
  unfold verdict
  split <;> simp_all [isSuccess]

namespace Batch

variable {σ : Type} (backend : Backend σ) (b : Batch) (s : σ)

theorem failedCount_run :
    (b.run backend s).report.failedCount = failures (b.exchanges backend s) := by
  rw [Report.failedCount, Report.failed, run_report, exchanges_eq, failures, List.countP_map,
    ← List.countP_eq_length_filter, List.countP_map]
  simp [Function.comp_def, Call.exchange, Call.failed]

/-- Entries are left out only after a failure, so failures alone decide. -/
theorem verdict_run_eq_ok_iff :
    (b.run backend s).report.verdict = .ok () ↔ failures (b.exchanges backend s) = 0 := by
  rw [Report.verdict_eq_ok_iff, ← failedCount_run]
  exact ⟨And.left, fun h => ⟨h, (b.coherent_run backend s).notRun_eq_zero h⟩⟩

theorem failures_exchanges_eq_zero_iff_runCalls :
    failures (b.exchanges backend s) = 0 ↔ ∀ c ∈ b.runCalls backend s, c.failed = false := by
  rw [failures, exchanges_eq, List.countP_map, List.countP_eq_zero]
  simp [Call.exchange, Call.failed]

/-- The verdict depends on the failures among all calls, also those that a batch that halts does not
make. -/
theorem verdict_run_eq_ok_iff_calls :
    (b.run backend s).report.verdict = .ok () ↔
      ∀ c ∈ b.calls backend s b.enabled, c.failed = false := by
  rw [verdict_run_eq_ok_iff, failures_exchanges_eq_zero_iff_runCalls]
  constructor
  · intro h
    rwa [runCalls, b.callsMade_eq_calls backend h] at h
  · intro h c hc
    exact h c ((b.runCalls_prefix_calls backend s).subset hc)

/-- Without a failure, every enabled entry is started and succeeds. -/
theorem failures_exchanges_eq_zero_iff :
    failures (b.exchanges backend s) = 0 ↔
      b.exchanges backend s = b.enabled.map fun e => (b.commandFor e.2, .ok .success) := by
  constructor
  · intro h
    have hmade := (b.failures_exchanges_eq_zero_iff_runCalls backend s).mp h
    have hanswers : ∀ c ∈ b.runCalls backend s, c.exchange = (c.command, .ok .success) := by
      intro c hc
      rw [Call.exchange, isFailure_eq_false_iff.mp (hmade c hc)]
    calc b.exchanges backend s
        = (b.runCalls backend s).map fun c => (c.command, .ok .success) := by
          rw [exchanges_eq]
          exact List.map_congr_left hanswers
      _ = ((b.calls backend s b.enabled).map Call.command).map fun c => (c, .ok .success) := by
          rw [runCalls, b.callsMade_eq_calls backend hmade, List.map_map]
          rfl
      _ = b.enabled.map fun e => (b.commandFor e.2, .ok .success) := by
          rw [map_command_calls, List.map_map]
          rfl
  · intro h
    simp [h, failures, isFailure]

/-- What the error says about a run that did not succeed: something failed, and only a batch that
halts on failures, which has then failed once, leaves something out. -/
theorem verdict_run_of_failures (h : failures (b.exchanges backend s) ≠ 0) :
    ∃ notRun,
      (b.run backend s).report.verdict =
        .error (.incomplete (failures (b.exchanges backend s)) b.enabledCount notRun) ∧
      failures (b.exchanges backend s) + notRun ≤ b.enabledCount ∧
      (b.settings.onFailure = .proceed → notRun = 0) ∧
      (b.settings.onFailure = .halt → failures (b.exchanges backend s) = 1) := by
  have hcoherent := b.coherent_run backend s
  have htotal := b.results_add_notRun backend s
  have hle := (b.run backend s).report.failedCount_le_length
  rw [← failedCount_run] at h ⊢
  refine ⟨(b.run backend s).report.notRun, ?_, by omega, hcoherent.notRun_eq_zero_of_proceed,
    fun hmode => hcoherent.failedCount_eq_one hmode h⟩
  rw [← htotal, Report.verdict, if_neg]
  simp [Report.isSuccess, h]

end Batch

/-- What passes between the batch and its backend while a command line is followed. -/
def performedExchanges {σ : Type} (read : FileReader) (backend : Backend σ) (o : Options) (s : σ) :
    List (Command × Except Error Outcome) :=
  (perform read backend.observed o (s, [])).backend.2

section Perform

variable {σ : Type} {read : FileReader} {o : Options}

/-- Where no batch can be resolved, the error is the result and the backend is left alone. -/
theorem perform_of_error (backend : Backend σ) (s : σ) {e : Error}
    (h : Batch.resolve read o = .error e) :
    (perform read backend o s).result = .error e ∧ performedExchanges read backend o s = [] := by
  simp [perform, performedExchanges, h]

/-- A dry run succeeds whenever there is a batch, and runs nothing of it. -/
theorem perform_of_dryRun (backend : Backend σ) (s : σ) {b : ValidBatch}
    (h : Batch.resolve read o = .ok b) (hdry : o.dryRun = true) :
    (perform read backend o s).result = .ok () ∧ performedExchanges read backend o s = [] := by
  simp [perform, performedExchanges, h, hdry]

theorem perform_of_run (backend : Backend σ) (s : σ) {b : ValidBatch}
    (h : Batch.resolve read o = .ok b) (hdry : o.dryRun = false) :
    (perform read backend o s).result = (b.batch.run backend s).report.verdict ∧
      performedExchanges read backend o s = b.batch.exchanges backend s := by
  simp [perform, performedExchanges, h, hdry, Batch.exchanges]

theorem perform_observed (backend : Backend σ) (s : σ) :
    (perform read backend.observed o (s, [])).result = (perform read backend o s).result := by
  cases hresolve : Batch.resolve read o with
  | error e => rw [(perform_of_error _ _ hresolve).1, (perform_of_error _ _ hresolve).1]
  | ok b =>
    cases hdry : o.dryRun with
    | true =>
      rw [(perform_of_dryRun _ _ hresolve hdry).1, (perform_of_dryRun _ _ hresolve hdry).1]
    | false =>
      rw [(perform_of_run _ _ hresolve hdry).1, (perform_of_run _ _ hresolve hdry).1,
        (b.batch.run_observed backend s).1]

end Perform

/-- The result of following a command line, which observation does not change. It is good exactly if
there is a batch, and that is only to be shown or all its enabled entries are started and succeed.
Without a batch the error says why, and nothing is started, as in a dry run. In all other cases the
error counts what failed and what was left out. -/
theorem perform_result {σ : Type} (read : FileReader) (backend : Backend σ) (o : Options) (s : σ) :
    let result := (perform read backend o s).result
    let exchanges := performedExchanges read backend o s
    (perform read backend.observed o (s, [])).result = result ∧
    (result = .ok () ↔ ∃ b, Batch.resolve read o = .ok b ∧
      (o.dryRun = true ∨
        exchanges = b.batch.enabled.map fun e => (b.batch.commandFor e.2, .ok .success))) ∧
    (∀ e, Batch.resolve read o = .error e → result = .error e ∧ exchanges = []) ∧
    (o.dryRun = true → exchanges = []) ∧
    (∀ b, Batch.resolve read o = .ok b → result ≠ .ok () →
      ∃ notRun,
        result = .error (.incomplete (failures exchanges) b.batch.enabledCount notRun) ∧
        1 ≤ failures exchanges ∧ failures exchanges + notRun ≤ b.batch.enabledCount ∧
        (b.batch.settings.onFailure = .proceed → notRun = 0) ∧
        (b.batch.settings.onFailure = .halt → failures exchanges = 1)) := by
  intro result exchanges
  refine ⟨perform_observed backend s, ?_⟩
  cases hresolve : Batch.resolve read o with
  | error e =>
    obtain ⟨hresult, hexchanges⟩ := perform_of_error backend s hresolve
    simp [result, exchanges, hresult, hexchanges]
  | ok b =>
    cases hdry : o.dryRun with
    | true =>
      obtain ⟨hresult, hexchanges⟩ := perform_of_dryRun backend s hresolve hdry
      simp [result, exchanges, hresult, hexchanges]
    | false =>
      obtain ⟨hresult, hexchanges⟩ := perform_of_run backend s hresolve hdry
      have hok : result = .ok () ↔ failures exchanges = 0 := by
        simp only [result, exchanges, hresult, hexchanges]
        exact b.batch.verdict_run_eq_ok_iff backend s
      refine ⟨?_, by simp, by simp, ?_⟩
      · simp [hok, exchanges, hexchanges, Batch.failures_exchanges_eq_zero_iff]
      · intro b' hb hne
        obtain rfl : b = b' := by simpa using hb
        have hfailures := mt hok.mpr hne
        simp only [result, exchanges, hresult, hexchanges] at hfailures ⊢
        obtain ⟨notRun, hverdict, hle, hproceed, hhalt⟩ :=
          b.batch.verdict_run_of_failures backend s hfailures
        exact ⟨notRun, hverdict, by omega, hle, hproceed, hhalt⟩

end ScriptBatch
