import ScriptBatch.Proofs.Refinement

/-!
# The counters of a run

After any number of entries, each of them has been started, was disabled, or was left out because
the batch had halted. A batch halts at its first failure, so a halted run has one failed result, the
last one. These facts hold together or not at all: whether an entry is started depends on the flag,
and the flag on the results.
-/

namespace ScriptBatch

theorem Batch.enabledCount_eq_countP (b : Batch) :
    b.enabledCount = b.invocations.countP (·.enabled) := by
  rw [List.countP_eq_length_filter, ← map_snd_enabled, List.length_map, enabledCount]

theorem Batch.length_eq_enabledCount_add (b : Batch) :
    b.invocations.length = b.enabledCount + b.invocations.countP (!·.enabled) := by
  have h := List.length_eq_countP_add_countP (fun i : Invocation => i.enabled) (l := b.invocations)
  simpa [enabledCount_eq_countP] using h

/-- Among the first entries there are no more enabled ones than in the whole batch. -/
theorem Batch.le_enabledCount_add (b : Batch) {k : Nat} (hk : k ≤ b.invocations.length) :
    k ≤ b.enabledCount + (b.invocations.take k).countP (!·.enabled) := by
  have hsplit := List.length_eq_countP_add_countP (fun i : Invocation => i.enabled)
    (l := b.invocations.take k)
  have hle := (List.take_sublist k b.invocations).countP_le (p := fun i : Invocation => i.enabled)
  rw [enabledCount_eq_countP]
  simp [hk] at hsplit
  simp
  omega

namespace Run

variable {σ : Type}

/-- What holds of a run after the first `k` entries of a batch, whatever the backend does. -/
structure Coherent (b : Batch) (k : Nat) (r : Run σ) : Prop where
  accounted : r.report.results.length + r.report.disabled + r.report.notRun = k
  disabled_eq : r.report.disabled = (b.invocations.take k).countP (!·.enabled)
  position_eq : r.position = r.report.results.length
  halted_iff : r.report.halted = true ↔
    b.settings.onFailure = .halt ∧ ∃ x ∈ r.report.results, x.outcome.isFailed = true
  /-- A halted run has exactly one failed result, and it is the last one. -/
  failed_eq_last : r.report.halted = true →
    ∃ x, r.report.results.getLast? = some x ∧ r.report.failed = [x]
  halted_of_notRun : 0 < r.report.notRun → r.report.halted = true

variable {b : Batch}

theorem coherent_initial (s : σ) : (initial b s).Coherent b 0 where
  accounted := rfl
  disabled_eq := rfl
  position_eq := rfl
  halted_iff := by simp [initial]
  failed_eq_last := by simp [initial]
  halted_of_notRun := by simp [initial]

namespace Coherent

variable {k : Nat} {r : Run σ}

/-- The number that is told for an entry never exceeds the number of enabled entries that is told
with it. -/
theorem position_le (h : r.Coherent b k) (hk : k ≤ b.invocations.length) :
    r.position ≤ b.enabledCount := by
  have hcount := b.le_enabledCount_add hk
  have haccounted := h.accounted
  have hdisabled := h.disabled_eq
  have hposition := h.position_eq
  omega

/-- As long as a batch that halts on failures has not halted, nothing has failed. -/
theorem failed_eq_nil (h : r.Coherent b k) (hr : r.report.halted = false)
    (hmode : b.settings.onFailure = .halt) : r.report.failed = [] := by
  rw [Report.failed, List.filter_eq_nil_iff]
  intro x hx hfailed
  have hhalted := h.halted_iff.mpr ⟨hmode, x, hx, hfailed⟩
  simp [hr] at hhalted

/-- Without a failure nothing is left out. -/
theorem notRun_eq_zero (h : r.Coherent b k) (hfailed : r.report.failedCount = 0) :
    r.report.notRun = 0 := by
  rcases Nat.eq_zero_or_pos r.report.notRun with hzero | hpos
  · exact hzero
  · obtain ⟨x, _, hx⟩ := h.failed_eq_last (h.halted_of_notRun hpos)
    simp [Report.failedCount, hx] at hfailed

/-- A batch that goes on after failures leaves nothing out. -/
theorem notRun_eq_zero_of_proceed (h : r.Coherent b k)
    (hmode : b.settings.onFailure = .proceed) : r.report.notRun = 0 := by
  rcases Nat.eq_zero_or_pos r.report.notRun with hzero | hpos
  · exact hzero
  · have hhalt := (h.halted_iff.mp (h.halted_of_notRun hpos)).1
    simp [hmode] at hhalt

/-- A batch that halts on failures fails at most once. -/
theorem failedCount_eq_one (h : r.Coherent b k) (hmode : b.settings.onFailure = .halt)
    (hfailed : r.report.failedCount ≠ 0) : r.report.failedCount = 1 := by
  have hne : r.report.failed ≠ [] := fun hnil => hfailed (by simp [Report.failedCount, hnil])
  obtain ⟨x, hx⟩ := List.exists_mem_of_ne_nil _ hne
  obtain ⟨hmem, hxfailed⟩ := List.mem_filter.mp hx
  obtain ⟨y, _, hy⟩ := h.failed_eq_last (h.halted_iff.mpr ⟨hmode, x, hmem, hxfailed⟩)
  simp [Report.failedCount, hy]

/-- One more entry is disabled, or none. -/
theorem countP_take_succ {i : Invocation} (hi : b.invocations[k]? = some i) :
    (b.invocations.take (k + 1)).countP (!·.enabled) =
      (b.invocations.take k).countP (!·.enabled) + if i.enabled then 0 else 1 := by
  rw [List.take_add_one, hi, List.countP_append]
  cases h : i.enabled <;> simp [h]

theorem step_of_disabled (h : r.Coherent b k) (backend : Backend σ) {i : Invocation}
    (hi : b.invocations[k]? = some i) (hdisabled : i.enabled = false) :
    (r.step backend b (i, k)).Coherent b (k + 1) := by
  rw [Run.step_of_disabled backend b r hdisabled]
  refine ⟨?_, ?_, h.position_eq, h.halted_iff, h.failed_eq_last, h.halted_of_notRun⟩
  · have haccounted := h.accounted
    simp only
    omega
  · rw [countP_take_succ hi, ← h.disabled_eq, hdisabled]
    rfl

/-- An enabled entry of a halted run is counted as left out; the failure that halted the run stays
its last result. -/
theorem step_of_halted (h : r.Coherent b k) (backend : Backend σ) {i : Invocation}
    (hi : b.invocations[k]? = some i) (henabled : i.enabled = true)
    (hr : r.report.halted = true) : (r.step backend b (i, k)).Coherent b (k + 1) := by
  rw [Run.step_of_halted backend b henabled hr]
  refine ⟨?_, ?_, h.position_eq, h.halted_iff, h.failed_eq_last, fun _ => hr⟩
  · have haccounted := h.accounted
    simp only
    omega
  · rw [countP_take_succ hi, ← h.disabled_eq, henabled]
    rfl

/-- An enabled entry of a running batch adds one result, and halts the run if that is a failure
and failures halt. -/
theorem step_of_running (h : r.Coherent b k) (backend : Backend σ) {i : Invocation}
    (hi : b.invocations[k]? = some i) (henabled : i.enabled = true)
    (hr : r.report.halted = false) : (r.step backend b (i, k)).Coherent b (k + 1) := by
  rw [Run.step_of_running backend b henabled hr]
  generalize b.call backend r.backend (k, i) = c
  refine ⟨?_, ?_, ?_, ?_, ?_, ?_⟩
  · have haccounted := h.accounted
    simp only [List.length_append, List.length_singleton]
    omega
  · rw [countP_take_succ hi, ← h.disabled_eq, henabled]
    rfl
  · simp [h.position_eq]
  · constructor
    · intro hstop
      obtain ⟨hfailed, hmode⟩ := b.stopsAt_iff.mp hstop
      exact ⟨hmode, c.result, by simp, by rwa [c.isFailed_outcome_result]⟩
    · rintro ⟨hmode, x, hx, hfailed⟩
      -- the results so far have no failure, or the batch would have halted before
      rcases List.mem_append.mp hx with hx | hx
      · have hhalted := h.halted_iff.mpr ⟨hmode, x, hx, hfailed⟩
        simp [hr] at hhalted
      · obtain rfl : x = c.result := by simpa using hx
        exact b.stopsAt_iff.mpr ⟨by rwa [← c.isFailed_outcome_result], hmode⟩
  · intro hstop
    obtain ⟨hfailed, hmode⟩ := b.stopsAt_iff.mp hstop
    have hbefore := h.failed_eq_nil hr hmode
    refine ⟨c.result, by simp, ?_⟩
    simp only [Report.failed, List.filter_append] at hbefore ⊢
    simp [hbefore, hfailed]
  · intro hnotRun
    have hhalted := h.halted_of_notRun hnotRun
    simp [hr] at hhalted

/-- What holds after some entries holds after one more. -/
theorem step (h : r.Coherent b k) (backend : Backend σ) {i : Invocation}
    (hi : b.invocations[k]? = some i) : (r.step backend b (i, k)).Coherent b (k + 1) := by
  cases henabled : i.enabled with
  | false => exact h.step_of_disabled backend hi henabled
  | true =>
    cases hr : r.report.halted with
    | true => exact h.step_of_halted backend hi henabled hr
    | false => exact h.step_of_running backend hi henabled hr

end Coherent

theorem afterEntries_succ (backend : Backend σ) (s : σ) {k : Nat} {i : Invocation}
    (hi : b.invocations[k]? = some i) :
    afterEntries backend b s (k + 1) = (afterEntries backend b s k).step backend b (i, k) := by
  have hentry : b.invocations.zipIdx[k]? = some (i, k) := by simp [List.getElem?_zipIdx, hi]
  simp [afterEntries, List.take_add_one, hentry]

/-- Coherence holds from the first entry to the last, by induction on the number of entries. -/
theorem coherent_afterEntries (backend : Backend σ) (s : σ) {k : Nat}
    (hk : k ≤ b.invocations.length) : (afterEntries backend b s k).Coherent b k := by
  induction k with
  | zero => exact coherent_initial s
  | succ k ih =>
    have hi : b.invocations[k]? = some (b.invocations[k]) := List.getElem?_eq_getElem hk
    rw [afterEntries_succ backend s hi]
    exact (ih (Nat.le_of_lt hk)).step backend hi

end Run

namespace Batch

variable {σ : Type} (backend : Backend σ) (b : Batch) (s : σ)

theorem coherent_run : (b.run backend s).Coherent b b.invocations.length := by
  rw [run_eq_finish_afterEntries]
  obtain ⟨h₁, h₂, h₃, h₄, h₅, h₆⟩ := Run.coherent_afterEntries backend (b := b) s (Nat.le_refl _)
  exact ⟨h₁, h₂, h₃, h₄, h₅, h₆⟩

/-- Every enabled entry was started or left out. -/
theorem results_add_notRun :
    (b.run backend s).report.results.length + (b.run backend s).report.notRun =
      b.enabledCount := by
  have h := b.coherent_run backend s
  have haccounted := h.accounted
  have hdisabled := h.disabled_eq
  have hlength := b.length_eq_enabledCount_add
  rw [List.take_length] at hdisabled
  omega

end Batch

/-- A result is either a success or a failure. -/
theorem Report.succeededCount_add_failedCount (r : Report) :
    r.succeededCount + r.failedCount = r.results.length :=
  Nat.sub_add_cancel r.failedCount_le_length

/-- The counters of a run, after any number of entries and at the end. -/
theorem Batch.run_accounts_for_entries {σ : Type} (backend : Backend σ) (b : Batch) (s : σ) :
    (∀ k ≤ b.invocations.length,
      (Run.afterEntries backend b s k).Coherent b k ∧
      (Run.afterEntries backend b s k).position ≤ b.enabledCount) ∧
    let report := (b.run backend s).report
    report.results.length + report.notRun = b.enabledCount ∧
      report.succeededCount + report.failedCount + report.notRun + report.disabled =
        b.invocations.length ∧
      report.failedCount ≤ report.results.length := by
  refine ⟨?_, b.results_add_notRun backend s, ?_, Report.failedCount_le_length _⟩
  · intro k hk
    have h := Run.coherent_afterEntries backend (b := b) s hk
    exact ⟨h, h.position_le hk⟩
  · have haccounted := (b.coherent_run backend s).accounted
    rw [Report.succeededCount_add_failedCount]
    omega

end ScriptBatch
