import ScriptBatch.Proofs.Coherence
import ScriptBatch.Proofs.Validity
import ScriptBatch.Rehearsal

/-!
# Batches in two parts

A batch can be cut between any two of its entries, and the parts are run one after the other with
one backend. As long as the first part does not halt this is the same as running the whole: a run
keeps nothing from one entry to the next but the state of the backend and the halt flag. Only the
positions of the entries have to be counted on, and a part that halts has to keep the other from
being run.
-/

namespace ScriptBatch

/-- The result of the same entry behind `n` others. -/
def Result.shift (n : Nat) (r : Result) : Result := { r with index := n + r.index }

namespace Call

variable {σ : Type} (n : Nat)

def shift (c : Call σ) : Call σ := { c with entry := (n + c.entry.1, c.entry.2) }

@[simp] theorem result_shift (c : Call σ) : (c.shift n).result = c.result.shift n := rfl

@[simp] theorem exchange_shift (c : Call σ) : (c.shift n).exchange = c.exchange := rfl

/-- Where an entry stands has no influence on whether the batch stops at it. -/
@[simp] theorem stopsAt_shift (b : Batch) (c : Call σ) : b.stopsAt (c.shift n) = b.stopsAt c := rfl

theorem stateAfter_map_shift (s : σ) (calls : List (Call σ)) :
    stateAfter s (calls.map (shift n)) = stateAfter s calls := by
  induction calls generalizing s with
  | nil => rfl
  | cons c rest ih => exact ih c.after

end Call

theorem enabledAmong_zipIdx (entries : List Invocation) (n : Nat) :
    enabledAmong (entries.zipIdx n) =
      (enabledAmong entries.zipIdx).map fun e => (n + e.1, e.2) := by
  rw [List.zipIdx_eq_map_add]
  simp [enabledAmong, List.filter_map, Function.comp_def]

namespace Batch

variable {σ : Type} (backend : Backend σ) (b : Batch) (s : σ)

/-- A call needs the settings of the batch and one entry, and no other entries. -/
theorem calls_withEntries (other : List Invocation) (entries : List (Nat × Invocation)) :
    (b.withEntries other).calls backend s entries = b.calls backend s entries := by
  induction entries generalizing s with
  | nil => rfl
  | cons entry rest ih =>
    rw [calls_cons, calls_cons, ih]
    rfl

@[simp] theorem stopsAt_withEntries (other : List Invocation) :
    (b.withEntries other).stopsAt (σ := σ) = b.stopsAt := rfl

theorem runCalls_withEntries (entries : List Invocation) :
    (b.withEntries entries).runCalls backend s =
      b.callsMade backend s (enabledAmong entries.zipIdx) := by
  rw [runCalls, callsMade, calls_withEntries]
  rfl

/-- Entries that stand further down lead to the same calls, further down. -/
theorem callsMade_shift (n : Nat) (entries : List (Nat × Invocation)) :
    b.callsMade backend s (entries.map fun e => (n + e.1, e.2)) =
      (b.callsMade backend s entries).map (Call.shift n) := by
  induction entries generalizing s with
  | nil => rfl
  | cons entry rest ih =>
    have hcall : b.call backend s (n + entry.1, entry.2) = (b.call backend s entry).shift n := rfl
    have hafter : ((b.call backend s entry).shift n).after = (b.call backend s entry).after := rfl
    rw [List.map_cons, callsMade_cons, callsMade_cons, hcall, hafter, ih, Call.stopsAt_shift]
    split <;> rfl

/-- The calls for entries in two parts: those for the first part, and if the batch has not stopped
there, those for the second part in the state that the first has left. -/
theorem runCalls_append (first rest : List Invocation) :
    (b.withEntries (first ++ rest)).runCalls backend s =
      let made := (b.withEntries first).runCalls backend s
      if made.any b.stopsAt then made
      else made ++ ((b.withEntries rest).runCalls backend (Call.stateAfter s made)).map
        (Call.shift first.length) := by
  simp only [runCalls_withEntries]
  rw [List.zipIdx_append, enabledAmong_append, callsMade_append, Nat.zero_add,
    enabledAmong_zipIdx rest, callsMade_shift]

theorem enabledCount_append (first rest : List Invocation) :
    (b.withEntries (first ++ rest)).enabledCount =
      (b.withEntries first).enabledCount + (b.withEntries rest).enabledCount := by
  simp only [enabledCount_eq_countP]
  exact List.countP_append

/-- A part that halts is all that is run. -/
theorem run_append_of_halted {first : List Invocation} (rest : List Invocation)
    (h : ((b.withEntries first).run backend s).report.halted = true) :
    let before := (b.withEntries first).run backend s
    let whole := (b.withEntries (first ++ rest)).run backend s
    whole.backend = before.backend ∧
      (b.withEntries (first ++ rest)).exchanges backend s =
        (b.withEntries first).exchanges backend s ∧
      whole.report =
        { results := before.report.results
          disabled := before.report.disabled + rest.countP (!·.enabled)
          notRun := before.report.notRun + (b.withEntries rest).enabledCount
          halted := true } := by
  have hstopped : ((b.withEntries first).runCalls backend s).any b.stopsAt = true := by
    simpa [run_report] using h
  have hcalls : (b.withEntries (first ++ rest)).runCalls backend s =
      (b.withEntries first).runCalls backend s := by
    rw [runCalls_append]
    exact if_pos hstopped
  have hle := (b.withEntries first).length_runCalls_le backend s
  refine ⟨by rw [run_backend, run_backend, hcalls], by rw [exchanges_eq, exchanges_eq, hcalls], ?_⟩
  rw [run_report, run_report, hcalls, enabledCount_append, Report.mk.injEq]
  exact ⟨rfl, List.countP_append, Nat.sub_add_comm hle, hstopped⟩

/-- A part that does not halt is followed by the other one, in the state that it has left. -/
theorem run_append_of_running {first : List Invocation} (rest : List Invocation)
    (h : ((b.withEntries first).run backend s).report.halted = false) :
    let before := (b.withEntries first).run backend s
    let after := (b.withEntries rest).run backend before.backend
    let whole := (b.withEntries (first ++ rest)).run backend s
    whole.backend = after.backend ∧
      (b.withEntries (first ++ rest)).exchanges backend s =
        (b.withEntries first).exchanges backend s ++
          (b.withEntries rest).exchanges backend before.backend ∧
      whole.report =
        { results := before.report.results ++ after.report.results.map (Result.shift first.length)
          disabled := before.report.disabled + after.report.disabled
          notRun := before.report.notRun + after.report.notRun
          halted := after.report.halted } := by
  have hrunning : ((b.withEntries first).runCalls backend s).any b.stopsAt = false := by
    rwa [run_report] at h
  have hbefore := run_backend backend (b.withEntries first) s
  dsimp only
  generalize ((b.withEntries first).run backend s).backend = t at hbefore ⊢
  have hcalls : (b.withEntries (first ++ rest)).runCalls backend s =
      (b.withEntries first).runCalls backend s ++
        ((b.withEntries rest).runCalls backend t).map (Call.shift first.length) := by
    rw [runCalls_append, hbefore]
    exact if_neg (by simp [hrunning])
  refine ⟨?_, ?_, ?_⟩
  · rw [run_backend, run_backend, hcalls, Call.stateAfter_append, Call.stateAfter_map_shift,
      ← hbefore]
  · simp [exchanges_eq, hcalls, Function.comp_def]
  · have hle := (b.withEntries first).length_runCalls_le backend s
    have hle' := (b.withEntries rest).length_runCalls_le backend t
    rw [run_report, run_report, run_report, hcalls, enabledCount_append, Report.mk.injEq]
    refine ⟨?_, List.countP_append, ?_, ?_⟩
    · simp [Function.comp_def]
    · simp only [List.length_append, List.length_map]
      omega
    · simp [hrunning, Function.comp_def]

end Batch

/-- A valid batch that is cut in two has valid parts, and is run like them, one after the other. If
the first part does not halt, the second follows in the state that the first has left: the results
are put together, the second ones further on by the length of the first part, the counters are
added up, and the batch halts if the second part does. If the first part halts, nothing more is
started, and the entries of the second part are only counted. -/
theorem ValidBatch.run_append {σ : Type} (backend : Backend σ) (b : ValidBatch)
    {first rest : List Invocation} (hentries : b.batch.invocations = first ++ rest)
    (hfirst : first ≠ []) (hrest : rest ≠ []) (s : σ) :
    let a := b.batch.withEntries first
    let c := b.batch.withEntries rest
    let before := a.run backend s
    let whole := b.batch.run backend s
    a.violation? = none ∧ c.violation? = none ∧
    (before.report.halted = false →
      let after := c.run backend before.backend
      whole.backend = after.backend ∧
      b.batch.exchanges backend s =
        a.exchanges backend s ++ c.exchanges backend before.backend ∧
      whole.report =
        { results := before.report.results ++ after.report.results.map (Result.shift first.length)
          disabled := before.report.disabled + after.report.disabled
          notRun := before.report.notRun + after.report.notRun
          halted := after.report.halted }) ∧
    (before.report.halted = true →
      whole.backend = before.backend ∧
      b.batch.exchanges backend s = a.exchanges backend s ∧
      whole.report =
        { results := before.report.results
          disabled := before.report.disabled + rest.countP (!·.enabled)
          notRun := before.report.notRun + c.enabledCount
          halted := true }) := by
  have hwhole : b.batch = b.batch.withEntries (first ++ rest) := by
    rw [← hentries]
    rfl
  have hvalid := Batch.violation?_eq_none_iff.mp b.valid
  have hfirstPart : first.Sublist b.batch.invocations :=
    hentries ▸ List.sublist_append_left first rest
  have hrestPart : rest.Sublist b.batch.invocations :=
    hentries ▸ List.sublist_append_right first rest
  refine ⟨Batch.violation?_eq_none_iff.mpr (hvalid.of_sublist hfirstPart hfirst),
    Batch.violation?_eq_none_iff.mpr (hvalid.of_sublist hrestPart hrest), ?_, ?_⟩
  · intro hrunning
    have h := b.batch.run_append_of_running backend s rest hrunning
    rwa [← hwhole] at h
  · intro hhalted
    have h := b.batch.run_append_of_halted backend s rest hhalted
    rwa [← hwhole] at h

/-- A batch that is cut right behind the entry that halts it, with disabled entries on both
sides. -/
theorem ValidBatch.run_append_of_cut_behind_failure :
    let first : List Invocation := [{ enabled := false }, { plot := true }]
    let rest : List Invocation := [{ enabled := false }, { name := some "tags", ignore := [.dll] }]
    let b : ValidBatch :=
      ⟨{ settings := { onFailure := .halt }, invocations := first ++ rest }, by decide⟩
    let s : Rehearsal := { answers := [.notStarted, .outcome .success] }
    let before := (b.batch.withEntries first).run Rehearsal.backend s
    b.batch.invocations = first ++ rest ∧ first ≠ [] ∧ rest ≠ [] ∧ before.report.halted = true ∧
      (b.batch.withEntries rest).violation? = none ∧
      (b.batch.run Rehearsal.backend s).backend = before.backend ∧
      (b.batch.run Rehearsal.backend s).report =
        { results := before.report.results, disabled := 2, notRun := 1, halted := true } := by
  intro first rest b s before
  have hentries : b.batch.invocations = first ++ rest := rfl
  have hfirst : first ≠ [] := by decide
  have hrest : rest ≠ [] := by decide
  have hhalted : before.report.halted = true := rfl
  obtain ⟨-, hvalid, -, hhalts⟩ := b.run_append Rehearsal.backend hentries hfirst hrest s
  obtain ⟨hbackend, -, hreport⟩ := hhalts hhalted
  exact ⟨hentries, hfirst, hrest, hhalted, hvalid, hbackend, hreport⟩

end ScriptBatch
