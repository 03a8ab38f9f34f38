import ScriptBatch.Proofs.Flags
import ScriptBatch.Proofs.Verdict
import ScriptBatch.Rehearsal

/-!
# What a run does not see

Names and disabled entries have no part in what is executed. Two batches may differ in length, and
their runs then do not pass over the entries together. But what a call does depends on its command
alone, and the commands are those of the flags of the enabled entries.
-/

namespace ScriptBatch

/-- The verdict looks at the numbers in a report alone. -/
theorem Report.verdict_eq_of_counts {r r' : Report} (hfailed : r.failedCount = r'.failedCount)
    (hlength : r.results.length = r'.results.length) (hnotRun : r.notRun = r'.notRun) :
    r.verdict = r'.verdict := by
  unfold verdict isSuccess
  rw [hfailed, hlength, hnotRun]

namespace Call

variable {σ : Type}

/-- What a call does, whichever entry it is made for. -/
def effect (c : Call σ) : Command × Except Error Outcome × σ := (c.command, c.answer, c.after)

theorem stateAfter_eq_foldl (s : σ) (calls : List (Call σ)) :
    stateAfter s calls = (calls.map effect).foldl (fun _ e => e.2.2) s := by
  induction calls generalizing s with
  | nil => rfl
  | cons c rest ih => exact ih c.after

end Call

namespace Batch

variable {σ : Type} (backend : Backend σ) (s : σ) {b b' : Batch}

def enabledFlags (b : Batch) : List Flags := b.enabled.map fun e => e.2.flags

@[simp] theorem length_enabledFlags (b : Batch) : b.enabledFlags.length = b.enabledCount :=
  List.length_map _

/-- Calls with the same commands, from the same state, do the same. -/
theorem map_effect_calls_congr {entries entries' : List (Nat × Invocation)}
    (h : entries.map (fun e => b.commandFor e.2) = entries'.map fun e => b'.commandFor e.2) :
    (b.calls backend s entries).map Call.effect =
      (b'.calls backend s entries').map Call.effect := by
  induction entries generalizing s entries' with
  | nil =>
    obtain rfl : entries' = [] := by simpa using h.symm
    rfl
  | cons entry rest ih =>
    cases entries' with
    | nil => simp at h
    | cons entry' rest' =>
      simp only [List.map_cons, List.cons.injEq] at h
      obtain ⟨hcommand, hrest⟩ := h
      have hcall : (b.call backend s entry).effect = (b'.call backend s entry').effect := by
        simp only [Call.effect, call, hcommand]
      have hafter : (b.call backend s entry).after = (b'.call backend s entry').after :=
        congrArg (·.2.2) hcall
      simp only [calls_cons, List.map_cons]
      rw [hcall, hafter, ih _ hrest]

/-- No entry is started after a call that does this. -/
def stopsAfter (b : Batch) (e : Command × Except Error Outcome × σ) : Bool :=
  isFailure e.2.1 && b.settings.onFailure == .halt

theorem stopsAfter_comp_effect (b : Batch) :
    (fun c : Call σ => b.stopsAfter c.effect) = b.stopsAt := rfl

/-- Effects can be cut like calls: whether a batch stops is seen from the effect of a call. -/
theorem map_effect_runCalls (b : Batch) :
    (b.runCalls backend s).map Call.effect =
      cutAfter b.stopsAfter ((b.calls backend s b.enabled).map Call.effect) := by
  rw [cutAfter_map, stopsAfter_comp_effect]
  rfl

theorem stopsAfter_congr (h : b.settings = b'.settings) :
    b.stopsAfter (σ := σ) = b'.stopsAfter := by
  funext e
  rw [stopsAfter, stopsAfter, h]

/-- Commands are made from settings and flags alone, whatever the names and places of the entries.
-/
theorem map_commandFor_enabled_congr (hsettings : b.settings = b'.settings)
    (hflags : b.enabledFlags = b'.enabledFlags) :
    b.enabled.map (fun e => b.commandFor e.2) = b'.enabled.map fun e => b'.commandFor e.2 := by
  have hcommands (a : Batch) : a.enabled.map (fun e => a.commandFor e.2) =
      a.enabledFlags.map fun f => a.settings.commandFor f.entry := by
    rw [enabledFlags, List.map_map]
    rfl
  rw [hcommands b, hcommands b', hsettings, hflags]

/-- The two runs may make their calls for different entries, but they do the same. -/
theorem map_effect_runCalls_congr (hsettings : b.settings = b'.settings)
    (hflags : b.enabledFlags = b'.enabledFlags) :
    (b.runCalls backend s).map Call.effect = (b'.runCalls backend s).map Call.effect := by
  rw [map_effect_runCalls, map_effect_runCalls, stopsAfter_congr hsettings,
    map_effect_calls_congr backend s (map_commandFor_enabled_congr hsettings hflags)]

section SameEffects

variable {backend s}
variable (h : (b.runCalls backend s).map Call.effect = (b'.runCalls backend s).map Call.effect)
include h

/-- The backend cannot tell the two batches apart. -/
theorem exchanges_congr : b.exchanges backend s = b'.exchanges backend s := by
  have hexchanges (a : Batch) : a.exchanges backend s =
      ((a.runCalls backend s).map Call.effect).map fun e => (e.1, e.2.1) := by
    rw [exchanges_eq, List.map_map]
    rfl
  rw [hexchanges b, hexchanges b', h]

theorem run_backend_congr : (b.run backend s).backend = (b'.run backend s).backend := by
  rw [run_backend, run_backend, Call.stateAfter_eq_foldl, h, ← Call.stateAfter_eq_foldl]

/-- The results, without the places of the entries and their labels. -/
theorem map_results_congr :
    (b.run backend s).report.results.map (fun r => (r.command, r.outcome)) =
      (b'.run backend s).report.results.map fun r => (r.command, r.outcome) := by
  have hresults (a : Batch) :
      (a.run backend s).report.results.map (fun r => (r.command, r.outcome)) =
        ((a.runCalls backend s).map Call.effect).map fun e => (e.1, recorded e.2.1) := by
    simp [results_run, Call.result_eq, Call.effect]
  rw [hresults b, hresults b', h]

theorem notRun_congr (hcount : b.enabledCount = b'.enabledCount) :
    (b.run backend s).report.notRun = (b'.run backend s).report.notRun := by
  have hlength := congrArg List.length h
  simp only [List.length_map] at hlength
  rw [run_report, run_report, hlength, hcount]

theorem halted_congr (hsettings : b.settings = b'.settings) :
    (b.run backend s).report.halted = (b'.run backend s).report.halted := by
  have hhalted (a : Batch) : (a.run backend s).report.halted =
      ((a.runCalls backend s).map Call.effect).any a.stopsAfter := by
    rw [run_report, List.any_map]
    rfl
  rw [hhalted b, hhalted b', h, stopsAfter_congr hsettings]

theorem verdict_congr (hcount : b.enabledCount = b'.enabledCount) :
    (b.run backend s).report.verdict = (b'.run backend s).report.verdict := by
  apply Report.verdict_eq_of_counts
  · rw [failedCount_run, failedCount_run, exchanges_congr h]
  · simpa using congrArg List.length (map_results_congr h)
  · exact notRun_congr h hcount

end SameEffects

/-- Names and disabled entries are invisible to execution. Two batches with the same settings, whose
enabled entries have the same flags in the same order, make a backend do the same: it receives the
same commands, gives the same answers and is left in the same state. The reports differ at most in
the places and labels of the entries and in the number of those disabled. -/
theorem run_depends_on_flags (hsettings : b.settings = b'.settings)
    (hflags : b.enabledFlags = b'.enabledFlags) :
    let report := (b.run backend s).report
    let report' := (b'.run backend s).report
    b.exchanges backend s = b'.exchanges backend s ∧
    (b.run backend s).backend = (b'.run backend s).backend ∧
    report.results.map (fun r => (r.command, r.outcome)) =
      report'.results.map (fun r => (r.command, r.outcome)) ∧
    report.notRun = report'.notRun ∧
    report.halted = report'.halted ∧
    report.verdict = report'.verdict := by
  have heffects := map_effect_runCalls_congr backend s hsettings hflags
  have hcount : b.enabledCount = b'.enabledCount := by
    rw [← length_enabledFlags, ← length_enabledFlags, hflags]
  exact ⟨exchanges_congr heffects, run_backend_congr heffects, map_results_congr heffects,
    notRun_congr heffects hcount, halted_congr heffects hsettings, verdict_congr heffects hcount⟩

/-- A batch whose first entry has a name and whose second is disabled, and one that has these things
the other way around, under a backend that cannot start the first command. -/
theorem run_depends_on_flags_of_renamed :
    let b : Batch :=
      { settings := { onFailure := .halt }
        invocations := [{ name := some "plots", plot := true }, { enabled := false },
          { ignore := [.dll], outDir := some "--dataset" }] }
    let b' : Batch :=
      { settings := { onFailure := .halt }
        invocations := [{ name := some "off", enabled := false, aptStats := true },
          { plot := true }, { name := some "dlls", ignore := [.dll], outDir := some "--dataset" }] }
    let s : Rehearsal := { answers := [.notStarted] }
    b.settings = b'.settings ∧ b.enabledFlags = b'.enabledFlags ∧
      b.exchanges Rehearsal.backend s = b'.exchanges Rehearsal.backend s ∧
      (b.run Rehearsal.backend s).backend = (b'.run Rehearsal.backend s).backend ∧
      (b.run Rehearsal.backend s).report.verdict = (b'.run Rehearsal.backend s).report.verdict := by
  intro b b' s
  have hsettings : b.settings = b'.settings := rfl
  have hflags : b.enabledFlags = b'.enabledFlags := rfl
  obtain ⟨hexchanges, hbackend, -, -, -, hverdict⟩ :=
    run_depends_on_flags Rehearsal.backend s hsettings hflags
  exact ⟨hsettings, hflags, hexchanges, hbackend, hverdict⟩

end Batch

end ScriptBatch
