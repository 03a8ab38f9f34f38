import ScriptBatch.Proofs.Calls

/-!
# Runs and the calls they make

A run looks at all entries, with a flag for a batch that has halted. Its effect is that of starting
the enabled entries alone, cut behind the first failure if the batch halts on failures: the results
and the state of the backend come from these calls, and the other entries are only counted.
-/

namespace ScriptBatch

def enabledAmong (entries : List (Invocation × Nat)) : List (Nat × Invocation) :=
  (entries.map fun p => (p.2, p.1)).filter (·.2.enabled)

def disabledAmong (entries : List (Invocation × Nat)) : Nat := entries.countP (!·.1.enabled)

@[simp] theorem enabledAmong_nil : enabledAmong [] = [] := rfl

@[simp] theorem disabledAmong_nil : disabledAmong [] = 0 := rfl

theorem enabledAmong_cons (i : Invocation) (index : Nat) (rest : List (Invocation × Nat)) :
    enabledAmong ((i, index) :: rest) =
      if i.enabled then (index, i) :: enabledAmong rest else enabledAmong rest := by
  cases h : i.enabled <;> simp [enabledAmong, h]

theorem disabledAmong_cons (i : Invocation) (index : Nat) (rest : List (Invocation × Nat)) :
    disabledAmong ((i, index) :: rest) =
      disabledAmong rest + if i.enabled then 0 else 1 := by
  cases h : i.enabled <;> simp [disabledAmong, h]

theorem enabledAmong_append (first rest : List (Invocation × Nat)) :
    enabledAmong (first ++ rest) = enabledAmong first ++ enabledAmong rest := by
  simp [enabledAmong]

theorem Batch.enabled_eq (b : Batch) : b.enabled = enabledAmong b.invocations.zipIdx := rfl

/-- The enabled entries, without their positions. -/
theorem Batch.map_snd_enabled (b : Batch) :
    b.enabled.map Prod.snd = b.invocations.filter (·.enabled) := by
  have h := List.filter_map (f := Prod.fst) (l := b.invocations.zipIdx)
    (p := fun i : Invocation => i.enabled)
  rw [List.zipIdx_map_fst] at h
  rw [h, enabled, List.filter_map, List.map_map]
  rfl

namespace Run

variable {σ : Type} (backend : Backend σ) (b : Batch)

/-- A disabled entry is counted, told about, and otherwise passed over. -/
theorem step_of_disabled (r : Run σ) {i : Invocation} (h : i.enabled = false) (index : Nat) :
    r.step backend b (i, index) =
      { r with
        report := { r.report with disabled := r.report.disabled + 1 }
        log := r.log ++ [.entryDisabled index i.label] } := by
  simp [step, h]

theorem step_of_halted {r : Run σ} {i : Invocation} (h : i.enabled = true)
    (hr : r.report.halted = true) (index : Nat) :
    r.step backend b (i, index) =
      { r with report := { r.report with notRun := r.report.notRun + 1 } } := by
  simp [step, h, hr]

/-- An enabled entry of a batch that has not halted is started, and what came of it is recorded. -/
theorem step_of_running {r : Run σ} {i : Invocation} (h : i.enabled = true)
    (hr : r.report.halted = false) (index : Nat) :
    let c := b.call backend r.backend (index, i)
    r.step backend b (i, index) =
      { backend := c.after
        position := r.position + 1
        report := { r.report with
          results := r.report.results ++ [c.result]
          halted := b.stopsAt c }
        log := r.log ++ .entryStarted (r.position + 1) b.enabledCount c.command index i.label ::
          failureEvents b index i.label c.answer } := by
  simp [step, start, h, hr, Batch.call, Batch.stopsAt, Call.result_eq, Call.failed,
    isFailed_recorded]

/-- A batch that has halted only counts. -/
theorem foldl_step_of_halted {r : Run σ} (hr : r.report.halted = true)
    (entries : List (Invocation × Nat)) :
    let last := entries.foldl (step backend b) r
    last.backend = r.backend ∧
      last.report = { r.report with
        disabled := r.report.disabled + disabledAmong entries
        notRun := r.report.notRun + (enabledAmong entries).length } := by
  induction entries generalizing r with
  | nil => simp
  | cons entry rest ih =>
    obtain ⟨i, index⟩ := entry
    dsimp only
    rw [List.foldl_cons, enabledAmong_cons, disabledAmong_cons]
    cases h : i.enabled with
    | false =>
      have hstep := step_of_disabled backend b r h index
      obtain ⟨hbackend, hreport⟩ :=
        ih (r := r.step backend b (i, index)) (by rw [hstep]; exact hr)
      rw [hbackend, hreport, hstep]
      simp
      omega
    | true =>
      have hstep := step_of_halted backend b h hr index
      obtain ⟨hbackend, hreport⟩ :=
        ih (r := r.step backend b (i, index)) (by rw [hstep]; exact hr)
      rw [hbackend, hreport, hstep]
      simp
      omega

/-- A batch that has not halted makes the calls for its enabled entries, up to one after which it
stops. -/
theorem foldl_step {r : Run σ} (hr : r.report.halted = false)
    (entries : List (Invocation × Nat)) :
    let last := entries.foldl (step backend b) r
    let made := b.callsMade backend r.backend (enabledAmong entries)
    last.backend = Call.stateAfter r.backend made ∧
      last.report =
        { results := r.report.results ++ made.map Call.result
          disabled := r.report.disabled + disabledAmong entries
          notRun := r.report.notRun + ((enabledAmong entries).length - made.length)
          halted := made.any b.stopsAt } := by
  induction entries generalizing r with
  | nil => simp [Call.stateAfter, ← hr]
  | cons entry rest ih =>
    obtain ⟨i, index⟩ := entry
    dsimp only
    rw [List.foldl_cons, enabledAmong_cons, disabledAmong_cons]
    cases h : i.enabled with
    | false =>
      have hstep := step_of_disabled backend b r h index
      obtain ⟨hbackend, hreport⟩ :=
        ih (r := r.step backend b (i, index)) (by rw [hstep]; exact hr)
      rw [hbackend, hreport, hstep]
      simp
      omega
    | true =>
      have hstep := step_of_running backend b h hr index
      dsimp only at hstep
      rw [if_pos rfl, Batch.callsMade_cons]
      -- the call for this entry is either the last one or followed by those for the rest
      cases hstop : b.stopsAt (b.call backend r.backend (index, i)) with
      | true =>
        obtain ⟨hbackend, hreport⟩ := foldl_step_of_halted backend b
          (r := r.step backend b (i, index)) (by rw [hstep]; exact hstop) rest
        rw [hbackend, hreport, hstep]
        simp [Call.stateAfter, hstop]
      | false =>
        obtain ⟨hbackend, hreport⟩ :=
          ih (r := r.step backend b (i, index)) (by rw [hstep]; exact hstop)
        rw [hbackend, hreport, hstep]
        simp [Call.stateAfter, hstop]

end Run

namespace Batch

variable {σ : Type} (backend : Backend σ) (b : Batch) (s : σ)

def runCalls : List (Call σ) := b.callsMade backend s b.enabled

theorem disabledAmong_zipIdx :
    disabledAmong b.invocations.zipIdx = b.invocations.countP (!·.enabled) := by
  have h := List.countP_map (p := fun i : Invocation => !i.enabled) (f := Prod.fst)
    (l := b.invocations.zipIdx)
  rw [List.zipIdx_map_fst] at h
  exact h.symm

theorem runCalls_prefix_calls : b.runCalls backend s <+: b.calls backend s b.enabled :=
  b.callsMade_prefix_calls backend s b.enabled

/-- The calls of a run are those for the entries that they are made for. -/
theorem runCalls_eq_calls :
    b.runCalls backend s = b.calls backend s ((b.runCalls backend s).map Call.entry) :=
  (b.eq_calls_of_prefix_calls backend (b.runCalls_prefix_calls backend s)).2

/-- Nothing but the calls touches the backend during a run. -/
theorem run_backend : (b.run backend s).backend = Call.stateAfter s (b.runCalls backend s) :=
  (Run.foldl_step backend b (r := Run.initial b s) rfl b.invocations.zipIdx).1

/-- The report on a run, from its calls. -/
theorem run_report :
    (b.run backend s).report =
      { results := (b.runCalls backend s).map Call.result
        disabled := b.invocations.countP (!·.enabled)
        notRun := b.enabledCount - (b.runCalls backend s).length
        halted := (b.runCalls backend s).any b.stopsAt } := by
  have h := (Run.foldl_step backend b (r := Run.initial b s) rfl b.invocations.zipIdx).2
  refine h.trans ?_
  simp [Run.initial, runCalls, enabled_eq, enabledCount, disabledAmong_zipIdx]

/-- The report has one result for each call, in the order of the calls. -/
theorem results_run :
    (b.run backend s).report.results = (b.runCalls backend s).map Call.result := by
  rw [run_report]

theorem length_runCalls_le : (b.runCalls backend s).length ≤ b.enabledCount := by
  have h := (b.runCalls_prefix_calls backend s).length_le
  rwa [length_calls] at h

/-- Backends that answer alike, one of which keeps a part of the other's state, give the same report
and are left in states that still correspond. -/
theorem run_of_simulation {τ : Type} (backend' : Backend τ) (f : σ → τ)
    (h : ∀ s c, backend' (f s) c = (f (backend s c).1, (backend s c).2)) :
    (b.run backend' (f s)).report = (b.run backend s).report ∧
      (b.run backend' (f s)).backend = f (b.run backend s).backend := by
  have hcalls : (b.runCalls backend s).map (Call.mapState f) = b.runCalls backend' (f s) :=
    b.map_mapState_callsMade h s b.enabled
  constructor
  · rw [run_report, run_report, ← hcalls]
    simp [Function.comp_def]
  · rw [run_backend, run_backend, ← hcalls, Call.stateAfter_map_mapState]

/-- What passes between a batch and its backend during a run: the commands that the backend
receives, in order, and its answers. -/
def exchanges : List (Command × Except Error Outcome) :=
  (b.run backend.observed (s, [])).backend.2

/-- What the backend records about itself is what the calls say about it. -/
theorem exchanges_eq : b.exchanges backend s = (b.runCalls backend s).map Call.exchange := by
  have h := run_backend backend.observed b (s, [])
  rw [runCalls, stateAfter_callsMade_observed] at h
  simp [exchanges, h, runCalls]

/-- Observation does not disturb a run. -/
theorem run_observed :
    (b.run backend.observed (s, [])).report = (b.run backend s).report ∧
      (b.run backend.observed (s, [])).backend.1 = (b.run backend s).backend := by
  obtain ⟨hreport, hbackend⟩ :=
    b.run_of_simulation backend.observed (s, []) backend Prod.fst fun _ _ => rfl
  exact ⟨hreport.symm, hbackend.symm⟩

theorem stopsAt_of_proceed (h : b.settings.onFailure = .proceed) (c : Call σ) :
    b.stopsAt c = false := by
  simp [stopsAt, h]

theorem stopsAt_of_halt (h : b.settings.onFailure = .halt) :
    b.stopsAt (σ := σ) = Call.failed := by
  funext c
  simp [stopsAt, h]

theorem runCalls_of_proceed (h : b.settings.onFailure = .proceed) :
    b.runCalls backend s = b.calls backend s b.enabled :=
  cutAfter_eq_self _ fun c _ => b.stopsAt_of_proceed h c

theorem runCalls_of_halt (h : b.settings.onFailure = .halt) :
    b.runCalls backend s = cutAfter Call.failed (b.calls backend s b.enabled) := by
  rw [runCalls, callsMade, b.stopsAt_of_halt h]

/-- The last of these entries fails when they are started one after another. -/
def EndsInFailure (entries : List (Nat × Invocation)) : Prop :=
  ∃ c, (b.calls backend s entries).getLast? = some c ∧ c.failed = true

/-- A run makes the calls for some of the enabled entries, in order and once each: for all of them
if the batch goes on after failures, and otherwise for the fewest that end in a failure, or for all
if none fails. These calls are what an observed backend sees in the same run. The run records one
result for each of them, and leaves the backend as they leave it. -/
theorem run_refines_calls :
    ∃ started, started <+: b.enabled ∧
      (match b.settings.onFailure with
        | .proceed => started = b.enabled
        | .halt =>
          (b.EndsInFailure backend s started ∧
            ∀ other, other <+: b.enabled → b.EndsInFailure backend s other →
              started.length ≤ other.length) ∨
          (started = b.enabled ∧ ∀ c ∈ b.calls backend s b.enabled, c.failed = false)) ∧
      (b.run backend.observed (s, [])).report = (b.run backend s).report ∧
      (b.exchanges backend s).map Prod.fst = started.map (fun e => b.commandFor e.2) ∧
      b.exchanges backend s = (b.calls backend s started).map Call.exchange ∧
      (b.run backend s).report.results = (b.calls backend s started).map Call.result ∧
      (b.run backend s).backend = Call.stateAfter s (b.calls backend s started) := by
  obtain ⟨hfirst, hcalls⟩ := b.eq_calls_of_prefix_calls backend (b.runCalls_prefix_calls backend s)
  refine ⟨(b.runCalls backend s).map Call.entry, hfirst, ?_, (b.run_observed backend s).1,
    ?_, ?_, ?_, ?_⟩
  · cases hmode : b.settings.onFailure with
    | proceed =>
      change (b.runCalls backend s).map Call.entry = b.enabled
      rw [b.runCalls_of_proceed backend s hmode, map_entry_calls]
    | halt =>
      have hcut := b.runCalls_of_halt backend s hmode
      cases hany : (b.calls backend s b.enabled).any Call.failed with
      | true =>
        left
        obtain ⟨before, last, heq, hlast, _⟩ := cutAfter_eq_append Call.failed hany
        constructor
        · refine ⟨last, ?_, hlast⟩
          rw [← hcalls, hcut, heq]
          simp
        · rintro other hother ⟨c, hc, hfailed⟩
          have hcalled := b.calls_prefix_calls backend hother s
          have h := length_cutAfter_le Call.failed hcalled hc hfailed
          simpa [hcut] using h
      | false =>
        right
        have hnone : ∀ c ∈ b.calls backend s b.enabled, c.failed = false := by
          simpa using hany
        refine ⟨?_, hnone⟩
        rw [hcut, cutAfter_eq_self Call.failed hnone, map_entry_calls]
  · rw [exchanges_eq, List.map_map, ← map_command_calls b backend s, ← hcalls]
    rfl
  · rw [exchanges_eq, ← hcalls]
  · rw [results_run, ← hcalls]
  · rw [run_backend, ← hcalls]

end Batch

end ScriptBatch
