import Mathlib.Data.List.Basic
import ScriptBatch.Proofs.Coherence

/-!
# What the log of a run tells

A run tells about each entry when its turn comes: nothing, one line, or a short block of lines that
belong together. The log is the blocks of all entries one after another, between a first and a last
line. So whatever is said about the order of lines is said about single blocks, and the blocks of
started entries come from the calls that the report is made of.
-/

namespace ScriptBatch

open Log (Event)

namespace Log.Event

/-- Position, number of enabled entries, command, index and label of an entry that is started. -/
def started? : Event → Option (Nat × Nat × Command × Nat × String)
  | entryStarted position total command index label => some (position, total, command, index, label)
  | _ => none

def notRunnable? : Event → Option (Nat × String × Error)
  | entryNotRunnable index label cause => some (index, label, cause)
  | _ => none

def failed? : Event → Option (Nat × String × Outcome)
  | entryFailed index label code => some (index, label, .failed code)
  | _ => none

def disabled? : Event → Option (Nat × String)
  | entryDisabled index label => some (index, label)
  | _ => none

/-- The event stands at the beginning or at the end of a run. -/
def isOuter : Event → Bool
  | batchStarted .. | batchFinished .. => true
  | _ => false

end Log.Event

section Blocks

variable {α β γ : Type}

/-- An element of concatenated blocks stands in one of them. -/
theorem flatMap_eq_append_cons {f : α → List β} {l : List α} {before after : List β} {x : β}
    (h : l.flatMap f = before ++ x :: after) :
    ∃ l₁ a l₂ x₁ x₂, l = l₁ ++ a :: l₂ ∧ f a = x₁ ++ x :: x₂ ∧
      before = l₁.flatMap f ++ x₁ ∧ after = x₂ ++ l₂.flatMap f := by
  induction l generalizing before with
  | nil => simp at h
  | cons a l ih =>
    rw [List.flatMap_cons] at h
    rcases List.append_eq_append_iff.mp h with ⟨mid, rfl, hrest⟩ | ⟨mid, ha, hrest⟩
    · obtain ⟨l₁, a', l₂, x₁, x₂, rfl, ha', rfl, rfl⟩ := ih hrest
      exact ⟨a :: l₁, a', l₂, x₁, x₂, rfl, ha', by simp, rfl⟩
    · cases mid with
      | nil =>
        have hrest : l.flatMap f = [] ++ x :: after := hrest.symm
        obtain ⟨l₁, a', l₂, x₁, x₂, rfl, ha', hx₁, rfl⟩ := ih hrest
        refine ⟨a :: l₁, a', l₂, x₁, x₂, rfl, ha', ?_, rfl⟩
        rw [List.flatMap_cons, List.append_assoc, ← hx₁, ha]
        simp
      | cons y mid =>
        obtain ⟨rfl, rfl⟩ := List.cons.inj hrest
        exact ⟨[], a, l, before, mid, rfl, ha, rfl, rfl⟩

/-- If each block has at most one element that is selected, those of all blocks are selected one by
one. -/
theorem filterMap_flatMap_eq {f : α → List β} {p : β → Option γ} {q : α → Option γ}
    (h : ∀ a, (f a).filterMap p = (q a).toList) (l : List α) :
    (l.flatMap f).filterMap p = l.filterMap q := by
  induction l with
  | nil => rfl
  | cons a l ih =>
    rw [List.flatMap_cons, List.filterMap_append, h, ih, List.filterMap_cons]
    cases q a <;> rfl

/-- A list that is cut behind its first element with `p` has nothing behind an element with `p`. -/
theorem eq_nil_of_cutAfter_eq {p : α → Bool} {l before after : List α} {a : α}
    (h : cutAfter p l = before ++ a :: after) (ha : p a = true) : after = [] := by
  have hany : l.any p = true := by
    rw [← any_cutAfter, h]
    simp [ha]
  obtain ⟨first, last, heq, -, hfirst⟩ := cutAfter_eq_append p hany
  rw [heq] at h
  -- an element in front of the last one has no `p`
  rcases List.eq_nil_or_concat after with rfl | ⟨init, z, rfl⟩
  · rfl
  · have hmem : a ∈ first := by
      have hinit : first = before ++ a :: init := by
        have h' : first ++ [last] = (before ++ a :: init) ++ [z] := by simpa using h
        exact (List.append_inj' h' rfl).1
      rw [hinit]
      simp
    simp [hfirst a hmem] at ha

end Blocks

namespace Call

variable {σ : Type}

/-- Index and label of the entry and the reason, if the call gave no outcome. -/
def notRunnable? (c : Call σ) : Option (Nat × String × Error) :=
  match c.answer with
  | .error e => some (c.entry.1, c.entry.2.label, e)
  | .ok _ => none

def failure? (c : Call σ) : Option (Nat × String × Int) :=
  match c.answer with
  | .ok .success => none
  | .ok (.failed code) => some (c.entry.1, c.entry.2.label, code)
  | .error _ => some (c.entry.1, c.entry.2.label, -1)

end Call

/-- What becomes of an entry when its turn comes. A call that is made has a position, counted from
one. -/
inductive Turn (σ : Type) where
  | disabled (index : Nat) (label : String)
  | leftOut
  | started (position : Nat) (call : Call σ)

namespace Turn

variable {σ : Type}

def call? : Turn σ → Option (Call σ × Nat)
  | started position c => some (c, position)
  | _ => none

def disabled? : Turn σ → Option (Nat × String)
  | disabled index label => some (index, label)
  | _ => none

def startEvent (b : Batch) (position : Nat) (c : Call σ) : Event :=
  .entryStarted position b.enabledCount c.command c.entry.1 c.entry.2.label

def events (b : Batch) : Turn σ → List Event
  | disabled index label => [.entryDisabled index label]
  | leftOut => []
  | started position c =>
    startEvent b position c :: Run.failureEvents b c.entry.1 c.entry.2.label c.answer

end Turn

namespace Run

variable {σ : Type} (backend : Backend σ) (b : Batch)

/-- What becomes of an entry, as far as the run has come. -/
def turn (r : Run σ) (entry : Invocation × Nat) : Turn σ :=
  if !entry.1.enabled then .disabled entry.2 entry.1.label
  else if r.report.halted then .leftOut
  else .started (r.position + 1) (b.call backend r.backend (entry.2, entry.1))

def turns : Run σ → List (Invocation × Nat) → List (Turn σ)
  | _, [] => []
  | r, entry :: rest => r.turn backend b entry :: turns (r.step backend b entry) rest

/-- The step lemma: one entry adds the lines about its turn to the log, and changes no line
before. -/
theorem log_step (r : Run σ) (entry : Invocation × Nat) :
    (r.step backend b entry).log = r.log ++ (r.turn backend b entry).events b := by
  obtain ⟨i, index⟩ := entry
  cases henabled : i.enabled with
  | false => simp [step_of_disabled backend b r henabled, turn, henabled, Turn.events]
  | true =>
    cases hr : r.report.halted with
    | true => simp [step_of_halted backend b henabled hr, turn, henabled, hr, Turn.events]
    | false =>
      rw [step_of_running backend b henabled hr]
      simp [turn, henabled, hr, Turn.events, Turn.startEvent, Batch.call]

/-- The run lemma, by induction on the entries. -/
theorem log_foldl_step (r : Run σ) (entries : List (Invocation × Nat)) :
    (entries.foldl (step backend b) r).log =
      r.log ++ (r.turns backend b entries).flatMap (Turn.events b) := by
  induction entries generalizing r with
  | nil => simp [turns]
  | cons entry rest ih =>
    rw [List.foldl_cons, ih, log_step]
    simp [turns]

/-- Every disabled entry has its turn, in a batch that has halted as well. -/
theorem filterMap_disabled?_turns (r : Run σ) (entries : List (Invocation × Nat)) :
    (r.turns backend b entries).filterMap Turn.disabled? =
      (entries.filter (!·.1.enabled)).map fun e => (e.2, e.1.label) := by
  induction entries generalizing r with
  | nil => rfl
  | cons entry rest ih =>
    rw [turns, List.filterMap_cons, ih]
    cases henabled : entry.1.enabled with
    | false => simp [turn, henabled, Turn.disabled?]
    | true => cases hr : r.report.halted <;> simp [turn, henabled, hr, Turn.disabled?]

/-- A batch that has halted starts nothing. -/
theorem filterMap_call?_turns_of_halted {r : Run σ} (hr : r.report.halted = true)
    (entries : List (Invocation × Nat)) :
    (r.turns backend b entries).filterMap Turn.call? = [] := by
  induction entries generalizing r with
  | nil => rfl
  | cons entry rest ih =>
    obtain ⟨i, index⟩ := entry
    rw [turns, List.filterMap_cons]
    cases henabled : i.enabled with
    | false =>
      have hnext : (r.step backend b (i, index)).report.halted = true := by
        rw [step_of_disabled backend b r henabled]
        exact hr
      simp [turn, henabled, Turn.call?, ih hnext]
    | true =>
      have hnext : (r.step backend b (i, index)).report.halted = true := by
        rw [step_of_halted backend b henabled hr]
        exact hr
      simp [turn, henabled, hr, Turn.call?, ih hnext]

/-- The calls that are made have consecutive positions. -/
theorem filterMap_call?_turns {r : Run σ} (hr : r.report.halted = false)
    (entries : List (Invocation × Nat)) :
    (r.turns backend b entries).filterMap Turn.call? =
      (b.callsMade backend r.backend (enabledAmong entries)).zipIdx (r.position + 1) := by
  induction entries generalizing r with
  | nil => rfl
  | cons entry rest ih =>
    obtain ⟨i, index⟩ := entry
    rw [turns, List.filterMap_cons, enabledAmong_cons]
    cases henabled : i.enabled with
    | false =>
      have hstep := step_of_disabled backend b r henabled index
      have hnext := ih (r := r.step backend b (i, index)) (by rw [hstep]; exact hr)
      rw [hnext, hstep]
      simp [turn, henabled, Turn.call?]
    | true =>
      have hstep := step_of_running backend b henabled hr index
      dsimp only at hstep
      rw [if_pos rfl, Batch.callsMade_cons]
      cases hstop : b.stopsAt (b.call backend r.backend (index, i)) with
      | true =>
        have hnext := filterMap_call?_turns_of_halted backend b
          (r := r.step backend b (i, index)) (by rw [hstep]; exact hstop) rest
        simp [turn, henabled, hr, Turn.call?, hnext]
      | false =>
        have hnext := ih (r := r.step backend b (i, index)) (by rw [hstep]; exact hstop)
        rw [hnext, hstep]
        simp [turn, henabled, hr, Turn.call?]

end Run

namespace Turn

variable {σ : Type} (b : Batch)

def haltEvents (c : Call σ) : List Event := if b.stopsAt c then [.batchHalted] else []

theorem events_of_success {c : Call σ} (h : c.answer = .ok .success) (position : Nat) :
    (started position c).events b = [startEvent b position c] := by
  simp [events, Run.failureEvents, h, recorded]

theorem events_of_failed {c : Call σ} {code : Int} (h : c.answer = .ok (.failed code))
    (position : Nat) :
    (started position c).events b =
      startEvent b position c :: .entryFailed c.entry.1 c.entry.2.label code :: haltEvents b c := by
  simp [events, Run.failureEvents, h, recorded, haltEvents, Batch.stopsAt, Call.failed, isFailure]

/-- An answer that is an error is told twice: why nothing ran, and that the entry failed. -/
theorem events_of_error {c : Call σ} {e : Error} (h : c.answer = .error e) (position : Nat) :
    (started position c).events b =
      startEvent b position c :: .entryNotRunnable c.entry.1 c.entry.2.label e ::
        .entryFailed c.entry.1 c.entry.2.label (-1) :: haltEvents b c := by
  simp [events, Run.failureEvents, h, recorded, haltEvents, Batch.stopsAt, Call.failed, isFailure]

/-- What is selected from the lines about a call comes from its first line, from the reason for
which it could not be made, or from its failure. -/
theorem filterMap_events_started {γ : Type} {p : Event → Option γ} (h : p .batchHalted = none)
    (position : Nat) (c : Call σ) :
    ((started position c).events b).filterMap p =
      (p (startEvent b position c)).toList ++
        ((c.notRunnable?.bind fun x => p (.entryNotRunnable x.1 x.2.1 x.2.2)).toList ++
          (c.failure?.bind fun x => p (.entryFailed x.1 x.2.1 x.2.2)).toList) := by
  have hhalt : (haltEvents b c).filterMap p = [] := by
    unfold haltEvents
    split <;> simp [h]
  have hcons (e : Event) (rest : List Event) :
      (e :: rest).filterMap p = (p e).toList ++ rest.filterMap p := by
    rw [List.filterMap_cons]
    cases p e <;> rfl
  rcases hanswer : c.answer with e | (_ | code)
  · simp [events_of_error b hanswer, hcons, hhalt, Call.notRunnable?, Call.failure?, hanswer]
  · simp [events_of_success b hanswer, hcons, Call.notRunnable?, Call.failure?, hanswer]
  · simp [events_of_failed b hanswer, hcons, hhalt, Call.notRunnable?, Call.failure?, hanswer]

theorem filterMap_started?_events (t : Turn σ) :
    (t.events b).filterMap Event.started? =
      (t.call?.bind fun x => (startEvent b x.2 x.1).started?).toList := by
  cases t with
  | disabled | leftOut => rfl
  | started position c =>
    rw [filterMap_events_started b rfl]
    simp [Event.started?, call?]

theorem filterMap_notRunnable?_events (t : Turn σ) :
    (t.events b).filterMap Event.notRunnable? =
      (t.call?.bind fun x => x.1.notRunnable?).toList := by
  cases t with
  | disabled | leftOut => rfl
  | started position c =>
    rw [filterMap_events_started b rfl]
    cases hc : c.notRunnable? <;> simp [Event.notRunnable?, startEvent, call?, hc]

theorem filterMap_failed?_events (t : Turn σ) :
    (t.events b).filterMap Event.failed? =
      (t.call?.bind fun x => x.1.failure?.map fun y => (y.1, y.2.1, .failed y.2.2)).toList := by
  cases t with
  | disabled | leftOut => rfl
  | started position c =>
    rw [filterMap_events_started b rfl]
    cases hc : c.failure? <;> simp [Event.failed?, startEvent, call?, hc]

theorem filterMap_disabled?_events (t : Turn σ) :
    (t.events b).filterMap Event.disabled? = t.disabled?.toList := by
  cases t with
  | disabled | leftOut => rfl
  | started position c =>
    rw [filterMap_events_started b rfl]
    simp [Event.disabled?, startEvent, disabled?]

variable {b}

theorem not_mem_haltEvents {e : Event} (he : e ≠ .batchHalted) (c : Call σ) :
    e ∉ haltEvents b c := by
  unfold haltEvents
  split <;> simp [he]

/-- The reason for which a call could not be made stands between its first line and its failure. -/
theorem eq_started_of_notRunnable {t : Turn σ} {before after : List Event} {index : Nat}
    {label : String} {e : Error}
    (h : t.events b = before ++ .entryNotRunnable index label e :: after) :
    ∃ position c, t = started position c ∧ c.answer = .error e ∧ index = c.entry.1 ∧
      label = c.entry.2.label ∧ before = [startEvent b position c] ∧
      after = .entryFailed index label (-1) :: haltEvents b c := by
  have hmem : (index, label, e) ∈ (t.events b).filterMap Event.notRunnable? := by
    rw [h]
    simp [Event.notRunnable?]
  rw [filterMap_notRunnable?_events] at hmem
  cases t with
  | disabled | leftOut => simp [call?] at hmem
  | started position c =>
    rcases hanswer : c.answer with e' | outcome
    · obtain ⟨rfl, rfl, rfl⟩ : index = c.entry.1 ∧ label = c.entry.2.label ∧ e = e' := by
        simpa [call?, Call.notRunnable?, hanswer, and_assoc] using hmem
      have hsplit : [startEvent b position c] ++
          .entryNotRunnable c.entry.1 c.entry.2.label e ::
            (.entryFailed c.entry.1 c.entry.2.label (-1) :: haltEvents b c) =
          before ++ .entryNotRunnable c.entry.1 c.entry.2.label e :: after := by
        rw [← h, events_of_error b hanswer]
        rfl
      have hhalt := not_mem_haltEvents (b := b)
        (e := .entryNotRunnable c.entry.1 c.entry.2.label e) (by simp) c
      obtain ⟨hbefore, -, hafter⟩ := (List.append_cons_inj_of_notMem
        (by simp [startEvent]) (by simpa using hhalt)).mp hsplit
      exact ⟨position, c, rfl, hanswer, rfl, rfl, hbefore.symm, hafter.symm⟩
    · simp [call?, Call.notRunnable?, hanswer] at hmem

/-- A batch halts directly behind the failure of a call at which it stops. -/
theorem eq_started_of_batchHalted {t : Turn σ} {before after : List Event}
    (h : t.events b = before ++ .batchHalted :: after) :
    ∃ position c front code, t = started position c ∧ b.stopsAt c = true ∧
      before = front ++ [.entryFailed c.entry.1 c.entry.2.label code] ∧ after = [] := by
  have hmem : Event.batchHalted ∈ t.events b := by
    rw [h]
    simp
  cases t with
  | disabled | leftOut => simp [events] at hmem
  | started position c =>
    -- the block is its other lines, the last of which is a failure, and the line that halts
    have hblock : ∃ front code, (started position c).events b =
        front ++ [.entryFailed c.entry.1 c.entry.2.label code] ++ haltEvents b c ∧
        .batchHalted ∉ front := by
      rcases hanswer : c.answer with e | (_ | code)
      · refine ⟨[_, _], -1, events_of_error b hanswer position, ?_⟩
        simp [startEvent]
      · simp [events_of_success b hanswer, startEvent] at hmem
      · refine ⟨[_], code, events_of_failed b hanswer position, ?_⟩
        simp [startEvent]
    obtain ⟨front, code, heq, hfront⟩ := hblock
    cases hstop : b.stopsAt c with
    | false => simp [heq, haltEvents, hstop, hfront] at hmem
    | true =>
      rw [heq, haltEvents, if_pos hstop] at h
      obtain ⟨hbefore, -, hafter⟩ := (List.append_cons_inj_of_notMem
        (by simp [hfront]) (by simp)).mp h
      exact ⟨position, c, front, code, rfl, hstop, hbefore.symm, hafter.symm⟩

theorem isOuter_of_mem_events {t : Turn σ} {e : Event} (he : e ∈ t.events b) :
    e.isOuter = false := by
  have hnone : (t.events b).filterMap (Option.guard Event.isOuter) = [] := by
    cases t with
    | disabled | leftOut => rfl
    | started position c =>
      rw [filterMap_events_started b rfl]
      simp [Option.guard, startEvent, Event.isOuter]
  rw [List.filterMap_eq_filter] at hnone
  simpa using List.filter_eq_nil_iff.mp hnone e he

theorem batchHalted_mem_events {t : Turn σ} {c : Call σ} {position : Nat}
    (ht : t.call? = some (c, position)) (hstop : b.stopsAt c = true) :
    .batchHalted ∈ t.events b := by
  cases t with
  | disabled | leftOut => simp [call?] at ht
  | started position' c' =>
    obtain ⟨rfl, rfl⟩ : c' = c ∧ position' = position := by simpa [call?] using ht
    have hfailed := (b.stopsAt_iff.mp hstop).1
    rcases hanswer : c'.answer with e | (_ | code)
    · simp [events_of_error b hanswer, haltEvents, hstop]
    · simp [Call.failed, hanswer, isFailure] at hfailed
    · simp [events_of_failed b hanswer, haltEvents, hstop]

/-- Without a call there is nothing to tell but that an entry is disabled. -/
theorem eq_entryDisabled_of_mem_events {t : Turn σ} (ht : t.call? = none) {e : Event}
    (he : e ∈ t.events b) : ∃ index label, e = .entryDisabled index label := by
  cases t with
  | disabled index label => exact ⟨index, label, by simpa [events] using he⟩
  | leftOut => simp [events] at he
  | started position c => simp [call?] at ht

end Turn

namespace Batch

variable {σ : Type} (backend : Backend σ) (b : Batch) (s : σ)

def turns : List (Turn σ) := (Run.initial b s).turns backend b b.invocations.zipIdx

def told : List Event := (b.turns backend s).flatMap (Turn.events b)

/-- The whole log: a first line, the turns of the entries, and a last line with the totals of the
report. -/
theorem run_log :
    (b.run backend s).log =
      .batchStarted b.enabledCount b.settings.onFailure :: b.told backend s ++
        [.batchFinished (b.run backend s).report.succeededCount
          (b.run backend s).report.failedCount (b.run backend s).report.disabled
          (b.run backend s).report.notRun] := by
  have h := Run.log_foldl_step backend b (Run.initial b s) b.invocations.zipIdx
  exact congrArg (· ++ [_]) h

theorem filterMap_call?_turns :
    (b.turns backend s).filterMap Turn.call? = (b.runCalls backend s).zipIdx 1 :=
  Run.filterMap_call?_turns backend b (r := Run.initial b s) rfl b.invocations.zipIdx

/-- What is selected from the log comes from the calls of the run. -/
theorem filterMap_told {γ : Type} {p : Event → Option γ} {q : Call σ × Nat → Option γ}
    (h : ∀ t : Turn σ, (t.events b).filterMap p = (t.call?.bind q).toList) :
    (b.told backend s).filterMap p = ((b.runCalls backend s).zipIdx 1).filterMap q := by
  rw [told, filterMap_flatMap_eq h, ← filterMap_call?_turns, List.filterMap_filterMap]

theorem filterMap_zipIdx_fst {α γ : Type} (q : α → Option γ) (l : List α) (k : Nat) :
    (l.zipIdx k).filterMap (fun x => q x.1) = l.filterMap q := by
  rw [← List.zipIdx_map_fst k l, List.filterMap_map, List.zipIdx_map_fst]
  rfl

/-- Each result of the report has its start told, in order and with its number. -/
theorem filterMap_started?_told :
    (b.told backend s).filterMap Event.started? =
      ((b.run backend s).report.results.zipIdx 1).map fun x =>
        (x.2, b.enabledCount, x.1.command, x.1.index, x.1.label) := by
  rw [b.filterMap_told backend s (Turn.filterMap_started?_events b), results_run, List.zipIdx_map,
    List.map_map, ← List.filterMap_eq_map]
  rfl

theorem filterMap_notRunnable?_told :
    (b.told backend s).filterMap Event.notRunnable? =
      ((b.run backend s).report.results.zip (b.exchanges backend s)).filterMap fun x =>
        match x.2.2 with
        | .error e => some (x.1.index, x.1.label, e)
        | .ok _ => none := by
  rw [b.filterMap_told backend s (Turn.filterMap_notRunnable?_events b), filterMap_zipIdx_fst,
    results_run, exchanges_eq, List.zip_map', List.filterMap_map]
  rfl

/-- The failures that are told are those of the report. -/
theorem filterMap_failed?_told :
    (b.told backend s).filterMap Event.failed? =
      (b.run backend s).report.failed.map fun r => (r.index, r.label, r.outcome) := by
  rw [b.filterMap_told backend s (Turn.filterMap_failed?_events b),
    filterMap_zipIdx_fst fun c : Call σ =>
      c.failure?.map fun y => (y.1, y.2.1, Outcome.failed y.2.2),
    Report.failed, results_run, List.filter_map, List.map_map, ← List.filterMap_eq_map,
    List.filterMap_filter]
  congr 1
  funext c
  rcases hanswer : c.answer with e | (_ | code) <;>
    simp [Call.failure?, Call.result, Outcome.isFailed, hanswer]

theorem filterMap_disabled?_told :
    (b.told backend s).filterMap Event.disabled? =
      (b.invocations.zipIdx.filter (!·.1.enabled)).map fun e => (e.2, e.1.label) := by
  rw [told, filterMap_flatMap_eq (Turn.filterMap_disabled?_events b)]
  exact Run.filterMap_disabled?_turns backend b _ _

/-- The turn in which a call is made is found by its position. -/
theorem getElem?_runCalls {first rest : List (Turn σ)} {position : Nat} {c : Call σ}
    (h : b.turns backend s = first ++ .started position c :: rest) :
    1 ≤ position ∧ (b.runCalls backend s)[position - 1]? = some c := by
  apply List.mk_mem_zipIdx_iff_le_and_getElem?_sub.mp
  rw [← filterMap_call?_turns, h]
  simp [Turn.call?]

/-- The reason for which a call could not be made stands directly between the line about the call
and the failure without a code. -/
theorem told_around_notRunnable {before after : List Event} {index : Nat} {label : String}
    {e : Error} (h : b.told backend s = before ++ .entryNotRunnable index label e :: after) :
    ∃ k command front rest,
      (b.run backend s).report.results[k]? = some ⟨index, label, command, .failed (-1)⟩ ∧
      (b.exchanges backend s)[k]? = some (command, .error e) ∧
      before = front ++ [.entryStarted (k + 1) b.enabledCount command index label] ∧
      after = .entryFailed index label (-1) :: rest := by
  obtain ⟨first, t, rest, x₁, x₂, hturns, ht, rfl, rfl⟩ := flatMap_eq_append_cons h
  obtain ⟨position, c, rfl, hanswer, rfl, rfl, rfl, rfl⟩ := Turn.eq_started_of_notRunnable ht
  obtain ⟨hposition, hcall⟩ := b.getElem?_runCalls backend s hturns
  refine ⟨position - 1, c.command, first.flatMap (Turn.events b), _, ?_, ?_, ?_, rfl⟩
  · simp [results_run, hcall, Call.result, hanswer]
  · simp [exchanges_eq, hcall, Call.exchange, hanswer]
  · rw [Nat.sub_add_cancel hposition]
    rfl

/-- A batch halts directly behind a failure, and after that only disabled entries are told of. -/
theorem told_around_batchHalted {before after : List Event}
    (h : b.told backend s = before ++ .batchHalted :: after) :
    (∃ front index label code, before = front ++ [.entryFailed index label code]) ∧
      ∀ e ∈ after, ∃ index label, e = .entryDisabled index label := by
  obtain ⟨first, t, rest, x₁, x₂, hturns, ht, rfl, rfl⟩ := flatMap_eq_append_cons h
  obtain ⟨position, c, front, code, rfl, hstop, rfl, rfl⟩ := Turn.eq_started_of_batchHalted ht
  refine ⟨⟨_, _, _, code, (List.append_assoc _ _ _).symm⟩, ?_⟩
  -- the calls are cut behind one at which the batch stops, so none is made in a later turn
  have hcut : cutAfter b.stopsAt (b.calls backend s b.enabled) =
      (first.filterMap Turn.call?).map Prod.fst ++ c ::
        (rest.filterMap Turn.call?).map Prod.fst := by
    have hcalls := congrArg (List.map Prod.fst) (b.filterMap_call?_turns backend s)
    rw [List.zipIdx_map_fst, hturns] at hcalls
    change b.runCalls backend s = _
    rw [← hcalls]
    simp [Turn.call?]
  have hnone : rest.filterMap Turn.call? = [] :=
    List.map_eq_nil_iff.mp (eq_nil_of_cutAfter_eq hcut hstop)
  intro e he
  obtain ⟨t, ht, het⟩ := List.mem_flatMap.mp (by simpa using he)
  exact Turn.eq_entryDisabled_of_mem_events (List.filterMap_eq_nil_iff.mp hnone t ht) het

theorem batchHalted_mem_told_iff :
    .batchHalted ∈ b.told backend s ↔ (b.run backend s).report.halted = true := by
  rw [run_report, List.any_eq_true]
  constructor
  · intro hmem
    obtain ⟨before, after, h⟩ := List.append_of_mem hmem
    obtain ⟨first, t, rest, x₁, x₂, hturns, ht, -, -⟩ := flatMap_eq_append_cons h
    obtain ⟨position, c, -, -, rfl, hstop, -, -⟩ := Turn.eq_started_of_batchHalted ht
    exact ⟨c, List.mem_of_getElem? (b.getElem?_runCalls backend s hturns).2, hstop⟩
  · rintro ⟨c, hc, hstop⟩
    rw [← List.zipIdx_map_fst 1 (b.runCalls backend s), ← filterMap_call?_turns] at hc
    obtain ⟨⟨_, position⟩, hcall, rfl⟩ := List.mem_map.mp hc
    obtain ⟨t, ht, hcall⟩ := List.mem_filterMap.mp hcall
    exact List.mem_flatMap.mpr ⟨t, ht, Turn.batchHalted_mem_events hcall hstop⟩

/-- A batch that halts says so once. -/
theorem count_batchHalted_told :
    (b.told backend s).count .batchHalted = if (b.run backend s).report.halted then 1 else 0 := by
  by_cases hmem : Event.batchHalted ∈ b.told backend s
  · rw [if_pos ((b.batchHalted_mem_told_iff backend s).mp hmem)]
    obtain ⟨before, after, h⟩ := List.append_of_mem hmem
    have hafter : Event.batchHalted ∉ after := by
      intro hlater
      obtain ⟨_, _, heq⟩ := (b.told_around_batchHalted backend s h).2 _ hlater
      simp at heq
    have hbefore : Event.batchHalted ∉ before := by
      intro hearlier
      obtain ⟨u, v, rfl⟩ := List.append_of_mem hearlier
      have h' : b.told backend s = u ++ .batchHalted :: (v ++ .batchHalted :: after) := by
        simpa using h
      obtain ⟨_, _, heq⟩ := (b.told_around_batchHalted backend s h').2 .batchHalted (by simp)
      simp at heq
    rw [h, List.count_append, List.count_cons_self, List.count_eq_zero.mpr hafter,
      List.count_eq_zero.mpr hbefore]
  · have hrunning : ¬ (b.run backend s).report.halted = true := by
      rwa [← batchHalted_mem_told_iff]
    rw [if_neg hrunning, List.count_eq_zero]
    exact hmem

/-- The lines of a log between the first and the last one tell the same as a report, and as what
passed between the batch and its backend. -/
structure ToldBy (report : Report) (exchanges : List (Command × Except Error Outcome))
    (told : List Event) : Prop where
  inner : ∀ e ∈ told, e.isOuter = false
  /-- The started entries are numbered from one, without gaps, and are those of the results. -/
  started : told.filterMap Event.started? = (report.results.zipIdx 1).map fun x =>
    (x.2, b.enabledCount, x.1.command, x.1.index, x.1.label)
  length_le : report.results.length ≤ b.enabledCount
  commands : report.results.map (·.command) = exchanges.map Prod.fst
  /-- A reason is told for exactly those calls that gave an error. -/
  notRunnable : told.filterMap Event.notRunnable? =
    (report.results.zip exchanges).filterMap fun x =>
      match x.2.2 with
      | .error e => some (x.1.index, x.1.label, e)
      | .ok _ => none
  /-- It stands directly between the line about its call and a failure without a code. -/
  around_notRunnable : ∀ before after index label e,
    told = before ++ .entryNotRunnable index label e :: after →
      ∃ k command front rest,
        report.results[k]? = some ⟨index, label, command, .failed (-1)⟩ ∧
        exchanges[k]? = some (command, .error e) ∧
        before = front ++ [.entryStarted (k + 1) b.enabledCount command index label] ∧
        after = .entryFailed index label (-1) :: rest
  failed : told.filterMap Event.failed? =
    report.failed.map fun r => (r.index, r.label, r.outcome)
  halted : told.count .batchHalted = if report.halted then 1 else 0
  /-- Directly before it is a failure, and after it there are lines about disabled entries only. -/
  around_halted : ∀ before after, told = before ++ .batchHalted :: after →
    (∃ front index label code, before = front ++ [.entryFailed index label code]) ∧
      ∀ e ∈ after, ∃ index label, e = .entryDisabled index label
  disabled : told.filterMap Event.disabled? =
    (b.invocations.zipIdx.filter (!·.1.enabled)).map fun e => (e.2, e.1.label)

/-- The log of a run has one first line, with the number of enabled entries and the failure mode,
and one last line, with the counts of the report. The lines between them tell what the report
says. -/
theorem log_tells_report :
    let run := b.run backend s
    ∃ told,
      run.log = .batchStarted b.enabledCount b.settings.onFailure :: told ++
        [.batchFinished run.report.succeededCount run.report.failedCount run.report.disabled
          run.report.notRun] ∧
      b.ToldBy run.report (b.exchanges backend s) told := by
  intro run
  refine ⟨b.told backend s, b.run_log backend s, ?_⟩
  exact {
    inner := fun e he => by
      obtain ⟨t, -, het⟩ := List.mem_flatMap.mp he
      exact Turn.isOuter_of_mem_events het
    started := b.filterMap_started?_told backend s
    length_le := Nat.le.intro (b.results_add_notRun backend s)
    commands := by
      rw [results_run, exchanges_eq, List.map_map, List.map_map]
      rfl
    notRunnable := b.filterMap_notRunnable?_told backend s
    around_notRunnable := fun _ _ _ _ _ => b.told_around_notRunnable backend s
    failed := b.filterMap_failed?_told backend s
    halted := b.count_batchHalted_told backend s
    around_halted := fun _ _ => b.told_around_batchHalted backend s
    disabled := b.filterMap_disabled?_told backend s }

end Batch

end ScriptBatch
