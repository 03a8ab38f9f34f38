import ScriptBatch.Run

/-!
# Calls of a backend

What a batch asks of a backend, told without a run. Entries are started one after another, each in
the state that the one before it left; a batch that halts on failures is cut behind the first entry
that fails. A backend can also be observed: it then keeps the commands that it receives, together
with its answers.
-/

namespace ScriptBatch

/-- The part of a list up to its first element with `p`, or all of it if there is none. -/
def cutAfter {α : Type} (p : α → Bool) : List α → List α
  | [] => []
  | a :: rest => if p a then [a] else a :: cutAfter p rest

section Cut

variable {α β : Type} (p : α → Bool)

theorem prefix_cutAfter (l : List α) : cutAfter p l <+: l := by
  induction l with
  | nil => exact List.prefix_refl _
  | cons a rest ih =>
    unfold cutAfter
    split
    · exact ⟨rest, rfl⟩
    · exact (List.prefix_cons_inj a).mpr ih

theorem cutAfter_map (q : β → Bool) (f : α → β) (l : List α) :
    cutAfter q (l.map f) = (cutAfter (fun a => q (f a)) l).map f := by
  induction l with
  | nil => rfl
  | cons a rest ih => by_cases h : q (f a) <;> simp [cutAfter, h, ih]

theorem cutAfter_eq_self {l : List α} (h : ∀ a ∈ l, p a = false) : cutAfter p l = l := by
  induction l with
  | nil => rfl
  | cons a rest ih =>
    have ha : p a = false := h a (by simp)
    simp [cutAfter, ha, ih fun x hx => h x (by simp [hx])]

/-- A list is cut in its first part if that has an element with `p`, and otherwise behind it. -/
theorem cutAfter_append (first rest : List α) :
    cutAfter p (first ++ rest) =
      if first.any p then cutAfter p first else first ++ cutAfter p rest := by
  induction first with
  | nil => rfl
  | cons a first ih =>
    by_cases ha : p a = true
    · simp [cutAfter, ha]
    · cases hany : first.any p <;> simp [cutAfter, ha, hany, ih]

/-- The cut is behind the first element with `p`, so such an element is never lost. -/
@[simp] theorem any_cutAfter (l : List α) : (cutAfter p l).any p = l.any p := by
  induction l with
  | nil => rfl
  | cons a rest ih => by_cases h : p a <;> simp [cutAfter, h, ih]

/-- A list is cut behind the last element of what is left, and nothing before that one counts. -/
theorem cutAfter_eq_append {l : List α} (h : l.any p = true) :
    ∃ before last, cutAfter p l = before ++ [last] ∧ p last = true ∧ ∀ a ∈ before, p a = false := by
  induction l with
  | nil => simp at h
  | cons a rest ih =>
    by_cases ha : p a = true
    · exact ⟨[], a, by simp [cutAfter, ha], ha, by simp⟩
    · obtain ⟨before, last, eq, hlast, hbefore⟩ := ih (by simpa [ha] using h)
      refine ⟨a :: before, last, by simp [cutAfter, ha, eq], hlast, ?_⟩
      intro x hx
      rcases List.mem_cons.mp hx with rfl | hx
      · simpa using ha
      · exact hbefore x hx

/-- No shorter prefix ends in an element with `p`. -/
theorem length_cutAfter_le {l q : List α} (hq : q <+: l) {a : α} (last : q.getLast? = some a)
    (ha : p a = true) : (cutAfter p l).length ≤ q.length := by
  induction l generalizing q with
  | nil =>
    rw [List.prefix_nil.mp hq] at last
    simp at last
  | cons c rest ih =>
    cases q with
    | nil => simp at last
    | cons d q =>
      obtain ⟨rfl, tail⟩ := List.cons_prefix_cons.mp hq
      by_cases hd : p d = true
      · simp [cutAfter, hd]
      · -- the last element is not the first one, which has no `p`
        have last' : q.getLast? = some a := by
          cases q with
          | nil =>
            obtain rfl : d = a := by simpa using last
            exact absurd ha hd
          | cons e q => simpa [List.getLast?_cons_cons] using last
        simpa [cutAfter, hd] using ih tail last'

end Cut

/-- Any answer of a backend but that the command has succeeded. -/
def isFailure : Except Error Outcome → Bool
  | .ok .success => false
  | .ok (.failed _) | .error _ => true

/-- Success is the only answer that is no failure: an error of the backend is one, and so is every
outcome with a code. -/
theorem isFailure_eq_false_iff {answer : Except Error Outcome} :
    isFailure answer = false ↔ answer = .ok .success := by
  cases answer with
  | error e => simp [isFailure]
  | ok outcome => cases outcome <;> simp [isFailure]

/-- What is recorded for an answer is a failure if the answer is one. -/
theorem isFailed_recorded (answer : Except Error Outcome) :
    (recorded answer).isFailed = isFailure answer := by
  cases answer with
  | error e => rfl
  | ok outcome => cases outcome <;> rfl

/-- A started entry with its position in the batch: what the backend received and answered, and the
state that the call left. -/
structure Call (σ : Type) where
  entry : Nat × Invocation
  command : Command
  answer : Except Error Outcome
  after : σ

namespace Call

variable {σ : Type}

def failed (c : Call σ) : Bool := isFailure c.answer

/-- What there is to say about a call: its outcome is the one that the backend gave, and `-1` stands
for the code where it gave an error. -/
def result (c : Call σ) : Result where
  index := c.entry.1
  label := c.entry.2.label
  command := c.command
  outcome :=
    match c.answer with
    | .ok outcome => outcome
    | .error _ => .failed (-1)

/-- That is what a run records. -/
theorem result_eq (c : Call σ) :
    c.result = ⟨c.entry.1, c.entry.2.label, c.command, recorded c.answer⟩ := by
  unfold result
  cases c.answer <;> rfl

@[simp] theorem isFailed_outcome_result (c : Call σ) : c.result.outcome.isFailed = c.failed := by
  rw [result_eq]
  exact isFailed_recorded c.answer

def exchange (c : Call σ) : Command × Except Error Outcome := (c.command, c.answer)

/-- The state that calls leave, from the state before the first of them. -/
def stateAfter : σ → List (Call σ) → σ
  | s, [] => s
  | _, c :: rest => stateAfter c.after rest

theorem stateAfter_append (s : σ) (first rest : List (Call σ)) :
    stateAfter s (first ++ rest) = stateAfter (stateAfter s first) rest := by
  induction first generalizing s with
  | nil => rfl
  | cons c first ih => exact ih c.after

end Call

namespace Batch

variable {σ : Type} (b : Batch) (backend : Backend σ)

def call (s : σ) (entry : Nat × Invocation) : Call σ :=
  let command := b.commandFor entry.2
  let (after, answer) := backend s command
  { entry, command, answer, after }

/-- Starts entries one after another, each in the state that the one before it left. -/
def calls : σ → List (Nat × Invocation) → List (Call σ)
  | _, [] => []
  | s, entry :: rest => b.call backend s entry :: calls (b.call backend s entry).after rest

/-- No entry is started after this call: it failed, and the batch halts on failures. -/
def stopsAt (c : Call σ) : Bool := c.failed && b.settings.onFailure == .halt

/-- The calls that are made for entries, up to one after which the batch stops. -/
def callsMade (s : σ) (entries : List (Nat × Invocation)) : List (Call σ) :=
  cutAfter b.stopsAt (b.calls backend s entries)

theorem stopsAt_iff {c : Call σ} :
    b.stopsAt c = true ↔ c.failed = true ∧ b.settings.onFailure = .halt := by
  simp [stopsAt]

@[simp] theorem calls_nil (s : σ) : b.calls backend s [] = [] := rfl

@[simp] theorem calls_cons (s : σ) (entry : Nat × Invocation) (rest : List (Nat × Invocation)) :
    b.calls backend s (entry :: rest) =
      b.call backend s entry :: b.calls backend (b.call backend s entry).after rest := rfl

/-- Every entry is started, and in its own order; whether commands fail makes no difference here.
-/
@[simp] theorem map_entry_calls (s : σ) (entries : List (Nat × Invocation)) :
    (b.calls backend s entries).map Call.entry = entries := by
  induction entries generalizing s with
  | nil => rfl
  | cons entry rest ih => simp [ih, call]

@[simp] theorem length_calls (s : σ) (entries : List (Nat × Invocation)) :
    (b.calls backend s entries).length = entries.length := by
  rw [← List.length_map Call.entry, map_entry_calls]

/-- The commands depend on the entries alone, not on what the backend makes of them. -/
theorem map_command_calls (s : σ) (entries : List (Nat × Invocation)) :
    (b.calls backend s entries).map Call.command = entries.map fun e => b.commandFor e.2 := by
  induction entries generalizing s with
  | nil => rfl
  | cons entry rest ih => simp [ih, call]

/-- Entries in two parts can be started part by part, the second from the state that the first
leaves. -/
theorem calls_append (s : σ) (first rest : List (Nat × Invocation)) :
    b.calls backend s (first ++ rest) =
      b.calls backend s first ++
        b.calls backend (Call.stateAfter s (b.calls backend s first)) rest := by
  induction first generalizing s with
  | nil => rfl
  | cons entry first ih =>
    rw [List.cons_append, calls_cons, calls_cons, ih]
    rfl

/-- The first calls are those for the first entries. -/
theorem calls_take (s : σ) (entries : List (Nat × Invocation)) (n : Nat) :
    b.calls backend s (entries.take n) = (b.calls backend s entries).take n := by
  induction entries generalizing s n with
  | nil => simp
  | cons entry rest ih =>
    cases n with
    | zero => rfl
    | succ n => simp [ih]

theorem calls_prefix_calls {first entries : List (Nat × Invocation)} (h : first <+: entries)
    (s : σ) : b.calls backend s first <+: b.calls backend s entries := by
  rw [List.prefix_iff_eq_take.mp h, calls_take]
  exact List.take_prefix _ _

/-- What comes first among the calls for entries is the calls for some of them. -/
theorem eq_calls_of_prefix_calls {made : List (Call σ)} {s : σ} {entries : List (Nat × Invocation)}
    (h : made <+: b.calls backend s entries) :
    made.map Call.entry <+: entries ∧ made = b.calls backend s (made.map Call.entry) := by
  have hentries : made.map Call.entry = entries.take made.length := by
    rw [List.prefix_iff_eq_take.mp h, ← calls_take, map_entry_calls, calls_take]
    simp
  rw [hentries, calls_take]
  exact ⟨List.take_prefix _ _, List.prefix_iff_eq_take.mp h⟩

@[simp] theorem callsMade_nil (s : σ) : b.callsMade backend s [] = [] := rfl

/-- The calls that are made, entry by entry: after each one the batch goes on from the state that
it leaves, or stops. -/
theorem callsMade_cons (s : σ) (entry : Nat × Invocation) (rest : List (Nat × Invocation)) :
    b.callsMade backend s (entry :: rest) =
      if b.stopsAt (b.call backend s entry) then [b.call backend s entry]
      else b.call backend s entry ::
        b.callsMade backend (b.call backend s entry).after rest := rfl

/-- Entries behind others are started only if the batch has not stopped by then. -/
theorem callsMade_append (s : σ) (first rest : List (Nat × Invocation)) :
    b.callsMade backend s (first ++ rest) =
      if (b.callsMade backend s first).any b.stopsAt then b.callsMade backend s first
      else b.callsMade backend s first ++
        b.callsMade backend (Call.stateAfter s (b.callsMade backend s first)) rest := by
  unfold callsMade
  rw [calls_append, cutAfter_append, any_cutAfter]
  split
  · rfl
  · rename_i hnone
    have hfirst : cutAfter b.stopsAt (b.calls backend s first) = b.calls backend s first :=
      cutAfter_eq_self _ (by simpa using hnone)
    rw [hfirst]

/-- A batch that stops has started the same entries in the same states as one that does not, as
far as it came. -/
theorem callsMade_prefix_calls (s : σ) (entries : List (Nat × Invocation)) :
    b.callsMade backend s entries <+: b.calls backend s entries := prefix_cutAfter _ _

/-- A batch stops only at a failure. -/
theorem callsMade_eq_calls {s : σ} {entries : List (Nat × Invocation)}
    (h : ∀ c ∈ b.callsMade backend s entries, c.failed = false) :
    b.callsMade backend s entries = b.calls backend s entries := by
  have hmade : (b.callsMade backend s entries).any b.stopsAt = false := by
    rw [List.any_eq_false]
    intro c hc hstop
    have hfailed := (b.stopsAt_iff.mp hstop).1
    simp [h c hc] at hfailed
  rw [callsMade, any_cutAfter, List.any_eq_false] at hmade
  exact cutAfter_eq_self _ fun c hc => by simpa using hmade c hc

end Batch

section Simulation

variable {σ τ : Type} {f : σ → τ}

/-- The call, seen by a backend with other states. -/
def Call.mapState (f : σ → τ) (c : Call σ) : Call τ :=
  { entry := c.entry, command := c.command, answer := c.answer, after := f c.after }

@[simp] theorem Call.result_mapState (c : Call σ) : (c.mapState f).result = c.result := rfl

@[simp] theorem Call.stopsAt_mapState (b : Batch) (c : Call σ) :
    b.stopsAt (c.mapState f) = b.stopsAt c := rfl

theorem Call.stateAfter_map_mapState (s : σ) (calls : List (Call σ)) :
    stateAfter (f s) (calls.map (mapState f)) = f (stateAfter s calls) := by
  induction calls generalizing s with
  | nil => rfl
  | cons c rest ih => exact ih c.after

variable {backend : Backend σ} {backend' : Backend τ}
  (h : ∀ s c, backend' (f s) c = (f (backend s c).1, (backend s c).2))
include h

/-- Backends that answer alike and whose states go along with `f` receive the same call. -/
theorem Batch.mapState_call (b : Batch) (s : σ) (entry : Nat × Invocation) :
    (b.call backend s entry).mapState f = b.call backend' (f s) entry := by
  simp [call, Call.mapState, h]

/-- A backend that keeps a part of another one's state, and answers alike, receives the same
calls. -/
theorem Batch.map_mapState_callsMade (b : Batch) (s : σ) (entries : List (Nat × Invocation)) :
    (b.callsMade backend s entries).map (Call.mapState f) =
      b.callsMade backend' (f s) entries := by
  induction entries generalizing s with
  | nil => rfl
  | cons entry rest ih =>
    have hafter : (b.call backend' (f s) entry).after = f (b.call backend s entry).after := by
      rw [← b.mapState_call h]
      rfl
    rw [callsMade_cons, callsMade_cons, hafter, ← b.mapState_call h, Call.stopsAt_mapState]
    split
    · rfl
    · rw [List.map_cons, ih]

end Simulation

/-- The backend with a record of the commands that it has received and of its answers to them. -/
def Backend.observed {σ : Type} (backend : Backend σ) :
    Backend (σ × List (Command × Except Error Outcome)) := fun s c =>
  let (after, answer) := backend s.1 c
  ((after, s.2 ++ [(c, answer)]), answer)

namespace Batch

variable {σ : Type} (b : Batch) (backend : Backend σ)

/-- The record of a backend under observation grows by one exchange with every call. -/
theorem after_call_observed (s : σ) (seen : List (Command × Except Error Outcome))
    (entry : Nat × Invocation) :
    (b.call backend.observed (s, seen) entry).after =
      ((b.call backend s entry).after, seen ++ [(b.call backend s entry).exchange]) := rfl

/-- What is observed is what passed between the batch and its backend. -/
theorem stateAfter_callsMade_observed (s : σ) (seen : List (Command × Except Error Outcome))
    (entries : List (Nat × Invocation)) :
    Call.stateAfter (s, seen) (b.callsMade backend.observed (s, seen) entries) =
      (Call.stateAfter s (b.callsMade backend s entries),
        seen ++ (b.callsMade backend s entries).map Call.exchange) := by
  induction entries generalizing s seen with
  | nil => simp [Call.stateAfter]
  | cons entry rest ih =>
    have hcall : (b.call backend.observed (s, seen) entry).mapState Prod.fst =
        b.call backend s entry := b.mapState_call (fun _ _ => rfl) (s, seen) entry
    rw [callsMade_cons, callsMade_cons, after_call_observed, ← Call.stopsAt_mapState, hcall]
    split
    · simp [Call.stateAfter, after_call_observed]
    · simp [Call.stateAfter, after_call_observed, ih]

end Batch

end ScriptBatch
