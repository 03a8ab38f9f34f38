/-!
# Results of steps that can fail

Readers and checks give a result or say why there is none. These are the few facts about such
results that do not depend on what is read or checked.
-/

namespace ScriptBatch

variable {ε α β : Type}

theorem bind_eq_ok_iff {x : Except ε α} {f : α → Except ε β} {b : β} :
    (x >>= f) = .ok b ↔ ∃ a, x = .ok a ∧ f a = .ok b := by
  cases x with
  | error e => exact ⟨nofun, nofun⟩
  | ok a => exact ⟨fun h => ⟨a, rfl, h⟩, fun ⟨_, hx, h⟩ => Except.ok.inj hx ▸ h⟩

/-- What is kept by every step is kept by all of them together. -/
theorem foldlM_keeps {P : β → Prop} {step : β → α → Except ε β}
    (hstep : ∀ s a s', P s → step s a = .ok s' → P s') {l : List α} {s s' : β} (hs : P s)
    (h : l.foldlM step s = .ok s') : P s' := by
  induction l generalizing s with
  | nil => exact Except.ok.inj h ▸ hs
  | cons a rest ih =>
    obtain ⟨next, hnext, hrest⟩ := bind_eq_ok_iff.mp h
    exact ih (hstep s a next hs hnext) hrest

/-- Where there is one way to fail, what has no result fails in that way. -/
theorem eq_error_iff {x : Except ε α} {e : ε} {P : α → Prop}
    (hcases : (∃ a, x = .ok a) ∨ x = .error e) (hok : ∀ a, x = .ok a ↔ P a) :
    x = .error e ↔ ∀ a, ¬ P a := by
  constructor
  · intro herror a ha
    simp [(hok a).mpr ha] at herror
  · intro hnone
    rcases hcases with ⟨a, ha⟩ | herror
    · exact absurd ((hok a).mp ha) (hnone a)
    · exact herror

end ScriptBatch
