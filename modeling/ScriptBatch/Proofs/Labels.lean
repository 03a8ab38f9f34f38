import ScriptBatch.Proofs.CommandForm

/-!
# Labels

An entry without a name is called by its flags, joined with spaces, and by a phrase if it has none.
The phrase cannot be taken for flags, since the first of these always has a dash in front. Without a
space in the texts among them, the flags are what a label gives when it is split at its spaces, so
different flags have different labels.
-/

namespace ScriptBatch

def Flags.unset : Flags :=
  { plot := false, normalize := false, aptStats := false, ignore := [], minApis := none,
    outDir := none, dataset := none }

namespace Invocation

theorem flagArgs_eq_nil_iff {i : Invocation} : i.flagArgs = [] ↔ i.flags = Flags.unset :=
  flagArgs_eq_iff (j := Flags.unset.entry)

theorem label_of_unset {i : Invocation} (hname : i.name = none) (h : i.flagArgs = []) :
    i.label = "(no flags)" := by
  simp [label, hname, h]

theorem label_of_flags {i : Invocation} (hname : i.name = none) (h : i.flagArgs ≠ []) :
    i.label = " ".intercalate i.flagArgs := by
  cases hargs : i.flagArgs with
  | nil => exact absurd hargs h
  | cons first rest => simp [label, hname, hargs]

/-- The arguments begin with the letters of the switches or with a flag, and so with a dash. -/
theorem head?_of_head?_flagArgs {i : Invocation} {first : String}
    (h : i.flagArgs.head? = some first) : first.toList.head? = some '-' := by
  have hflags : ∀ flag ∈ ["--ignore", "--min_apis", "--out_dir", "--dataset"],
      flag.toList.head? = some '-' := by decide
  rw [flagArgs_eq_sections, switchArgs_eq] at h
  split at h
  · have hopens := i.opensWith_ignoreArgs.append i.opensWith_valueSections
    exact hflags first (hopens first h)
  · obtain rfl : String.ofList ('-' :: i.switchLetters) = first := by simpa using h
    simp

/-- A label made of flags starts with a dash, so it is never the phrase for having none. -/
theorem head?_label {i : Invocation} (hname : i.name = none) (h : i.flagArgs ≠ []) :
    i.label.toList.head? = some '-' := by
  obtain ⟨first, rest, hargs⟩ := List.exists_cons_of_ne_nil h
  have hfirst : first.toList.head? = some '-' := head?_of_head?_flagArgs (by rw [hargs]; rfl)
  rw [label_of_flags hname h, hargs]
  cases rest <;> simp [hfirst]

theorem label_eq_phrase_iff {i : Invocation} (hname : i.name = none) :
    i.label = "(no flags)" ↔ i.flags = Flags.unset := by
  rw [← flagArgs_eq_nil_iff]
  refine ⟨fun hlabel => ?_, label_of_unset hname⟩
  by_cases h : i.flagArgs = []
  · exact h
  · have hdash := head?_label hname h
    rw [hlabel] at hdash
    exact absurd hdash (by decide)

/-- A label that is made up of flags, or stands for their absence, says something. -/
theorem saysSomething_label_of_unnamed {i : Invocation} (hname : i.name = none) :
    Text.SaysSomething i.label := by
  by_cases h : i.flagArgs = []
  · rw [label_of_unset hname h]
    exact ⟨'(', by decide, by decide⟩
  · exact ⟨'-', List.mem_of_mem_head? (head?_label hname h), by decide⟩

theorem WellFormed.saysSomething_label {i : Invocation} (h : i.WellFormed) :
    Text.SaysSomething i.label := by
  cases hname : i.name with
  | none => exact saysSomething_label_of_unnamed hname
  | some name =>
    rw [label, hname]
    exact h.name name hname

/-- An entry that goes without a name and has no space in its texts. -/
structure Unspaced (i : Invocation) : Prop where
  name : i.name = none
  outDir : ∀ dir, i.outDir = some dir → ' ' ∉ dir.toList
  dataset : ∀ file, i.dataset = some file → ' ' ∉ file.toList

/-- Splitting the label undoes the joining. -/
theorem Unspaced.split_label {i : Invocation} (h : i.Unspaced) (hflags : i.flagArgs ≠ []) :
    (i.label.split ' ').toList.map (·.copy) = i.flagArgs := by
  have hargs := not_mem_of_mem_flagArgs (by decide) h.outDir h.dataset
  rw [label_of_flags h.name hflags]
  exact (String.toList_split_intercalate hargs).trans (if_neg hflags)

/-- Spaces separate the flags in a label. Where no flag contains one, the label gives all of them
away. -/
theorem Unspaced.label_eq_iff {i j : Invocation} (hi : i.Unspaced) (hj : j.Unspaced) :
    i.label = j.label ↔ i.flags = j.flags := by
  constructor
  · intro hlabel
    -- either both labels are the phrase or both are made of flags
    have hphrase : i.flags = Flags.unset ↔ j.flags = Flags.unset := by
      rw [← label_eq_phrase_iff hi.name, ← label_eq_phrase_iff hj.name, hlabel]
    by_cases hunset : i.flags = Flags.unset
    · rw [hunset, hphrase.mp hunset]
    · rw [← flagArgs_eq_iff, ← hi.split_label (mt flagArgs_eq_nil_iff.mp hunset),
        ← hj.split_label (mt flagArgs_eq_nil_iff.mp (mt hphrase.mpr hunset)), hlabel]
  · intro hflags
    rw [label, label, hi.name, hj.name, flagArgs_eq_iff.mpr hflags]

/-- Labels tell entries without a name apart by their flags. As long as there is no space in their
texts, two such entries have the same label if and only if they agree on all flags; the phrase for
no flags is the label of those without any, and every other label gives back the arguments if it is
split at each space. The label of an entry of an accepted batch, be it a name or not, has a
character that is not blank. -/
theorem label_identifies_flags :
    (∀ i j : Invocation, i.Unspaced → j.Unspaced → (i.label = j.label ↔ i.flags = j.flags)) ∧
    (∀ i : Invocation, i.Unspaced →
      (i.label = "(no flags)" ↔ i.flags = Flags.unset) ∧
      (i.flags ≠ Flags.unset → (i.label.split ' ').toList.map (·.copy) = i.flagArgs)) ∧
    ∀ (raw : Batch) (b : ValidBatch), raw.validate = .ok b →
      ∀ i ∈ raw.invocations, Text.SaysSomething i.label := by
  refine ⟨fun i j hi hj => hi.label_eq_iff hj, fun i hi => ⟨label_eq_phrase_iff hi.name, ?_⟩, ?_⟩
  · intro hset
    exact hi.split_label (mt flagArgs_eq_nil_iff.mp hset)
  · intro raw b hraw i hmem
    obtain rfl := Batch.validate_eq_ok_iff.mp hraw
    have hvalid := Batch.violation?_eq_none_iff.mp b.valid
    exact (hvalid.entries i hmem).saysSomething_label

/-- A directory that reads like a flag, against two empty texts: the labels differ in spaces only.
The first entry stands in a batch with a named one and one without flags. -/
theorem label_identifies_flags_of_misleading_texts :
    let i : Invocation := { outDir := some "--dataset" }
    let j : Invocation := { outDir := some "", dataset := some "" }
    let b : ValidBatch :=
      ⟨{ settings := {}, invocations := [i, { name := some " (no flags)" }, {}] }, by decide⟩
    i.Unspaced ∧ j.Unspaced ∧ i.label ≠ j.label ∧ i.label ≠ "(no flags)" ∧
      (j.label.split ' ').toList.map (·.copy) = ["--out_dir", "", "--dataset", ""] ∧
      b.batch.validate = .ok b ∧ ∀ e ∈ b.batch.invocations, Text.SaysSomething e.label := by
  intro i j b
  have hi : i.Unspaced := ⟨rfl, by simp [i], by simp [i]⟩
  have hj : j.Unspaced := ⟨rfl, by simp [j], by simp [j]⟩
  obtain ⟨hlabels, hparts, hbatches⟩ := label_identifies_flags
  obtain ⟨hphrase, -⟩ := hparts i hi
  obtain ⟨-, hsplit⟩ := hparts j hj
  refine ⟨hi, hj, ?_, ?_, hsplit (by decide), b.validate_batch, hbatches _ b b.validate_batch⟩
  · exact mt (hlabels i j hi hj).mp (by decide)
  · exact mt hphrase.mp (by decide)

-- a space in a text can make it look like another flag
example : ({ outDir := some "a --dataset b" } : Invocation).label =
    ({ outDir := some "a", dataset := some "b" } : Invocation).label := by
  decide

end Invocation

end ScriptBatch
