import ScriptBatch.Batch

/-!
# Flags and arguments

The flags of an entry can be read off its command. The arguments come in sections, most of which may
be missing, and the values of a section may be any text, also one that looks like a flag. What tells
the sections apart is their order: a section ends where the arguments end, or where the flag of a
later section stands in a place that no value can have.
-/

namespace ScriptBatch

/-- What an entry asks of the script: all there is to it but its name and whether it is enabled. -/
structure Flags where
  plot : Bool
  normalize : Bool
  aptStats : Bool
  ignore : List Tag
  minApis : Option UInt32
  outDir : Option String
  dataset : Option String
  deriving Repr, DecidableEq

def Invocation.flags (i : Invocation) : Flags :=
  { plot := i.plot, normalize := i.normalize, aptStats := i.aptStats, ignore := i.ignore,
    minApis := i.minApis, outDir := i.outDir, dataset := i.dataset }

def Flags.entry (f : Flags) : Invocation :=
  { plot := f.plot, normalize := f.normalize, aptStats := f.aptStats, ignore := f.ignore,
    minApis := f.minApis, outDir := f.outDir, dataset := f.dataset }

theorem Invocation.flagArgs_entry_flags (i : Invocation) : i.flags.entry.flagArgs = i.flagArgs :=
  rfl

/-- The arguments are at their end, or go on with one of these flags. -/
def OpensWith (flags args : List String) : Prop := ∀ token, args.head? = some token → token ∈ flags

theorem opensWith_nil (flags : List String) : OpensWith flags [] := by simp [OpensWith]

theorem OpensWith.mem {flags rest : List String} {token : String}
    (h : OpensWith flags (token :: rest)) : token ∈ flags := h token rfl

theorem OpensWith.append {flag : String} {flags args rest : List String}
    (h : OpensWith [flag] args) (hrest : OpensWith flags rest) :
    OpensWith (flag :: flags) (args ++ rest) := by
  intro token htoken
  cases args with
  | nil => exact List.mem_cons_of_mem _ (hrest token htoken)
  | cons first args =>
    obtain rfl : first = token := by simpa using htoken
    obtain rfl : first = flag := by simpa using h.mem
    exact List.mem_cons_self

/-- A section of the arguments gives its value away, and where it ends, as long as what follows is
nothing or begins with one of these flags. -/
def Delimited {α : Type} (flags : List String) (args : Invocation → List String)
    (value : Invocation → α) : Prop :=
  ∀ ⦃i j : Invocation⦄ ⦃rest rest' : List String⦄, OpensWith flags rest → OpensWith flags rest' →
    args i ++ rest = args j ++ rest' → value i = value j ∧ rest = rest'

section Delimited

variable {α β : Type} {flags : List String} {args args' : Invocation → List String}
  {value : Invocation → α} {value' : Invocation → β}

/-- For a section that may be missing: its first argument shows that it is there, so only two
sections that are both there remain to be compared. -/
theorem delimited_of_present (hfirst : ∀ i token, (args i).head? = some token → token ∉ flags)
    (habsent : ∀ i j, args i = [] → args j = [] → value i = value j)
    (hpresent : ∀ i j rest rest', args i ≠ [] → args j ≠ [] → OpensWith flags rest →
      OpensWith flags rest' → args i ++ rest = args j ++ rest' → value i = value j ∧ rest = rest') :
    Delimited flags args value := by
  have hmissing {k : Invocation} {rest : List String} (h : OpensWith flags (args k ++ rest)) :
      args k = [] := by
    cases hk : args k with
    | nil => rfl
    | cons token more =>
      rw [hk] at h
      exact absurd h.mem (hfirst k token (by simp [hk]))
  intro i j rest rest' hrest hrest' heq
  by_cases hi : args i = []
  · rw [hi, List.nil_append] at heq
    have hj : args j = [] := hmissing (heq ▸ hrest)
    exact ⟨habsent i j hi hj, by rw [heq, hj, List.nil_append]⟩
  · by_cases hj : args j = []
    · rw [hj, List.nil_append] at heq
      exact absurd (hmissing (heq.symm ▸ hrest')) hi
    · exact hpresent i j rest rest' hi hj hrest hrest' heq

/-- Two sections are delimited if the first is by the flag of the second as well. -/
theorem Delimited.append {flag : String} (h : Delimited (flag :: flags) args value)
    (h' : Delimited flags args' value') (hopens : ∀ i, OpensWith [flag] (args' i)) :
    Delimited flags (fun i => args i ++ args' i) (fun i => (value i, value' i)) := by
  intro i j rest rest' hrest hrest' heq
  simp only [List.append_assoc] at heq
  obtain ⟨hvalue, heq'⟩ := h ((hopens i).append hrest) ((hopens j).append hrest') heq
  obtain ⟨hvalue', htail⟩ := h' hrest hrest' heq'
  exact ⟨Prod.ext hvalue hvalue', htail⟩

end Delimited

def valueArgs (flag : String) : Option String → List String
  | none => []
  | some text => [flag, text]

theorem opensWith_valueArgs (flag : String) (text : Option String) :
    OpensWith [flag] (valueArgs flag text) := by
  cases text <;> simp [OpensWith, valueArgs]

/-- A flag has exactly one value, which therefore ends the section whatever it is. -/
theorem delimited_valueArgs {flag : String} {flags : List String} (h : flag ∉ flags)
    (value : Invocation → Option String) :
    Delimited flags (fun i => valueArgs flag (value i)) value := by
  apply delimited_of_present
  · intro i token htoken
    obtain rfl : token = flag := by
      simpa using opensWith_valueArgs flag (value i) token htoken
    exact h
  · intro i j hi hj
    cases hvalue : value i <;> cases hvalue' : value j <;> simp_all [valueArgs]
  · intro i j rest rest' hi hj _ _ heq
    cases hvalue : value i <;> cases hvalue' : value j <;> simp_all [valueArgs]

/-- The words of a list of tags end where a flag begins, because no tag is called like a flag. -/
theorem Tag.map_name_append_inj {flags : List String} (hname : ∀ t : Tag, t.name ∉ flags)
    {rest rest' : List String} (hrest : OpensWith flags rest) (hrest' : OpensWith flags rest')
    {tags tags' : List Tag} (h : tags.map name ++ rest = tags'.map name ++ rest') :
    tags = tags' ∧ rest = rest' := by
  induction tags generalizing tags' with
  | nil =>
    cases tags' with
    | nil => exact ⟨rfl, h⟩
    | cons tag' more' =>
      rw [List.map_nil, List.nil_append] at h
      rw [h] at hrest
      exact absurd hrest.mem (hname tag')
  | cons tag more ih =>
    cases tags' with
    | nil =>
      rw [List.map_nil, List.nil_append] at h
      rw [← h] at hrest'
      exact absurd hrest'.mem (hname tag)
    | cons tag' more' =>
      obtain ⟨htag, hmore⟩ := List.cons.inj h
      obtain ⟨rfl, htail⟩ := ih hmore
      exact ⟨by rw [name_injective htag], htail⟩

namespace Invocation

def switches (i : Invocation) : Bool × Bool × Bool := (i.plot, i.normalize, i.aptStats)

/-- Each switch has a letter of its own, and is on exactly if its letter is in the group. -/
theorem switches_eq_contains (i : Invocation) :
    i.switches = (i.switchLetters.contains 'p', i.switchLetters.contains 'n',
      i.switchLetters.contains 'a') := by
  cases hp : i.plot <;> cases hn : i.normalize <;> cases ha : i.aptStats <;>
    simp [switches, switchLetters, hp, hn, ha]

theorem switchArgs_eq (i : Invocation) :
    i.switchArgs =
      if i.switchLetters = [] then [] else [String.ofList ('-' :: i.switchLetters)] := by
  cases h : i.switchLetters <;> simp [switchArgs, h]

/-- A cluster of letters has a single dash in front, and a flag has two. -/
theorem not_mem_of_mem_switchArgs (i : Invocation) :
    ∀ token ∈ i.switchArgs, token ∉ ["--ignore", "--min_apis", "--out_dir", "--dataset"] := by
  unfold switchArgs switchLetters
  cases i.plot <;> cases i.normalize <;> cases i.aptStats <;> decide

/-- The group of switches is told apart from what follows by its single dash. -/
theorem delimited_switchArgs :
    Delimited ["--ignore", "--min_apis", "--out_dir", "--dataset"] switchArgs switches := by
  have hswitches {i j : Invocation} (h : i.switchLetters = j.switchLetters) :
      i.switches = j.switches := by
    rw [switches_eq_contains, switches_eq_contains, h]
  apply delimited_of_present
  · intro i token htoken
    exact i.not_mem_of_mem_switchArgs token (List.mem_of_mem_head? htoken)
  · intro i j hi hj
    exact hswitches (by simp_all [switchArgs_eq])
  · intro i j rest rest' hi hj _ _ heq
    obtain ⟨hcluster, htail⟩ : i.switchLetters = j.switchLetters ∧ rest = rest' := by
      simp_all [switchArgs_eq, String.ofList_inj]
    exact ⟨hswitches hcluster, htail⟩

theorem opensWith_ignoreArgs (i : Invocation) : OpensWith ["--ignore"] i.ignoreArgs := by
  unfold ignoreArgs
  split <;> simp [OpensWith]

theorem ignoreArgs_eq (i : Invocation) :
    i.ignoreArgs = if i.ignore = [] then [] else "--ignore" :: i.ignore.map Tag.name := by
  cases h : i.ignore <;> simp [ignoreArgs, h]

/-- No tag reads like a flag, so the tags end before the next one. -/
theorem delimited_ignoreArgs :
    Delimited ["--min_apis", "--out_dir", "--dataset"] ignoreArgs ignore := by
  apply delimited_of_present
  · intro i token htoken
    obtain rfl : token = "--ignore" := by
      simpa using i.opensWith_ignoreArgs token htoken
    decide
  · intro i j hi hj
    simp_all [ignoreArgs_eq]
  · intro i j rest rest' hi hj hrest hrest' heq
    have htags : i.ignore.map Tag.name ++ rest = j.ignore.map Tag.name ++ rest' := by
      simp_all [ignoreArgs_eq]
    have hname (t : Tag) : t.name ∉ ["--min_apis", "--out_dir", "--dataset"] := by
      cases t <;> decide
    exact Tag.map_name_append_inj hname hrest hrest' htags

theorem minApisArgs_eq (i : Invocation) :
    i.minApisArgs = valueArgs "--min_apis" (i.minApis.map fun n => n.toNat.repr) := by
  cases h : i.minApis <;> simp [minApisArgs, valueArgs, h]

theorem outDirArgs_eq (i : Invocation) : i.outDirArgs = valueArgs "--out_dir" i.outDir := by
  cases h : i.outDir <;> simp [outDirArgs, valueArgs, h]

theorem datasetArgs_eq (i : Invocation) : i.datasetArgs = valueArgs "--dataset" i.dataset := by
  cases h : i.dataset <;> simp [datasetArgs, valueArgs, h]

/-- A threshold can be read back from its digits. -/
theorem map_repr_toNat_inj {n m : Option UInt32}
    (h : n.map (fun n => n.toNat.repr) = m.map fun n => n.toNat.repr) : n = m := by
  have hread (k : UInt32) : Nat.ofDigitChars 10 k.toNat.repr.toList 0 = k.toNat := by
    rw [Nat.toList_repr, Nat.ofDigitChars_toDigits (by decide) (by decide)]
  cases n with
  | none => cases m <;> simp_all
  | some k =>
    cases m with
    | none => simp at h
    | some l =>
      have hdigits : k.toNat.repr = l.toNat.repr := by simpa using h
      have hnat : k.toNat = l.toNat := by rw [← hread k, ← hread l, hdigits]
      rw [UInt32.toNat_inj.mp hnat]

theorem delimited_minApisArgs : Delimited ["--out_dir", "--dataset"] minApisArgs minApis := by
  intro i j rest rest' hrest hrest' heq
  rw [minApisArgs_eq, minApisArgs_eq] at heq
  obtain ⟨hdigits, htail⟩ := delimited_valueArgs (by decide)
    (fun i => i.minApis.map fun n => n.toNat.repr) hrest hrest' heq
  exact ⟨map_repr_toNat_inj hdigits, htail⟩

theorem delimited_outDirArgs : Delimited ["--dataset"] outDirArgs outDir := by
  rw [funext outDirArgs_eq]
  exact delimited_valueArgs (by decide) outDir

theorem delimited_datasetArgs : Delimited [] datasetArgs dataset := by
  rw [funext datasetArgs_eq]
  exact delimited_valueArgs (by decide) dataset

/-- All sections, each of which ends where the flag of any later one stands. -/
theorem delimited_flagArgs :
    Delimited [] flagArgs fun i =>
      ((((i.switches, i.ignore), i.minApis), i.outDir), i.dataset) := by
  have hignore := delimited_switchArgs.append delimited_ignoreArgs opensWith_ignoreArgs
  have hminApis := hignore.append delimited_minApisArgs fun i =>
    i.minApisArgs_eq ▸ opensWith_valueArgs _ _
  have houtDir := hminApis.append delimited_outDirArgs fun i =>
    i.outDirArgs_eq ▸ opensWith_valueArgs _ _
  exact houtDir.append delimited_datasetArgs fun i => i.datasetArgs_eq ▸ opensWith_valueArgs _ _

/-- Different flags have different arguments, and only they do. -/
theorem flagArgs_eq_iff {i j : Invocation} : i.flagArgs = j.flagArgs ↔ i.flags = j.flags := by
  constructor
  · intro h
    obtain ⟨hvalues, -⟩ := delimited_flagArgs (opensWith_nil []) (opensWith_nil [])
      (congrArg (· ++ []) h)
    simp only [switches, Prod.mk.injEq] at hvalues
    obtain ⟨⟨⟨⟨⟨hplot, hnormalize, haptStats⟩, hignore⟩, hminApis⟩, houtDir⟩, hdataset⟩ := hvalues
    simp [flags, hplot, hnormalize, haptStats, hignore, hminApis, houtDir, hdataset]
  · intro h
    rw [← i.flagArgs_entry_flags, ← j.flagArgs_entry_flags, h]

end Invocation

/-- Nothing of the argument list gets lost on the way to the command. -/
theorem Command.resolve_eq_iff (interpreter : Option String) (script : String)
    {args args' : List String} (workingDir : Option String) :
    resolve interpreter (script :: args) workingDir =
      resolve interpreter (script :: args') workingDir ↔ args = args' := by
  cases interpreter <;> simp [resolve]

namespace Settings

/-- Under the same settings two entries run the same command exactly if they have the same flags.
-/
theorem commandFor_eq_iff (s : Settings) {i j : Invocation} :
    s.commandFor i = s.commandFor j ↔ i.flags = j.flags := by
  rw [commandFor, commandFor, Invocation.argv, Invocation.argv, Command.resolve_eq_iff,
    List.cons_inj_right, Invocation.flagArgs_eq_iff]

/-- Rendering loses no flag: two entries have the same command, under any settings, with or without
an interpreter, if and only if they agree on all flags, and so it is with their arguments. The texts
among the flags may be empty, or read like flags themselves. -/
theorem commandFor_determines_flags (s : Settings) (i j : Invocation) :
    (s.commandFor i = s.commandFor j ↔ i.flags = j.flags) ∧
      (i.flagArgs = j.flagArgs ↔ i.flags = j.flags) :=
  ⟨s.commandFor_eq_iff, Invocation.flagArgs_eq_iff⟩

end Settings

end ScriptBatch
