import ScriptBatch.Proofs.Flags
import ScriptBatch.Proofs.Refinement
import ScriptBatch.Proofs.Validity

/-!
# The form of commands

What a valid batch hands to its backend is fit to be started. Every word of a command comes from a
text that was checked, from the interpreter, which is trimmed and counts only if something is left
of it, or from the fixed vocabulary of flags, tags and numbers. No tag is repeated, so there are at
most as many of them as there are tags, and a command has a greatest length.
-/

namespace ScriptBatch

namespace Text

/-- There is no blank at either end. -/
structure Trimmed (s : String) : Prop where
  first : ∀ c, s.toList.head? = some c → isBlank c = false
  last : ∀ c, s.toList.getLast? = some c → isBlank c = false

theorem eq_false_of_head?_dropWhile {p : Char → Bool} {l : List Char} {c : Char}
    (h : (l.dropWhile p).head? = some c) : p c = false := by
  have hfirst := List.head?_dropWhile_not p l
  rwa [h] at hfirst

/-- Trimming leaves a text that neither starts nor ends in a blank. -/
theorem trimmed_trim (s : String) : Trimmed (trim s) where
  first := by
    intro c hc
    rw [toList_trim, trimChars, List.head?_reverse] at hc
    -- what is dropped at the end leaves the beginning as it is
    have hfront : (s.toList.dropWhile isBlank).reverse.getLast? = some c := by
      obtain ⟨dropped, hdropped⟩ :=
        List.dropWhile_suffix isBlank (l := (s.toList.dropWhile isBlank).reverse)
      rw [← hdropped, List.getLast?_append, hc]
      rfl
    rw [List.getLast?_reverse] at hfront
    exact eq_false_of_head?_dropWhile hfront
  last := by
    intro c hc
    rw [toList_trim, trimChars, List.getLast?_reverse] at hc
    exact eq_false_of_head?_dropWhile hc

/-- Text without blanks around it is empty or says something. -/
theorem Trimmed.saysSomething {s : String} (h : Trimmed s) (hne : s ≠ "") : SaysSomething s := by
  have hchars : s.toList ≠ [] := by simpa using hne
  obtain ⟨c, rest, hs⟩ := List.exists_cons_of_ne_nil hchars
  exact ⟨c, by simp [hs], h.first c (by simp [hs])⟩

theorem isBlank_of_isDigit {c : Char} (h : c.isDigit = true) : isBlank c = false := by
  have hcode : 48 ≤ c.toNat ∧ c.toNat ≤ 57 := by
    simpa [Char.isDigit, UInt32.le_iff_toNat_le] using h
  rw [← Bool.not_eq_true, isBlank, Ranges.covers_iff]
  rintro ⟨range, hrange, hge, hle⟩
  simp only [blankRanges, List.mem_cons, List.not_mem_nil, or_false] at hrange
  rcases hrange with rfl | rfl | rfl | rfl | rfl | rfl | rfl | rfl | rfl | rfl <;> omega

def isUnbroken (s : String) : Bool := !s.isEmpty && s.toList.all (!isBlank ·)

theorem isUnbroken_iff {s : String} :
    isUnbroken s = true ↔ s.toList ≠ [] ∧ ∀ c ∈ s.toList, isBlank c = false := by
  simp [isUnbroken]

theorem saysSomething_of_isUnbroken {s : String} (h : isUnbroken s = true) : SaysSomething s := by
  obtain ⟨hne, hchars⟩ := isUnbroken_iff.mp h
  obtain ⟨c, hc⟩ := List.exists_mem_of_ne_nil _ hne
  exact ⟨c, hc, hchars c hc⟩

theorem not_mem_of_isUnbroken {s : String} (h : isUnbroken s = true) {c : Char}
    (hc : isBlank c = true) : c ∉ s.toList := by
  intro hmem
  exact absurd hc (by simp [(isUnbroken_iff.mp h).2 c hmem])

theorem isUnbroken_repr (n : Nat) : isUnbroken n.repr = true := by
  rw [isUnbroken_iff, Nat.toList_repr]
  refine ⟨Nat.toDigits_ne_nil, fun c hc => isBlank_of_isDigit ?_⟩
  exact Nat.isDigit_of_mem_toDigits (by decide) (by decide) hc

end Text

/-- An interpreter that takes effect is trimmed, and something is left of it. -/
theorem Settings.effectiveInterpreter_eq_some {s : Settings} {program : String}
    (h : s.effectiveInterpreter = some program) :
    Text.Trimmed program ∧ Text.SaysSomething program := by
  obtain ⟨htrim, hne⟩ := Option.filter_eq_some_iff.mp h
  obtain ⟨text, -, rfl⟩ := Option.map_eq_some_iff.mp htrim
  have htrimmed := Text.trimmed_trim text
  exact ⟨htrimmed, htrimmed.saysSomething (by simpa using hne)⟩

theorem Tag.isUnbroken_name (t : Tag) : Text.isUnbroken t.name = true := by
  cases t <;> decide

/-- Different tags are no more than there are. -/
theorem Tag.length_le_of_nodup {tags : List Tag} (h : tags.Nodup) : tags.length ≤ 5 := by
  have hall : tags ⊆ Tag.all := fun t _ => t.mem_all
  exact h.length_le_of_subset hall

/-- Different tags have different names, so tags that do not repeat give words that do not. -/
theorem Tag.nodup_map_name {tags : List Tag} (h : tags.Nodup) : (tags.map name).Nodup :=
  List.Pairwise.map name (fun _ _ hne heq => hne (name_injective heq)) h

theorem eq_or_eq_some_of_mem_valueArgs {flag arg : String} {text : Option String}
    (h : arg ∈ valueArgs flag text) : arg = flag ∨ text = some arg := by
  cases text with
  | none => simp [valueArgs] at h
  | some s => simpa [valueArgs, eq_comm] using h

theorem length_valueArgs_le (flag : String) (text : Option String) :
    (valueArgs flag text).length ≤ 2 := by
  cases text <;> simp [valueArgs]

namespace Invocation

theorem length_switchArgs_le (i : Invocation) : i.switchArgs.length ≤ 1 := by
  rw [switchArgs_eq]
  split <;> simp

/-- There are five tags. If none repeats, the section has at most these and its flag. -/
theorem length_ignoreArgs_le {i : Invocation} (h : i.ignore.Nodup) : i.ignoreArgs.length ≤ 6 := by
  have htags := Tag.length_le_of_nodup h
  rw [ignoreArgs_eq]
  split
  · simp
  · rw [List.length_cons, List.length_map]
    omega

/-- One group of switches, six words about tags, and three flags with a value each. -/
theorem length_flagArgs_le {i : Invocation} (h : i.ignore.Nodup) : i.flagArgs.length ≤ 13 := by
  have hswitches := i.length_switchArgs_le
  have hignore := length_ignoreArgs_le h
  have hminApis := length_valueArgs_le "--min_apis" (i.minApis.map fun n => n.toNat.repr)
  have houtDir := length_valueArgs_le "--out_dir" i.outDir
  have hdataset := length_valueArgs_le "--dataset" i.dataset
  simp only [flagArgs, List.length_append, minApisArgs_eq, outDirArgs_eq, datasetArgs_eq]
  omega

theorem isUnbroken_of_mem_switchArgs (i : Invocation) :
    ∀ arg ∈ i.switchArgs, Text.isUnbroken arg = true := by
  unfold switchArgs switchLetters
  cases i.plot <;> cases i.normalize <;> cases i.aptStats <;> decide

theorem isUnbroken_of_mem_ignoreArgs (i : Invocation) :
    ∀ arg ∈ i.ignoreArgs, Text.isUnbroken arg = true := by
  intro arg harg
  rw [ignoreArgs_eq] at harg
  split at harg
  · simp at harg
  · rcases List.mem_cons.mp harg with rfl | htag
    · decide
    · obtain ⟨t, -, rfl⟩ := List.mem_map.mp htag
      exact t.isUnbroken_name

/-- Where the arguments of an entry come from: all but two texts of the entry are flags, tags and
numbers, which have no blank. -/
theorem isUnbroken_or_of_mem_flagArgs {i : Invocation} {arg : String} (h : arg ∈ i.flagArgs) :
    Text.isUnbroken arg = true ∨ i.outDir = some arg ∨ i.dataset = some arg := by
  simp only [flagArgs, List.mem_append, minApisArgs_eq, outDirArgs_eq, datasetArgs_eq] at h
  rcases h with (((h | h) | h) | h) | h
  · exact .inl (i.isUnbroken_of_mem_switchArgs arg h)
  · exact .inl (i.isUnbroken_of_mem_ignoreArgs arg h)
  · rcases eq_or_eq_some_of_mem_valueArgs h with rfl | h
    · exact .inl (by decide)
    · obtain ⟨n, -, rfl⟩ := Option.map_eq_some_iff.mp h
      exact .inl (Text.isUnbroken_repr n.toNat)
  · rcases eq_or_eq_some_of_mem_valueArgs h with rfl | h
    · exact .inl (by decide)
    · exact .inr (.inl h)
  · rcases eq_or_eq_some_of_mem_valueArgs h with rfl | h
    · exact .inl (by decide)
    · exact .inr (.inr h)

/-- A blank is in no argument if it is in neither text of the entry. -/
theorem not_mem_of_mem_flagArgs {i : Invocation} {c : Char} (hc : Text.isBlank c = true)
    (houtDir : ∀ text, i.outDir = some text → c ∉ text.toList)
    (hdataset : ∀ text, i.dataset = some text → c ∉ text.toList) :
    ∀ arg ∈ i.flagArgs, c ∉ arg.toList := by
  intro arg harg
  rcases isUnbroken_or_of_mem_flagArgs harg with h | h | h
  · exact Text.not_mem_of_isUnbroken h hc
  · exact houtDir arg h
  · exact hdataset arg h

/-- Every flag and every value says something. -/
theorem WellFormed.saysSomething_of_mem_flagArgs {i : Invocation} (h : i.WellFormed) :
    ∀ arg ∈ i.flagArgs, Text.SaysSomething arg := by
  intro arg harg
  rcases isUnbroken_or_of_mem_flagArgs harg with hword | houtDir | hdataset
  · exact Text.saysSomething_of_isUnbroken hword
  · exact h.outDir arg houtDir
  · exact h.dataset arg hdataset

end Invocation

def isLongFlag (word : String) : Bool := word.toList.take 2 == ['-', '-']

/-- The words behind `--ignore`, if the flags of a command have such a section. It is the first with
a long flag, and goes on to the next one. -/
def ignoreSection? (flags : List String) : Option (List String) :=
  match flags.dropWhile (!isLongFlag ·) with
  | [] => none
  | flag :: rest => if flag = "--ignore" then some (rest.takeWhile (!isLongFlag ·)) else none

theorem OpensWith.takeWhile_eq_nil {flags args : List String} (h : OpensWith flags args)
    (hlong : ∀ flag ∈ flags, isLongFlag flag = true) : args.takeWhile (!isLongFlag ·) = [] := by
  cases args with
  | nil => rfl
  | cons first rest => simp [hlong first h.mem]

theorem OpensWith.dropWhile_eq_self {flags args : List String} (h : OpensWith flags args)
    (hlong : ∀ flag ∈ flags, isLongFlag flag = true) : args.dropWhile (!isLongFlag ·) = args := by
  cases args with
  | nil => rfl
  | cons first rest => simp [hlong first h.mem]

namespace Invocation

def valueSections (i : Invocation) : List String := i.minApisArgs ++ (i.outDirArgs ++ i.datasetArgs)

theorem opensWith_valueSections (i : Invocation) :
    OpensWith ["--min_apis", "--out_dir", "--dataset"] i.valueSections := by
  rw [valueSections, minApisArgs_eq, outDirArgs_eq, datasetArgs_eq]
  have hvalues := (opensWith_valueArgs "--out_dir" i.outDir).append
    (opensWith_valueArgs "--dataset" i.dataset)
  exact (opensWith_valueArgs "--min_apis" _).append hvalues

/-- The flags in three sections, as they are told apart below: switches, tags and values. -/
theorem flagArgs_eq_sections (i : Invocation) :
    i.flagArgs = i.switchArgs ++ (i.ignoreArgs ++ i.valueSections) := by
  simp [flagArgs, valueSections]

/-- The group of switches has a single dash, so it opens no section. -/
theorem isLongFlag_of_mem_switchArgs (i : Invocation) :
    ∀ arg ∈ i.switchArgs, isLongFlag arg = false := by
  unfold switchArgs switchLetters
  cases i.plot <;> cases i.normalize <;> cases i.aptStats <;> decide

/-- The section of the tags is there if there are tags, and gives their names. -/
theorem ignoreSection?_flagArgs (i : Invocation) :
    ignoreSection? i.flagArgs = if i.ignore = [] then none else some (i.ignore.map Tag.name) := by
  have hvalues := i.opensWith_valueSections
  have hdrop : i.flagArgs.dropWhile (!isLongFlag ·) = i.ignoreArgs ++ i.valueSections := by
    rw [flagArgs_eq_sections, List.dropWhile_append_of_pos]
    · exact (i.opensWith_ignoreArgs.append hvalues).dropWhile_eq_self (by decide)
    · intro arg harg
      simp [i.isLongFlag_of_mem_switchArgs arg harg]
  rw [ignoreSection?, hdrop, ignoreArgs_eq]
  by_cases hignore : i.ignore = []
  · rw [if_pos hignore, if_pos hignore, List.nil_append]
    cases hsections : i.valueSections with
    | nil => rfl
    | cons flag rest =>
      rw [hsections] at hvalues
      have hother : flag ≠ "--ignore" := by
        rintro rfl
        exact absurd hvalues.mem (by decide)
      exact if_neg hother
  · have htags : (i.ignore.map Tag.name ++ i.valueSections).takeWhile (!isLongFlag ·) =
        i.ignore.map Tag.name := by
      rw [List.takeWhile_append_of_pos, hvalues.takeWhile_eq_nil (by decide), List.append_nil]
      intro word hword
      obtain ⟨t, -, rfl⟩ := List.mem_map.mp hword
      cases t <;> decide
    rw [if_neg hignore, if_neg hignore]
    exact (if_pos rfl).trans (congrArg some htags)

end Invocation

namespace Command

/-- The section behind `--ignore` in a command. The flags come behind the script and the log
directory; without an interpreter the script is the program and no argument. -/
def ignoreSection? (interpreted : Bool) (c : Command) : Option (List String) :=
  ScriptBatch.ignoreSection? (c.args.drop (if interpreted then 2 else 1))

/-- A command that is fit to be started, through an interpreter or not. -/
structure WellFormed (interpreted : Bool) (c : Command) : Prop where
  program : Text.SaysSomething c.program
  args : ∀ arg ∈ c.args, Text.SaysSomething arg
  workingDir : ∀ dir, c.workingDir = some dir → Text.SaysSomething dir
  trimmed : interpreted = true → Text.Trimmed c.program
  ignored : ∀ words, c.ignoreSection? interpreted = some words →
    1 ≤ words.length ∧ words.length ≤ 5 ∧ words.Nodup
  length_le : c.args.length ≤ if interpreted then 15 else 14

end Command

namespace Settings

/-- With an interpreter, that is the program. -/
theorem commandFor_of_interpreter {s : Settings} {program : String}
    (h : s.effectiveInterpreter = some program) (i : Invocation) :
    s.commandFor i = ⟨program, s.script :: s.logDir :: i.flagArgs, s.workingDir⟩ := by
  simp [commandFor, Command.resolve, Invocation.argv, h]

/-- Without an interpreter, the script is the program. -/
theorem commandFor_of_direct {s : Settings} (h : s.effectiveInterpreter = none) (i : Invocation) :
    s.commandFor i = ⟨s.script, s.logDir :: i.flagArgs, s.workingDir⟩ := by
  simp [commandFor, Command.resolve, Invocation.argv, h]

/-- The section of the tags can be read off the command. -/
theorem ignoreSection?_commandFor (s : Settings) (i : Invocation) :
    (s.commandFor i).ignoreSection? s.effectiveInterpreter.isSome =
      if i.ignore = [] then none else some (i.ignore.map Tag.name) := by
  rw [← i.ignoreSection?_flagArgs]
  cases h : s.effectiveInterpreter with
  | none => rw [commandFor_of_direct h]; rfl
  | some program => rw [commandFor_of_interpreter h]; rfl

/-- What a command ignores, read off its arguments: between one and five words, none twice. -/
theorem forall_ignoreSection?_commandFor (s : Settings) {i : Invocation} (h : i.ignore.Nodup) :
    ∀ words, (s.commandFor i).ignoreSection? s.effectiveInterpreter.isSome = some words →
      1 ≤ words.length ∧ words.length ≤ 5 ∧ words.Nodup := by
  intro words hwords
  rw [ignoreSection?_commandFor] at hwords
  split at hwords
  · simp at hwords
  · rename_i htags
    obtain rfl := Option.some.inj hwords
    rw [List.length_map]
    exact ⟨List.length_pos_iff.mpr htags, Tag.length_le_of_nodup h, Tag.nodup_map_name h⟩

/-- Well-formed settings and entries give well-formed commands. -/
theorem WellFormed.wellFormed_commandFor {s : Settings} (h : s.WellFormed) {i : Invocation}
    (hi : i.WellFormed) : (s.commandFor i).WellFormed s.effectiveInterpreter.isSome := by
  have hflags := hi.saysSomething_of_mem_flagArgs
  have hlength := Invocation.length_flagArgs_le hi.ignore
  have hignored := s.forall_ignoreSection?_commandFor hi.ignore
  cases hinterpreter : s.effectiveInterpreter with
  | none =>
    rw [hinterpreter] at hignored
    rw [commandFor_of_direct hinterpreter] at hignored ⊢
    refine ⟨h.script, ?_, h.workingDir, by simp, hignored, ?_⟩
    · simpa using ⟨h.logDir, hflags⟩
    · exact Nat.add_le_add_right hlength 1
  | some program =>
    obtain ⟨htrimmed, hprogram⟩ := effectiveInterpreter_eq_some hinterpreter
    rw [hinterpreter] at hignored
    rw [commandFor_of_interpreter hinterpreter] at hignored ⊢
    refine ⟨hprogram, ?_, h.workingDir, fun _ => htrimmed, hignored, ?_⟩
    · simpa using ⟨h.script, h.logDir, hflags⟩
    · exact Nat.add_le_add_right hlength 2

end Settings

namespace Batch

variable {σ : Type} {b : Batch}

theorem mem_invocations_of_mem_enabled {entry : Nat × Invocation} (h : entry ∈ b.enabled) :
    entry.2 ∈ b.invocations := by
  have hentry : entry.2 ∈ b.invocations.filter (·.enabled) := by
    rw [← map_snd_enabled]
    exact List.mem_map_of_mem h
  exact (List.mem_filter.mp hentry).1

/-- Whatever holds of the commands of all entries holds of the commands that are sent. -/
theorem forall_mem_runCalls {P : Command → Prop} (h : ∀ i ∈ b.invocations, P (b.commandFor i))
    (backend : Backend σ) (s : σ) : ∀ c ∈ b.runCalls backend s, P c.command := by
  intro c hc
  have hcommand : c.command ∈ b.enabled.map fun e => b.commandFor e.2 := by
    rw [← map_command_calls b backend s]
    exact List.mem_map_of_mem ((b.runCalls_prefix_calls backend s).subset hc)
  obtain ⟨entry, hentry, heq⟩ := List.mem_map.mp hcommand
  exact heq ▸ h entry.2 (mem_invocations_of_mem_enabled hentry)

/-- Every command that an accepted batch can give is fit to be started: the program and all
arguments say something, and so does the working directory, if there is one; an interpreter has no
blanks around it; the tags behind `--ignore` are those of the entry, and from one to five different
ones; there are at most fifteen arguments, or fourteen if the script is started directly. This goes
for all entries, and hence for what is reported by a run and for what its backend receives. -/
theorem commands_wellFormed {raw : Batch} {b : ValidBatch} (h : raw.validate = .ok b) :
    let interpreted := raw.settings.effectiveInterpreter.isSome
    (∀ i ∈ raw.invocations,
      (b.batch.commandFor i).WellFormed interpreted ∧
      (b.batch.commandFor i).ignoreSection? interpreted =
        if i.ignore = [] then none else some (i.ignore.map Tag.name)) ∧
    ∀ (σ : Type) (backend : Backend σ) (s : σ),
      (∀ r ∈ (b.batch.run backend s).report.results, r.command.WellFormed interpreted) ∧
      ∀ x ∈ b.batch.exchanges backend s, x.1.WellFormed interpreted := by
  intro interpreted
  obtain rfl := validate_eq_ok_iff.mp h
  have hvalid := violation?_eq_none_iff.mp b.valid
  have hcommands : ∀ i ∈ b.batch.invocations, (b.batch.commandFor i).WellFormed interpreted :=
    fun i hi => hvalid.settings.wellFormed_commandFor (hvalid.entries i hi)
  refine ⟨fun i hi => ⟨hcommands i hi, b.batch.settings.ignoreSection?_commandFor i⟩, ?_⟩
  intro σ backend s
  have hsent := forall_mem_runCalls hcommands backend s
  constructor
  · intro r hr
    rw [results_run] at hr
    obtain ⟨c, hc, rfl⟩ := List.mem_map.mp hr
    exact hsent c hc
  · intro x hx
    rw [exchanges_eq] at hx
    obtain ⟨c, hc, rfl⟩ := List.mem_map.mp hx
    exact hsent c hc

/-- An entry with every flag and every tag, under an interpreter with blanks around it, has as many
arguments as there can be. -/
theorem commands_wellFormed_of_all_flags :
    let i : Invocation :=
      { plot := true, normalize := true, aptStats := true, ignore := Tag.all, minApis := some 0,
        outDir := some "--ignore", dataset := some " x" }
    let b : ValidBatch :=
      ⟨{ settings := { interpreter := some " sh\t", workingDir := some "." }, invocations := [i] },
        by decide⟩
    b.batch.validate = .ok b ∧ i ∈ b.batch.invocations ∧ (b.batch.commandFor i).args.length = 15 ∧
      (b.batch.commandFor i).WellFormed true ∧
      (b.batch.commandFor i).ignoreSection? true = some (Tag.all.map Tag.name) := by
  intro i b
  have haccepted : b.batch.validate = .ok b := b.validate_batch
  have hi : i ∈ b.batch.invocations := List.mem_singleton_self i
  obtain ⟨hcommands, -⟩ := commands_wellFormed haccepted
  obtain ⟨hform, hsection⟩ := hcommands i hi
  exact ⟨haccepted, hi, by decide, hform, hsection⟩

end Batch

end ScriptBatch
