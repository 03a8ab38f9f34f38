import ScriptBatch.Violation

/-!
# Well-formed batches

A batch is accepted by looking at one entry after another, with the names and tags seen so far in
hand. What is accepted can be said without that order: every text says something, and no name and no
tag stands in two places. The link is that the names and tags in hand are always those of the
entries and tags that were looked at.
-/

namespace ScriptBatch

/-- The text has a character that is not blank. -/
def Text.SaysSomething (s : String) : Prop := ∃ c ∈ s.toList, isBlank c = false

theorem Text.isBlankText_eq_false_iff {s : String} : isBlankText s = false ↔ SaysSomething s := by
  simp [isBlankText, SaysSomething]

theorem Text.isBlankText_iff {s : String} : isBlankText s = true ↔ ¬ SaysSomething s := by
  rw [← isBlankText_eq_false_iff, Bool.not_eq_false]

theorem givenBlank_eq_false_iff {text : Option String} :
    givenBlank text = false ↔ ∀ s, text = some s → Text.SaysSomething s := by
  cases text with
  | none => simp [givenBlank]
  | some s => simp [givenBlank, Text.isBlankText_eq_false_iff]

/-- Nothing is repeated if the elements differ from each other and from those in front. -/
theorem firstRepeated_eq_none_iff {α : Type} [DecidableEq α] {seen l : List α} :
    firstRepeated seen l = none ↔ l.Nodup ∧ ∀ a ∈ l, a ∉ seen := by
  induction l generalizing seen with
  | nil => simp [firstRepeated]
  | cons a rest ih =>
    rw [firstRepeated, List.nodup_cons]
    by_cases ha : a ∈ seen
    · simp [ha]
    · rw [if_neg ha, ih]
      constructor
      · rintro ⟨hnodup, hrest⟩
        refine ⟨⟨fun hmem => hrest a hmem List.mem_cons_self, hnodup⟩, ?_⟩
        intro x hx
        rcases List.mem_cons.mp hx with rfl | hx
        · exact ha
        · exact fun hseen => hrest x hx (List.mem_cons_of_mem _ hseen)
      · rintro ⟨⟨hfirst, hnodup⟩, hseen⟩
        refine ⟨hnodup, fun x hx hmem => ?_⟩
        rcases List.mem_cons.mp hmem with rfl | hmem
        · exact hfirst hx
        · exact hseen x (List.mem_cons_of_mem _ hx) hmem

/-- The texts of the settings say something. -/
structure Settings.WellFormed (s : Settings) : Prop where
  script : Text.SaysSomething s.script
  logDir : Text.SaysSomething s.logDir
  workingDir : ∀ dir, s.workingDir = some dir → Text.SaysSomething dir

/-- Validation finds nothing in the settings exactly if they are well formed. -/
theorem Settings.violation?_eq_none_iff {s : Settings} :
    s.violation? = none ↔ s.WellFormed := by
  have hchecks : s.violation? = none ↔ Text.isBlankText s.script = false ∧
      Text.isBlankText s.logDir = false ∧ givenBlank s.workingDir = false := by
    unfold violation?
    cases Text.isBlankText s.script <;> cases Text.isBlankText s.logDir <;> simp
  rw [hchecks, Text.isBlankText_eq_false_iff, Text.isBlankText_eq_false_iff,
    givenBlank_eq_false_iff]
  exact ⟨fun ⟨hscript, hlogDir, hdir⟩ => ⟨hscript, hlogDir, hdir⟩,
    fun h => ⟨h.script, h.logDir, h.workingDir⟩⟩

namespace Invocation

/-- The texts of an entry say something, and no tag stands in two places. -/
structure WellFormed (i : Invocation) : Prop where
  name : ∀ text, i.name = some text → Text.SaysSomething text
  ignore : i.ignore.Nodup
  outDir : ∀ text, i.outDir = some text → Text.SaysSomething text
  dataset : ∀ text, i.dataset = some text → Text.SaysSomething text

/-- If both entries have a name, it is not the same. -/
def NamesDiffer (i j : Invocation) : Prop := ∀ name, i.name = some name → j.name ≠ some name

theorem NamesDiffer.symm {i j : Invocation} (h : i.NamesDiffer j) : j.NamesDiffer i :=
  fun name hj hi => h name hi hj

theorem violation?_eq_none_iff {names : List String} {n : Nat} {i : Invocation} :
    i.violation? names n = none ↔
      i.WellFormed ∧ ∀ name, i.name = some name → name ∉ names := by
  have hnew : i.name.filter (· ∈ names) = none ↔ ∀ name, i.name = some name → name ∉ names := by
    simp [Option.filter_eq_none_iff]
  have hchecks : i.violation? names n = none ↔ givenBlank i.name = false ∧
      i.name.filter (· ∈ names) = none ∧ firstRepeated [] i.ignore = none ∧
      givenBlank i.outDir = false ∧ givenBlank i.dataset = false := by
    unfold violation?
    cases givenBlank i.name with
    | true => simp
    | false =>
      cases i.name.filter (· ∈ names) with
      | some name => simp
      | none =>
        cases firstRepeated [] i.ignore with
        | some tag => simp
        | none => cases givenBlank i.outDir <;> simp
  rw [hchecks, hnew, firstRepeated_eq_none_iff, givenBlank_eq_false_iff, givenBlank_eq_false_iff,
    givenBlank_eq_false_iff]
  constructor
  · rintro ⟨hname, hnames, ⟨htags, -⟩, hdir, hfile⟩
    exact ⟨⟨hname, htags, hdir, hfile⟩, hnames⟩
  · rintro ⟨⟨hname, htags, hdir, hfile⟩, hnames⟩
    exact ⟨hname, hnames, ⟨htags, by simp⟩, hdir, hfile⟩

end Invocation

/-- Entries are accepted one after another if they are well-formed and have names that are new among
them and to those before them. -/
theorem entriesViolation?_eq_none_iff {names : List String} {n : Nat} {entries : List Invocation} :
    entriesViolation? names n entries = none ↔
      (∀ i ∈ entries, i.WellFormed) ∧ entries.Pairwise Invocation.NamesDiffer ∧
        ∀ i ∈ entries, ∀ name, i.name = some name → name ∉ names := by
  induction entries generalizing names n with
  | nil => simp [entriesViolation?]
  | cons i rest ih =>
    have hscan : entriesViolation? names n (i :: rest) = none ↔ i.violation? names n = none ∧
        entriesViolation? (names ++ i.name.toList) (n + 1) rest = none := by
      rw [entriesViolation?]
      cases i.violation? names n <;> simp
    -- a name is new to those seen before the next entry if it is new and not that of this entry
    have hnew (j : Invocation) : (∀ name, j.name = some name → name ∉ names ++ i.name.toList) ↔
        i.NamesDiffer j ∧ ∀ name, j.name = some name → name ∉ names := by
      constructor
      · intro h
        refine ⟨fun name hi hj => h name hj ?_, fun name hj hmem => h name hj ?_⟩
        · simp [hi]
        · simp [hmem]
      · rintro ⟨hdiffer, hnames⟩ name hj hmem
        rcases List.mem_append.mp hmem with hmem | hmem
        · exact hnames name hj hmem
        · exact hdiffer name (by simpa using hmem) hj
    rw [hscan, Invocation.violation?_eq_none_iff, ih, List.pairwise_cons]
    simp only [List.forall_mem_cons, hnew]
    constructor
    · rintro ⟨⟨hi, hname⟩, hrest, hpairs, hnames⟩
      exact ⟨⟨hi, hrest⟩, ⟨fun j hj => (hnames j hj).1, hpairs⟩, hname,
        fun j hj => (hnames j hj).2⟩
    · rintro ⟨⟨hi, hrest⟩, ⟨hdiffer, hpairs⟩, hname, hnames⟩
      exact ⟨⟨hi, hname⟩, hrest, hpairs, fun j hj => ⟨hdiffer j hj, hnames j hj⟩⟩

namespace Batch

/-- What a batch has to be like. -/
structure WellFormed (b : Batch) : Prop where
  nonempty : b.invocations ≠ []
  settings : b.settings.WellFormed
  entries : ∀ i ∈ b.invocations, i.WellFormed
  names : b.invocations.Pairwise Invocation.NamesDiffer

theorem violation?_eq_none_iff {b : Batch} : b.violation? = none ↔ b.WellFormed := by
  have hchecks : b.violation? = none ↔ b.invocations ≠ [] ∧ b.settings.violation? = none ∧
      entriesViolation? [] 1 b.invocations = none := by
    unfold violation?
    cases b.invocations with
    | nil => simp
    | cons i rest => cases b.settings.violation? <;> simp
  rw [hchecks, Settings.violation?_eq_none_iff, entriesViolation?_eq_none_iff]
  constructor
  · rintro ⟨hnonempty, hsettings, hentries, hnames, -⟩
    exact ⟨hnonempty, hsettings, hentries, hnames⟩
  · rintro ⟨hnonempty, hsettings, hentries, hnames⟩
    exact ⟨hnonempty, hsettings, hentries, hnames, by simp⟩

/-- A batch is accepted as it is. -/
theorem validate_eq_ok_iff {b : Batch} {valid : ValidBatch} :
    b.validate = .ok valid ↔ valid.batch = b := by
  constructor
  · intro h
    unfold validate at h
    split at h
    · simp at h
    · obtain rfl := Except.ok.inj h
      rfl
  · rintro rfl
    exact valid.validate_batch

def withEntries (b : Batch) (entries : List Invocation) : Batch :=
  { b with invocations := entries }

/-- Entries can be left out, as long as one is kept. -/
theorem WellFormed.of_sublist {b : Batch} (h : b.WellFormed) {entries : List Invocation}
    (hpart : entries.Sublist b.invocations) (hnonempty : entries ≠ []) :
    (b.withEntries entries).WellFormed where
  nonempty := hnonempty
  settings := h.settings
  entries := fun i hi => h.entries i (hpart.subset hi)
  names := h.names.sublist hpart

/-- Entries can be put in another order. -/
theorem WellFormed.of_perm {b : Batch} (h : b.WellFormed) {entries : List Invocation}
    (hperm : entries.Perm b.invocations) : (b.withEntries entries).WellFormed where
  nonempty := fun hnil => h.nonempty (List.nil_perm.mp (hnil ▸ hperm))
  settings := h.settings
  entries := fun i hi => h.entries i (hperm.mem_iff.mp hi)
  names := (hperm.pairwise_iff Invocation.NamesDiffer.symm).mpr h.names

/-- A batch is accepted if and only if it is well-formed, and then as it is: there is an entry,
every text that is given has a character that is not blank, no two entries have the same name, and
no entry has the same tag twice. -/
theorem validate_accepts_iff (b : Batch) :
    ((∃ valid, b.validate = .ok valid) ↔ b.WellFormed) ∧
      ∀ valid, b.validate = .ok valid → valid.batch = b := by
  cases h : b.violation? with
  | some v =>
    have hinvalid : ¬ b.WellFormed := by simp [← violation?_eq_none_iff, h]
    simp [validate_of_violation h, hinvalid]
  | none =>
    have haccepted : b.validate = .ok ⟨b, h⟩ := ValidBatch.validate_batch ⟨b, h⟩
    refine ⟨⟨fun _ => violation?_eq_none_iff.mp h, fun _ => ⟨_, haccepted⟩⟩, ?_⟩
    intro valid hvalid
    obtain rfl : ⟨b, h⟩ = valid := by simpa [haccepted] using hvalid
    rfl

end Batch

end ScriptBatch
