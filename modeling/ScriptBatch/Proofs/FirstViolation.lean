import ScriptBatch.Proofs.Validity

/-!
# The first violation

A batch can break several rules at once, and one violation is reported. Which one can be said
without the scan: the checks of a batch have an order, and the violation is that of the first check
that is broken. The scan is a sequence of parts. Each of them looks at a range of checks and reports
the first broken one in it, and ranges that follow each other in the order can be put together.
-/

namespace ScriptBatch

/-- What is checked about an entry. -/
inductive EntryCheck where
  /-- A name says something. -/
  | name
  /-- A name is not that of an earlier entry. -/
  | newName
  /-- The tag at this position does not stand before it. -/
  | tag (position : Nat)
  | outDir
  | dataset

/-- What is checked about a batch. Positions are counted from zero. -/
inductive Check where
  | invocations
  | script
  | logDir
  | workingDir
  | entry (position : Nat) (check : EntryCheck)

def EntryCheck.key : EntryCheck → List Nat
  | name => [0]
  | newName => [1]
  | tag position => [2, position]
  | outDir => [3]
  | dataset => [4]

namespace Check

/-- The place of a check among all of them. Entries come in order, and so do the checks of each. -/
def key : Check → List Nat
  | invocations => [0]
  | script => [1]
  | logDir => [2]
  | workingDir => [3]
  | entry position check => 4 :: position :: check.key

/-- The first check comes before the second one: their places are compared lexicographically. -/
def Before (c d : Check) : Prop := c.key < d.key

instance (c d : Check) : Decidable (c.Before d) := inferInstanceAs (Decidable (c.key < d.key))

end Check

namespace Batch

/-- The batch breaks a rule at a check, which gives a violation. An entry is numbered from one, and
disabled ones count. -/
inductive Breaks (b : Batch) : Check → Violation → Prop
  | invocations (h : b.invocations = []) : Breaks b .invocations .noInvocations
  | script (h : ¬ Text.SaysSomething b.settings.script) : Breaks b .script .blankScript
  | logDir (h : ¬ Text.SaysSomething b.settings.logDir) : Breaks b .logDir .blankLogDir
  | workingDir {dir : String} (hdir : b.settings.workingDir = some dir)
      (h : ¬ Text.SaysSomething dir) : Breaks b .workingDir .blankWorkingDir
  | name {k : Nat} {i : Invocation} {text : String} (hi : b.invocations[k]? = some i)
      (hname : i.name = some text) (h : ¬ Text.SaysSomething text) :
      Breaks b (.entry k .name) (.blankName (k + 1))
  | newName {j k : Nat} {i earlier : Invocation} {text : String} (hi : b.invocations[k]? = some i)
      (hname : i.name = some text) (hj : j < k) (hearlier : b.invocations[j]? = some earlier)
      (h : earlier.name = some text) : Breaks b (.entry k .newName) (.repeatedName text)
  | tag {k p q : Nat} {i : Invocation} {t : Tag} (hi : b.invocations[k]? = some i)
      (ht : i.ignore[p]? = some t) (hq : q < p) (h : i.ignore[q]? = some t) :
      Breaks b (.entry k (.tag p)) (.repeatedTag (k + 1) t)
  | outDir {k : Nat} {i : Invocation} {text : String} (hi : b.invocations[k]? = some i)
      (hdir : i.outDir = some text) (h : ¬ Text.SaysSomething text) :
      Breaks b (.entry k .outDir) (.blankOutDir (k + 1))
  | dataset {k : Nat} {i : Invocation} {text : String} (hi : b.invocations[k]? = some i)
      (hfile : i.dataset = some text) (h : ¬ Text.SaysSomething text) :
      Breaks b (.entry k .dataset) (.blankDataset (k + 1))

/-- The check is broken, and none before it is. -/
structure FirstBroken (b : Batch) (c : Check) (v : Violation) : Prop where
  breaks : b.Breaks c v
  first : ∀ d w, b.Breaks d w → ¬ d.Before c

end Batch

theorem EntryCheck.key_injective {c d : EntryCheck} (h : c.key = d.key) : c = d := by
  cases c <;> cases d <;> simp_all [key]

namespace Check

theorem key_injective {c d : Check} (h : c.key = d.key) : c = d := by
  cases c <;> cases d <;> simp_all [key]
  exact EntryCheck.key_injective h.2

theorem not_before_self (c : Check) : ¬ c.Before c := List.lt_irrefl c.key

theorem Before.asymm {c d : Check} (h : c.Before d) : ¬ d.Before c := List.lt_asymm h

/-- Checks are in a total order: two of them that are not in order are the same. -/
theorem eq_of_not_before {c d : Check} (h : ¬ c.Before d) (h' : ¬ d.Before c) : c = d :=
  key_injective (List.le_antisymm h' h)

/-- Entries are checked one after another, and all checks of one entry before those of the next.
-/
theorem entry_before_entry_iff {k l : Nat} {c d : EntryCheck} :
    (entry k c).Before (entry l d) ↔ k < l ∨ k = l ∧ c.key < d.key := by
  simp [Before, key, List.cons_lt_cons_iff]

/-- A check of an entry comes before checks of the same entry or of later ones only. -/
theorem exists_eq_entry_of_before {k : Nat} {check : EntryCheck} {c : Check}
    (h : (entry k check).Before c) : ∃ l check', c = entry l check' ∧ k ≤ l := by
  cases c with
  | entry l check' =>
    refine ⟨l, check', rfl, ?_⟩
    rcases entry_before_entry_iff.mp h with hlt | ⟨heq, -⟩ <;> omega
  | invocations | script | logDir | workingDir =>
    simp [Before, key, List.cons_lt_cons_iff] at h

end Check

namespace Batch

/-- One check has one violation. -/
theorem Breaks.unique {b : Batch} {c : Check} {v w : Violation} (hv : b.Breaks c v)
    (hw : b.Breaks c w) : v = w := by
  cases hv <;> cases hw <;> simp_all

theorem Breaks.lt_length {b : Batch} {k : Nat} {check : EntryCheck} {v : Violation}
    (h : b.Breaks (.entry k check) v) : k < b.invocations.length := by
  cases h with
  | name hi | newName hi | tag hi | outDir hi | dataset hi =>
    exact (List.getElem?_eq_some_iff.mp hi).1

/-- There is one first check that a batch breaks, and it is broken in one way. -/
theorem FirstBroken.unique {b : Batch} {c d : Check} {v w : Violation} (hv : b.FirstBroken c v)
    (hw : b.FirstBroken d w) : v = w := by
  obtain rfl := Check.eq_of_not_before (hw.first c v hv.breaks) (hv.first d w hw.breaks)
  exact hv.breaks.unique hw.breaks

/-! ## Ranges of checks -/

/-- What is found in a range of checks: nothing if none of them is broken, and otherwise the
violation of the first one that is. -/
structure Reports (b : Batch) (range : Check → Prop) (found : Option Violation) : Prop where
  sound : found = none → ∀ d w, range d → ¬ b.Breaks d w
  first : ∀ v, found = some v →
    ∃ c, range c ∧ b.Breaks c v ∧ ∀ d w, range d → b.Breaks d w → ¬ d.Before c

variable {b : Batch} {range range' : Check → Prop} {found found' : Option Violation}

/-- A single check. -/
theorem reports_check {c : Check} (h : ∀ v, found = some v ↔ b.Breaks c v) :
    b.Reports (· = c) found where
  sound := by
    rintro rfl d w rfl hbreaks
    simpa using (h w).mpr hbreaks
  first := by
    intro v hv
    refine ⟨c, rfl, (h v).mp hv, ?_⟩
    rintro d w rfl -
    exact d.not_before_self

/-- Nothing is found where nothing can be broken. -/
theorem reports_none (h : ∀ d w, range d → ¬ b.Breaks d w) : b.Reports range none where
  sound := fun _ => h
  first := nofun

/-- A range that comes first, and then another one. -/
theorem Reports.or (h : b.Reports range found) (h' : b.Reports range' found')
    (hbefore : ∀ c d, range c → range' d → c.Before d) :
    b.Reports (fun c => range c ∨ range' c) (found.or found') where
  sound := by
    intro hnone d w hd
    obtain ⟨hfound, hfound'⟩ := Option.or_eq_none_iff.mp hnone
    rcases hd with hd | hd
    · exact h.sound hfound d w hd
    · exact h'.sound hfound' d w hd
  first := by
    intro v hv
    cases found with
    | some u =>
      obtain rfl : u = v := by simpa using hv
      obtain ⟨c, hc, hbreaks, hfirst⟩ := h.first u rfl
      refine ⟨c, .inl hc, hbreaks, ?_⟩
      rintro d w (hd | hd) hd'
      · exact hfirst d w hd hd'
      · exact (hbefore c d hc hd).asymm
    | none =>
      obtain ⟨c, hc, hbreaks, hfirst⟩ := h'.first v (by simpa using hv)
      refine ⟨c, .inr hc, hbreaks, ?_⟩
      rintro d w (hd | hd) hd'
      · exact absurd hd' (h.sound rfl d w hd)
      · exact hfirst d w hd hd'

theorem Reports.congr (h : b.Reports range found) (hrange : ∀ c, range' c ↔ range c) :
    b.Reports range' found := by
  obtain rfl : range' = range := funext fun c => propext (hrange c)
  exact h

/-- A single check that is broken under a condition. -/
theorem reports_if {P : Prop} [Decidable P] {c : Check} {v : Violation} (hbroken : P → b.Breaks c v)
    (hbreaks : ∀ w, b.Breaks c w → P) : b.Reports (· = c) (if P then some v else none) := by
  refine reports_check fun w => ?_
  constructor
  · intro hw
    obtain ⟨hP, rfl⟩ : P ∧ v = w := by simpa using hw
    exact hbroken hP
  · intro hw
    have hP := hbreaks w hw
    rw [if_pos hP, hw.unique (hbroken hP)]

end Batch

/-! ## The parts of the scan -/

/-- What stands before the rest of a list. -/
theorem exists_getElem?_append_iff {α : Type} {front rest : List α} {a : α} :
    (∃ q, q < front.length ∧ (front ++ rest)[q]? = some a) ↔ a ∈ front := by
  constructor
  · rintro ⟨q, hq, h⟩
    rw [List.getElem?_append_left hq] at h
    exact List.mem_of_getElem? h
  · intro h
    obtain ⟨q, hq, rfl⟩ := List.getElem_of_mem h
    refine ⟨q, hq, ?_⟩
    rw [List.getElem?_append_left hq, List.getElem?_eq_getElem hq]

/-- What comes from a position on is at that position or comes from the next one on. -/
theorem exists_le_iff {P : Nat → Prop} {n : Nat} :
    (∃ p, n ≤ p ∧ P p) ↔ P n ∨ ∃ p, n + 1 ≤ p ∧ P p := by
  constructor
  · rintro ⟨p, hp, h⟩
    rcases Nat.eq_or_lt_of_le hp with rfl | hp
    · exact .inl h
    · exact .inr ⟨p, hp, h⟩
  · rintro (h | ⟨p, hp, h⟩)
    · exact ⟨n, Nat.le_refl n, h⟩
    · exact ⟨p, Nat.le_of_succ_le hp, h⟩

theorem givenBlank_eq_true_iff {text : Option String} :
    givenBlank text = true ↔ ∃ s, text = some s ∧ ¬ Text.SaysSomething s := by
  cases text <;> simp [givenBlank, Text.isBlankText_iff]

theorem Settings.violation?_eq_or (s : Settings) :
    s.violation? = (if Text.isBlankText s.script then some .blankScript else none).or
      ((if Text.isBlankText s.logDir then some .blankLogDir else none).or
        (if givenBlank s.workingDir then some .blankWorkingDir else none)) := by
  unfold violation?
  cases Text.isBlankText s.script <;> cases Text.isBlankText s.logDir <;> rfl

theorem Invocation.violation?_eq_or (names : List String) (n : Nat) (i : Invocation) :
    i.violation? names n = (if givenBlank i.name then some (.blankName n) else none).or
      (((i.name.filter (· ∈ names)).map .repeatedName).or
        (((firstRepeated [] i.ignore).map (.repeatedTag n)).or
          ((if givenBlank i.outDir then some (.blankOutDir n) else none).or
            (if givenBlank i.dataset then some (.blankDataset n) else none)))) := by
  unfold violation?
  cases givenBlank i.name with
  | true => rfl
  | false =>
    cases i.name.filter (· ∈ names) with
    | some name => rfl
    | none =>
      cases firstRepeated [] i.ignore with
      | some tag => rfl
      | none => cases givenBlank i.outDir <;> rfl

theorem entriesViolation?_cons (names : List String) (n : Nat) (i : Invocation)
    (rest : List Invocation) :
    entriesViolation? names n (i :: rest) =
      (i.violation? names n).or (entriesViolation? (names ++ i.name.toList) (n + 1) rest) := by
  rw [entriesViolation?]
  cases i.violation? names n <;> rfl

namespace Batch

variable {b : Batch}

/-! ## The settings -/

/-- A check of a text that may be given. -/
theorem reports_text {c : Check} {v : Violation} {text : Option String}
    (hblank : ∀ s, text = some s → ¬ Text.SaysSomething s → b.Breaks c v)
    (hbreaks : ∀ w, b.Breaks c w → ∃ s, text = some s ∧ ¬ Text.SaysSomething s) :
    b.Reports (· = c) (if givenBlank text then some v else none) := by
  refine reports_if (fun h => ?_) fun w hw => givenBlank_eq_true_iff.mpr (hbreaks w hw)
  obtain ⟨s, hs, h⟩ := givenBlank_eq_true_iff.mp h
  exact hblank s hs h

/-- The settings are checked in the order script, log directory, working directory. -/
theorem reports_settings :
    b.Reports (fun c => c = .script ∨ c = .logDir ∨ c = .workingDir) b.settings.violation? := by
  have hscript : b.Reports (· = .script)
      (if Text.isBlankText b.settings.script then some .blankScript else none) :=
    reports_if (fun h => .script (Text.isBlankText_iff.mp h)) fun
      | _, .script h => Text.isBlankText_iff.mpr h
  have hlogDir : b.Reports (· = .logDir)
      (if Text.isBlankText b.settings.logDir then some .blankLogDir else none) :=
    reports_if (fun h => .logDir (Text.isBlankText_iff.mp h)) fun
      | _, .logDir h => Text.isBlankText_iff.mpr h
  have hworkingDir : b.Reports (· = .workingDir)
      (if givenBlank b.settings.workingDir then some .blankWorkingDir else none) :=
    reports_text (fun _ => .workingDir) fun | _, .workingDir hdir h => ⟨_, hdir, h⟩
  rw [Settings.violation?_eq_or]
  refine hscript.or (hlogDir.or hworkingDir ?_) ?_
  · rintro c d rfl rfl
    decide
  · rintro c d rfl (rfl | rfl) <;> decide

/-! ## A single entry -/

section

variable {k : Nat} {i : Invocation}

/-- The tags behind those that were looked at, where `seen` has the same ones in any order. -/
theorem reports_tags (hi : b.invocations[k]? = some i) {front rest seen : List Tag}
    (hsplit : i.ignore = front ++ rest) (hseen : ∀ t, t ∈ seen ↔ t ∈ front) :
    b.Reports (fun c => ∃ p, front.length ≤ p ∧ c = .entry k (.tag p))
      ((firstRepeated seen rest).map (.repeatedTag (k + 1))) := by
  -- the positions from `front.length` on are those of `rest`
  induction rest generalizing front seen with
  | nil =>
    refine reports_none ?_
    rintro d w ⟨p, hp, rfl⟩ (hbreaks : b.Breaks _ _)
    cases hbreaks with
    | tag hi' ht hq h =>
      obtain rfl := Option.some.inj (hi.symm.trans hi')
      simp [hsplit, hp] at ht
  | cons t rest ih =>
    have hcheck : b.Reports (· = .entry k (.tag front.length))
        (if t ∈ seen then some (.repeatedTag (k + 1) t) else none) := by
      have htag : i.ignore[front.length]? = some t := by simp [hsplit]
      refine reports_if (fun ht => ?_) fun w hbreaks => ?_
      · obtain ⟨q, hq, h⟩ := exists_getElem?_append_iff.mpr ((hseen t).mp ht)
        exact .tag hi htag hq (hsplit ▸ h)
      · cases hbreaks with
        | tag hi' ht hq h =>
          obtain rfl := Option.some.inj (hi.symm.trans hi')
          obtain rfl := Option.some.inj (htag.symm.trans ht)
          exact (hseen t).mpr (exists_getElem?_append_iff.mp ⟨_, hq, hsplit ▸ h⟩)
    have hrest : b.Reports (fun c => ∃ p, front.length + 1 ≤ p ∧ c = .entry k (.tag p))
        ((firstRepeated (t :: seen) rest).map (.repeatedTag (k + 1))) := by
      have hfront : i.ignore = (front ++ [t]) ++ rest := by simp [hsplit]
      simpa using ih hfront (by simp [hseen, or_comm])
    have hscan : (firstRepeated seen (t :: rest)).map (Violation.repeatedTag (k + 1)) =
        (if t ∈ seen then some (.repeatedTag (k + 1) t) else none).or
          ((firstRepeated (t :: seen) rest).map (.repeatedTag (k + 1))) := by
      rw [firstRepeated]
      split <;> rfl
    rw [hscan]
    refine (hcheck.or hrest ?_).congr fun c => exists_le_iff
    rintro c d rfl ⟨p, hp, rfl⟩
    have hkey : (EntryCheck.tag front.length).key < (EntryCheck.tag p).key := by
      simp [EntryCheck.key, List.cons_lt_cons_iff, Nat.lt_of_succ_le hp]
    exact Check.entry_before_entry_iff.mpr (.inr ⟨rfl, hkey⟩)

/-- A name, where `names` has those of the entries before it. -/
theorem reports_newName (hi : b.invocations[k]? = some i) {names : List String}
    (hnames : ∀ name, name ∈ names ↔
      ∃ j earlier, j < k ∧ b.invocations[j]? = some earlier ∧ earlier.name = some name) :
    b.Reports (· = .entry k .newName) ((i.name.filter (· ∈ names)).map .repeatedName) := by
  refine reports_check fun v => ?_
  simp only [Option.map_eq_some_iff, Option.filter_eq_some_iff, decide_eq_true_eq]
  constructor
  · rintro ⟨name, ⟨hname, hmem⟩, rfl⟩
    obtain ⟨j, earlier, hj, hearlier, h⟩ := (hnames name).mp hmem
    exact .newName hi hname hj hearlier h
  · intro hbreaks
    cases hbreaks with
    | newName hi' hname hj hearlier h =>
      obtain rfl := Option.some.inj (hi.symm.trans hi')
      exact ⟨_, ⟨hname, (hnames _).mpr ⟨_, _, hj, hearlier, h⟩⟩, rfl⟩

/-- One entry is checked against the names before it, and reports its first broken check. -/
theorem reports_entry (hi : b.invocations[k]? = some i) {names : List String}
    (hnames : ∀ name, name ∈ names ↔
      ∃ j earlier, j < k ∧ b.invocations[j]? = some earlier ∧ earlier.name = some name) :
    b.Reports (fun c => ∃ check, c = .entry k check) (i.violation? names (k + 1)) := by
  have hsame {i' : Invocation} (hi' : b.invocations[k]? = some i') : i' = i :=
    Option.some.inj (hi'.symm.trans hi)
  have hname : b.Reports (· = .entry k .name)
      (if givenBlank i.name then some (.blankName (k + 1)) else none) :=
    reports_text (fun _ => .name hi) fun | _, .name hi' h hblank => ⟨_, hsame hi' ▸ h, hblank⟩
  have hnewName := reports_newName hi hnames
  have htags : b.Reports (fun c => ∃ p, 0 ≤ p ∧ c = .entry k (.tag p))
      ((firstRepeated [] i.ignore).map (.repeatedTag (k + 1))) :=
    reports_tags hi (List.nil_append _).symm (by simp)
  have houtDir : b.Reports (· = .entry k .outDir)
      (if givenBlank i.outDir then some (.blankOutDir (k + 1)) else none) :=
    reports_text (fun _ => .outDir hi) fun | _, .outDir hi' h hblank => ⟨_, hsame hi' ▸ h, hblank⟩
  have hdataset : b.Reports (· = .entry k .dataset)
      (if givenBlank i.dataset then some (.blankDataset (k + 1)) else none) :=
    reports_text (fun _ => .dataset hi) fun | _, .dataset hi' h hblank => ⟨_, hsame hi' ▸ h, hblank⟩
  rw [Invocation.violation?_eq_or]
  have hbefore {c d : EntryCheck} (h : c.key < d.key) : (Check.entry k c).Before (.entry k d) :=
    Check.entry_before_entry_iff.mpr (.inr ⟨rfl, h⟩)
  -- each part comes before all parts behind it, and together they are the checks of the entry
  refine (hname.or (hnewName.or (htags.or (houtDir.or hdataset ?_) ?_) ?_) ?_).congr fun c => ?_
  · rintro c d rfl rfl
    exact hbefore (by decide)
  · rintro c d ⟨p, -, rfl⟩ (rfl | rfl) <;>
      exact hbefore (by simp [EntryCheck.key, List.cons_lt_cons_iff])
  · rintro c d rfl (⟨p, -, rfl⟩ | rfl | rfl) <;>
      exact hbefore (by simp [EntryCheck.key, List.cons_lt_cons_iff])
  · rintro c d rfl (rfl | ⟨p, -, rfl⟩ | rfl | rfl) <;>
      exact hbefore (by simp [EntryCheck.key, List.cons_lt_cons_iff])
  · constructor
    · rintro ⟨check, rfl⟩
      cases check <;> simp
    · rintro (rfl | rfl | ⟨p, -, rfl⟩ | rfl | rfl) <;> exact ⟨_, rfl⟩

end

/-! ## All entries -/

/-- The entries behind those that were looked at, where `names` has the names of these. -/
theorem reports_entries {front rest : List Invocation} {names : List String}
    (hsplit : b.invocations = front ++ rest)
    (hnames : ∀ name, name ∈ names ↔ ∃ earlier ∈ front, earlier.name = some name) :
    b.Reports (fun c => ∃ k, front.length ≤ k ∧ ∃ check, c = .entry k check)
      (entriesViolation? names (front.length + 1) rest) := by
  induction rest generalizing front names with
  | nil =>
    refine reports_none ?_
    rintro d w ⟨k, hk, check, rfl⟩ hbreaks
    have hlt := hbreaks.lt_length
    rw [hsplit, List.append_nil] at hlt
    omega
  | cons i rest ih =>
    have hi : b.invocations[front.length]? = some i := by simp [hsplit]
    have hearlier (name : String) : name ∈ names ↔ ∃ j earlier, j < front.length ∧
        b.invocations[j]? = some earlier ∧ earlier.name = some name := by
      rw [hnames, hsplit]
      constructor
      · rintro ⟨earlier, hmem, h⟩
        obtain ⟨j, hj, hget⟩ := exists_getElem?_append_iff.mpr hmem
        exact ⟨j, earlier, hj, hget, h⟩
      · rintro ⟨j, earlier, hj, hget, h⟩
        exact ⟨earlier, exists_getElem?_append_iff.mp ⟨j, hj, hget⟩, h⟩
    have hentry := reports_entry hi hearlier
    have hrest : b.Reports (fun c => ∃ k, front.length + 1 ≤ k ∧ ∃ check, c = .entry k check)
        (entriesViolation? (names ++ i.name.toList) (front.length + 1 + 1) rest) := by
      have hfront : b.invocations = (front ++ [i]) ++ rest := by simp [hsplit]
      have hseen : ∀ name, name ∈ names ++ i.name.toList ↔
          ∃ earlier ∈ front ++ [i], earlier.name = some name := by
        intro name
        simp [hnames, or_and_right, exists_or]
      simpa using ih hfront hseen
    rw [entriesViolation?_cons]
    refine (hentry.or hrest ?_).congr fun c => exists_le_iff
    rintro c d ⟨check, rfl⟩ ⟨k, hk, check', rfl⟩
    exact Check.entry_before_entry_iff.mpr (.inl hk)

/-- Validation as a chain of checks, each of which is made only if those before it pass. -/
theorem violation?_eq_or (b : Batch) :
    b.violation? = (if b.invocations.isEmpty then some .noInvocations else none).or
      (b.settings.violation?.or (entriesViolation? [] 1 b.invocations)) := by
  unfold violation?
  cases b.invocations.isEmpty <;> cases b.settings.violation? <;> rfl

/-- The scan as a whole reports the first check that is broken. -/
theorem reports_violation? : b.Reports (fun _ => True) b.violation? := by
  have hinvocations : b.Reports (· = .invocations)
      (if b.invocations.isEmpty then some .noInvocations else none) :=
    reports_if (fun h => .invocations (List.isEmpty_iff.mp h)) fun
      | _, .invocations h => List.isEmpty_iff.mpr h
  have hentries : b.Reports (fun c => ∃ k, 0 ≤ k ∧ ∃ check, c = .entry k check)
      (entriesViolation? [] 1 b.invocations) :=
    reports_entries (List.nil_append _).symm (by simp)
  rw [violation?_eq_or]
  refine (hinvocations.or (reports_settings.or hentries ?_) ?_).congr fun c => ?_
  · rintro c d (rfl | rfl | rfl) ⟨k, -, check, rfl⟩ <;>
      simp [Check.Before, Check.key, List.cons_lt_cons_iff]
  · rintro c d rfl ((rfl | rfl | rfl) | ⟨k, -, check, rfl⟩) <;>
      simp [Check.Before, Check.key, List.cons_lt_cons_iff]
  · cases c <;> simp

theorem violation?_eq_some_iff {v : Violation} :
    b.violation? = some v ↔ ∃ c, b.FirstBroken c v := by
  have hreports := b.reports_violation?
  have hreported {v : Violation} (h : b.violation? = some v) : ∃ c, b.FirstBroken c v := by
    obtain ⟨c, -, hbreaks, hfirst⟩ := hreports.first v h
    exact ⟨c, hbreaks, fun d w => hfirst d w trivial⟩
  refine ⟨hreported, ?_⟩
  rintro ⟨c, hc⟩
  cases h : b.violation? with
  | none => exact absurd hc.breaks (hreports.sound h c v trivial)
  | some u =>
    obtain ⟨d, hd⟩ := hreported h
    rw [hd.unique hc]

theorem not_breaks_of_valid (h : b.violation? = none) (c : Check) (v : Violation) :
    ¬ b.Breaks c v :=
  b.reports_violation?.sound h c v trivial

/-! ## More entries -/

/-- A check of an entry does not depend on the entries behind it. -/
theorem Breaks.transfer {b' : Batch} {c : Check} {v : Violation} (h : b.Breaks c v)
    (hsettings : b'.settings = b.settings) (hempty : b.invocations = [] → b'.invocations = [])
    (hentries : ∀ k check, c = .entry k check → ∀ j, j ≤ k →
      b'.invocations[j]? = b.invocations[j]?) : b'.Breaks c v := by
  cases h with
  | invocations h => exact .invocations (hempty h)
  | script h => exact .script (hsettings ▸ h)
  | logDir h => exact .logDir (hsettings ▸ h)
  | workingDir hdir h => exact .workingDir (hsettings ▸ hdir) h
  | name hi hname h => exact .name ((hentries _ _ rfl _ (Nat.le_refl _)).trans hi) hname h
  | newName hi hname hj hearlier h =>
    have hi' := (hentries _ _ rfl _ (Nat.le_refl _)).trans hi
    exact .newName hi' hname hj ((hentries _ _ rfl _ (Nat.le_of_lt hj)).trans hearlier) h
  | tag hi ht hq h => exact .tag ((hentries _ _ rfl _ (Nat.le_refl _)).trans hi) ht hq h
  | outDir hi hdir h => exact .outDir ((hentries _ _ rfl _ (Nat.le_refl _)).trans hi) hdir h
  | dataset hi hfile h => exact .dataset ((hentries _ _ rfl _ (Nat.le_refl _)).trans hi) hfile h

/-- Entries behind those of a batch do not matter to a check that is not about them. -/
theorem breaks_append_iff {c : Check} {v : Violation} (hne : b.invocations ≠ [])
    (hwithin : ∀ k check, c = .entry k check → k < b.invocations.length)
    (more : List Invocation) :
    (b.withEntries (b.invocations ++ more)).Breaks c v ↔ b.Breaks c v := by
  have hentries (k : Nat) (check : EntryCheck) (hc : c = .entry k check) (j : Nat) (hj : j ≤ k) :
      (b.invocations ++ more)[j]? = b.invocations[j]? :=
    List.getElem?_append_left (Nat.lt_of_le_of_lt hj (hwithin k check hc))
  constructor
  · intro h
    exact h.transfer rfl (fun hnil => (List.append_eq_nil_iff.mp hnil).1)
      fun k check hc j hj => (hentries k check hc j hj).symm
  · intro h
    exact h.transfer rfl (fun hnil => absurd hnil hne) hentries

/-- More entries behind those of a batch that has some do not change which check is broken first.
-/
theorem FirstBroken.append {c : Check} {v : Violation} (h : b.FirstBroken c v)
    (hne : b.invocations ≠ []) (more : List Invocation) :
    (b.withEntries (b.invocations ++ more)).FirstBroken c v where
  breaks := by
    refine (breaks_append_iff hne ?_ more).mpr h.breaks
    rintro k check rfl
    exact h.breaks.lt_length
  first := by
    intro d w hd hbefore
    refine h.first d w ((breaks_append_iff hne ?_ more).mp hd) hbefore
    rintro k check rfl
    obtain ⟨l, check', rfl, hl⟩ := Check.exists_eq_entry_of_before hbefore
    exact Nat.lt_of_le_of_lt hl h.breaks.lt_length

/-- Behind entries that break no rule, the first check that is broken is one of the others. -/
theorem FirstBroken.exists_entry_of_append {c : Check} {v : Violation} {more : List Invocation}
    (h : (b.withEntries (b.invocations ++ more)).FirstBroken c v) (hvalid : b.violation? = none) :
    ∃ k check, c = .entry k check ∧ b.invocations.length ≤ k := by
  refine Classical.byContradiction fun hnone => ?_
  have hne : b.invocations ≠ [] := (violation?_eq_none_iff.mp hvalid).nonempty
  have hwithin : ∀ k check, c = .entry k check → k < b.invocations.length := by
    intro k check hc
    exact Nat.lt_of_not_le fun hle => hnone ⟨k, check, hc, hle⟩
  exact not_breaks_of_valid hvalid c v ((breaks_append_iff hne hwithin more).mp h.breaks)

theorem validate_eq_error_iff {v : Violation} : b.validate = .error v ↔ b.violation? = some v := by
  constructor
  · intro h
    cases hviolation : b.violation? with
    | none =>
      rw [ValidBatch.validate_batch ⟨b, hviolation⟩] at h
      simp at h
    | some u =>
      rw [validate_of_violation hviolation] at h
      rw [Except.error.inj h]
  · exact validate_of_violation

/-- A batch is rejected if a check is broken, and then with the violation of the first one: there
are no entries, a text of the settings is blank, or the first bad entry breaks a rule, where its
checks have an order of their own, and a repeated tag is the first that repeats one before it. So
more entries behind those of a rejected batch, if it has any, change nothing; and if more entries
behind those of an accepted one make it a rejected one, the violation is about one of them. -/
theorem validate_reports_first (b : Batch) :
    (∀ v, b.validate = .error v ↔ ∃ c, b.FirstBroken c v) ∧
    (∀ v more, b.invocations ≠ [] → b.validate = .error v →
      (b.withEntries (b.invocations ++ more)).validate = .error v) ∧
    ∀ valid v more, b.validate = .ok valid →
      (b.withEntries (b.invocations ++ more)).validate = .error v →
      ∃ k check, b.invocations.length ≤ k ∧
        (b.withEntries (b.invocations ++ more)).FirstBroken (.entry k check) v := by
  refine ⟨fun v => validate_eq_error_iff.trans violation?_eq_some_iff, ?_, ?_⟩
  · intro v more hne h
    obtain ⟨c, hc⟩ := violation?_eq_some_iff.mp (validate_eq_error_iff.mp h)
    exact validate_eq_error_iff.mpr (violation?_eq_some_iff.mpr ⟨c, hc.append hne more⟩)
  · intro valid v more hvalid h
    obtain rfl := validate_eq_ok_iff.mp hvalid
    obtain ⟨c, hc⟩ := violation?_eq_some_iff.mp (validate_eq_error_iff.mp h)
    obtain ⟨k, check, rfl, hk⟩ := hc.exists_entry_of_append valid.valid
    exact ⟨k, check, hk, hc⟩

/-- An entry behind a disabled one repeats two tags and has a blank directory. More entries do not
change what is reported about it. A name that is repeated by a further entry is reported before the
blank name behind it. -/
theorem validate_reports_first_of_several :
    let bad : Invocation := { ignore := [.dll, .empty, .empty, .dll], outDir := some " " }
    let rejected : Batch := { settings := {}, invocations := [{ enabled := false }, bad, bad] }
    let accepted : Batch := { settings := {}, invocations := [{ name := some "a" }] }
    let more : List Invocation := [{ name := some "a" }, { name := some "\t" }]
    rejected.validate = .error (.repeatedTag 2 .empty) ∧
      (∃ c, rejected.FirstBroken c (.repeatedTag 2 .empty)) ∧
      (rejected.withEntries (rejected.invocations ++ more)).validate =
        .error (.repeatedTag 2 .empty) ∧
      (∃ valid, accepted.validate = .ok valid) ∧
      ∃ k check, 1 ≤ k ∧
        (accepted.withEntries (accepted.invocations ++ more)).FirstBroken (.entry k check)
          (.repeatedName "a") := by
  intro bad rejected accepted more
  have hrejected : rejected.validate = .error (.repeatedTag 2 .empty) :=
    validate_of_violation (by decide)
  have haccepted : accepted.validate = .ok ⟨accepted, by decide⟩ :=
    ValidBatch.validate_batch ⟨accepted, by decide⟩
  have hextended : (accepted.withEntries (accepted.invocations ++ more)).validate =
      .error (.repeatedName "a") :=
    validate_of_violation (by decide)
  obtain ⟨hfirst, happend, -⟩ := validate_reports_first rejected
  obtain ⟨-, -, hfurther⟩ := validate_reports_first accepted
  exact ⟨hrejected, (hfirst _).mp hrejected, happend _ more (by decide) hrejected,
    ⟨_, haccepted⟩, hfurther _ _ more haccepted hextended⟩

end Batch

end ScriptBatch
