import Mathlib.Data.List.TakeWhile
import ScriptBatch.Proofs.Schema

/-!
# How keywords can be spelled

A keyword is compared with its vocabulary after blanks around it are dropped and it is put into
lower case by the rules of Unicode. Which texts are then equal to a word of small ASCII letters can
be said letter by letter: each one stands there in either case, and for a `k` there is also the
Kelvin sign. All other mappings of the case table end behind the small letters, the capital sigma
stays a sigma in every context, and the one character with two characters as its lower case brings a
mark that is no letter.
-/

namespace ScriptBatch

namespace Text

def smallLetters : List Char := "abcdefghijklmnopqrstuvwxyz".toList

/-- The character stands for a small letter: it is that letter in either case, or the Kelvin sign
for a `k`. -/
def StandsFor (c letter : Char) : Prop :=
  c = letter ∨ c = letter.toUpper ∨ letter = 'k' ∧ c = '\u212a'

/-- The text is the word, spelled letter by letter, between any blanks. -/
def Spells (s word : String) : Prop :=
  ∃ before spelling after, s.toList = before ++ spelling ++ after ∧
    (∀ c ∈ before, isBlank c = true) ∧ List.Forall₂ StandsFor spelling word.toList ∧
    ∀ c ∈ after, isBlank c = true

/-! ## Lower case of single characters -/

/-- Only two rows of the case table lead to small letters or in front of them. The capitals make
up one of them, the Kelvin sign the other one. -/
theorem lowerRuns_cases : ∀ run ∈ lowerRuns,
    (run.first = 0x41 ∧ run.last = 0x5A ∧ run.shift = 32) ∨
    (run.first = 0x212A ∧ run.last = 0x212A ∧ run.shift = -8383) ∨
    0x7A < run.first + run.shift := by
  decide +kernel

/-- Only the capital letters of ASCII and the Kelvin sign have an ASCII letter as their lower
case. -/
theorem lowerRuns_map? {n m : Nat} (h : lowerRuns.findSome? (·.map? n) = some m) (hm : m ≤ 0x7A) :
    (0x41 ≤ n ∧ n ≤ 0x5A ∧ m = n + 32) ∨ (n = 0x212A ∧ m = 0x6B) := by
  obtain ⟨run, hrun, hmap⟩ := List.exists_of_findSome?_eq_some h
  unfold CaseRun.map? at hmap
  split at hmap
  · rename_i hcovers
    simp only [Bool.and_eq_true, decide_eq_true_eq] at hcovers
    obtain ⟨⟨hfirst, hlast⟩, -⟩ := hcovers
    obtain rfl := Option.some.inj hmap
    rcases lowerRuns_cases run hrun with ⟨h₁, h₂, h₃⟩ | ⟨h₁, h₂, h₃⟩ | hbehind <;> omega
  · simp at hmap

/-- What can be computed about each of the small letters. -/
theorem forall_smallLetters {P : Char → Prop} [DecidablePred P]
    (h : smallLetters.all (fun l => decide (P l)) = true) : ∀ l ∈ smallLetters, P l := by
  simpa using h

theorem smallLetters_range :
    ∀ l ∈ smallLetters, 0x61 ≤ l.toNat ∧ l.toNat ≤ 0x7A ∧ l.toUpper.toNat + 32 = l.toNat :=
  forall_smallLetters (by decide +kernel)

theorem lowerChar_smallLetters :
    ∀ l ∈ smallLetters, lowerChar l = [l] ∧ lowerChar l.toUpper = [l] :=
  forall_smallLetters (by decide +kernel)

theorem isBlank_smallLetters :
    ∀ l ∈ smallLetters, isBlank l = false ∧ isBlank l.toUpper = false :=
  forall_smallLetters (by decide +kernel)

/-- A code point that is not one of a character gives the null character. -/
theorem toNat_ofNat_of_pos {n : Nat} (h : 0 < (Char.ofNat n).toNat) : (Char.ofNat n).toNat = n := by
  by_cases hvalid : n.isValidChar
  · have hchar : Char.ofNat n = Char.ofNatAux n hvalid := dif_pos hvalid
    rw [hchar]
    rfl
  · have hchar : Char.ofNat n = '\u0000' := dif_neg hvalid
    rw [hchar] at h
    exact absurd h (by decide)

theorem StandsFor.lowerChar {c l : Char} (h : StandsFor c l) (hl : l ∈ smallLetters) :
    lowerChar c = [l] := by
  obtain ⟨hsmall, hcapital⟩ := lowerChar_smallLetters l hl
  rcases h with rfl | rfl | ⟨rfl, rfl⟩
  · exact hsmall
  · exact hcapital
  · decide +kernel

theorem StandsFor.isBlank {c l : Char} (h : StandsFor c l) (hl : l ∈ smallLetters) :
    isBlank c = false := by
  obtain ⟨hsmall, hcapital⟩ := isBlank_smallLetters l hl
  rcases h with rfl | rfl | ⟨rfl, rfl⟩
  · exact hsmall
  · exact hcapital
  · decide

/-- The only letter whose lower case depends on its place stands for no letter of a word. -/
theorem StandsFor.ne_sigma {c l : Char} (h : StandsFor c l) (hl : l ∈ smallLetters) : c ≠ 'Σ' := by
  rintro rfl
  have hsigma : Text.lowerChar 'Σ' = ['σ'] := by decide +kernel
  obtain rfl : 'σ' = l := by simpa [hsigma] using h.lowerChar hl
  exact absurd hl (by decide)

/-- A character whose lower case has only small letters stands for one of them. -/
theorem standsFor_of_lowerChar {c : Char} (h : ∀ l ∈ lowerChar c, l ∈ smallLetters) :
    ∃ l, lowerChar c = [l] ∧ StandsFor c l := by
  unfold Text.lowerChar at h ⊢
  split at h
  · -- a small letter and the dot above it, which is no letter
    exact absurd (h (Char.ofNat 0x307) (by simp)) (by decide)
  · rename_i hdotted
    rw [if_neg hdotted]
    split at h
    · rename_i n hmap
      have hl : Char.ofNat n ∈ smallLetters := h _ (List.mem_singleton_self _)
      obtain ⟨hge, hle, hupper⟩ := smallLetters_range _ hl
      have hn : (Char.ofNat n).toNat = n := toNat_ofNat_of_pos (by omega)
      refine ⟨Char.ofNat n, rfl, ?_⟩
      rcases lowerRuns_map? hmap (by omega) with ⟨-, -, hcapital⟩ | ⟨hkelvin, rfl⟩
      · exact .inr (.inl (Char.toNat_inj.mp (by omega)))
      · exact .inr (.inr ⟨rfl, Char.toNat_inj.mp hkelvin⟩)
    · exact ⟨c, rfl, .inl rfl⟩

/-! ## Lower case of words -/

theorem lowerSigma_not_mem_smallLetters (before after : List Char) :
    lowerSigma before after ∉ smallLetters := by
  unfold lowerSigma
  split <;> decide

/-- The lower case of a text is a word of small letters if its characters stand for them, one by
one. -/
theorem lowerFrom_eq_iff {before cs word : List Char} (hword : ∀ l ∈ word, l ∈ smallLetters) :
    lowerFrom before cs = word ↔ List.Forall₂ StandsFor cs word := by
  induction cs generalizing before word with
  | nil => simp [lowerFrom, eq_comm]
  | cons c after ih =>
    rw [lowerFrom]
    constructor
    · -- each piece of the word is the lower case of one character
      rintro rfl
      obtain ⟨hpiece, hrest⟩ := List.forall_mem_append.mp hword
      split at hpiece
      · exact absurd (hpiece _ (List.mem_singleton_self _)) (lowerSigma_not_mem_smallLetters _ _)
      · rename_i hsigma
        obtain ⟨l, hl, hstands⟩ := standsFor_of_lowerChar hpiece
        rw [if_neg hsigma, hl]
        exact .cons hstands ((ih hrest).mp rfl)
    · intro h
      obtain ⟨l, rest, hstands, hrest, rfl⟩ := List.forall₂_cons_left_iff.mp h
      obtain ⟨hl, hword⟩ := List.forall_mem_cons.mp hword
      rw [if_neg (by simpa using hstands.ne_sigma hl), hstands.lowerChar hl, (ih hword).mpr hrest]
      rfl

theorem isBlank_of_spelling {spelling word : List Char} (h : List.Forall₂ StandsFor spelling word)
    (hword : ∀ l ∈ word, l ∈ smallLetters) : ∀ c ∈ spelling, isBlank c = false := by
  induction h with
  | nil => simp
  | cons hstands _ ih =>
    obtain ⟨hl, hrest⟩ := List.forall_mem_cons.mp hword
    exact List.forall_mem_cons.mpr ⟨hstands.isBlank hl, ih hrest⟩

/-! ## Trimming -/

/-- Trimming takes away blanks and nothing else. -/
theorem exists_trimChars (cs : List Char) :
    ∃ before after, cs = before ++ trimChars cs ++ after ∧ (∀ c ∈ before, isBlank c = true) ∧
      ∀ c ∈ after, isBlank c = true := by
  have hblank {l : List Char} : ∀ c ∈ l.takeWhile isBlank, isBlank c = true :=
    fun _ => List.mem_takeWhile_imp
  refine ⟨cs.takeWhile isBlank, ((cs.dropWhile isBlank).reverse.takeWhile isBlank).reverse, ?_,
    hblank, ?_⟩
  · rw [trimChars, List.append_assoc, ← List.reverse_append, List.takeWhile_append_dropWhile,
      List.reverse_reverse, List.takeWhile_append_dropWhile]
  · simpa using hblank

theorem trimChars_append {before middle after : List Char}
    (hbefore : ∀ c ∈ before, isBlank c = true) (hmiddle : ∀ c ∈ middle, isBlank c = false)
    (hafter : ∀ c ∈ after, isBlank c = true) :
    trimChars (before ++ middle ++ after) = middle := by
  have hkept {l : List Char} (h : ∀ c ∈ l, isBlank c = false) : l.dropWhile isBlank = l := by
    cases l with
    | nil => rfl
    | cons c rest => exact List.dropWhile_cons_of_neg (by simp [h c List.mem_cons_self])
  rw [trimChars, List.append_assoc, List.dropWhile_append_of_pos hbefore]
  cases middle with
  | nil =>
    have hdropped : after.dropWhile isBlank = [] := List.dropWhile_eq_nil_iff.mpr hafter
    rw [List.nil_append, hdropped]
    rfl
  | cons c rest =>
    have hfront : (c :: rest ++ after).dropWhile isBlank = c :: rest ++ after :=
      List.dropWhile_cons_of_neg (by simp [hmiddle c List.mem_cons_self])
    rw [hfront, List.reverse_append, List.dropWhile_append_of_pos (by simpa using hafter),
      hkept fun x hx => hmiddle x (List.mem_reverse.mp hx), List.reverse_reverse]

end Text

/-! ## Keywords -/

/-- The texts that are compared as a word are those that spell it. -/
theorem Keyword.fold_eq_iff {s word : String} (hword : ∀ l ∈ word.toList, l ∈ Text.smallLetters) :
    Keyword.fold s = word ↔ Text.Spells s word := by
  have hchars :
      Keyword.fold s = word ↔ Text.lowerChars (Text.trimChars s.toList) = word.toList := by
    rw [← String.toList_inj, Keyword.fold, Text.toList_lower, Text.toList_trim]
  rw [hchars, Text.lowerChars, Text.lowerFrom_eq_iff hword]
  constructor
  · intro hspelling
    obtain ⟨before, after, hs, hbefore, hafter⟩ := Text.exists_trimChars s.toList
    exact ⟨before, _, after, hs, hbefore, hspelling, hafter⟩
  · rintro ⟨before, spelling, after, hs, hbefore, hspelling, hafter⟩
    have hblank := Text.isBlank_of_spelling hspelling hword
    rwa [hs, Text.trimChars_append hbefore hblank hafter]

theorem Tag.smallLetters_of_mem_name (t : Tag) : ∀ l ∈ t.name.toList, l ∈ Text.smallLetters := by
  have hall : t.name.toList.all (· ∈ Text.smallLetters) = true := by cases t <;> decide
  simpa using hall

theorem FailureMode.smallLetters_of_mem_word (mode : FailureMode) :
    ∀ l ∈ mode.word.toList, l ∈ Text.smallLetters := by
  have hall : mode.word.toList.all (· ∈ Text.smallLetters) = true := by cases mode <;> decide
  simpa using hall

theorem Tag.parse_eq_ok_iff_spells {s : String} {tag : Tag} :
    Tag.parse s = .ok tag ↔ Text.Spells s tag.name := by
  rw [Tag.parse_eq_ok_iff, Keyword.fold_eq_iff tag.smallLetters_of_mem_name]

theorem FailureMode.parse_eq_ok_iff_spells {s : String} {mode : FailureMode} :
    FailureMode.parse s = .ok mode ↔ Text.Spells s mode.word := by
  rw [FailureMode.parse_eq_ok_iff, Keyword.fold_eq_iff mode.smallLetters_of_mem_word]

/-- A text that is no tag is reported in the form in which it was compared. -/
theorem Tag.parse_cases (s : String) :
    (∃ tag, Tag.parse s = .ok tag) ∨ Tag.parse s = .error (.tag (Keyword.fold s)) := by
  unfold Tag.parse
  split
  · exact .inl ⟨_, rfl⟩
  · exact .inr rfl

theorem FailureMode.parse_cases (s : String) :
    (∃ mode, FailureMode.parse s = .ok mode) ∨
      FailureMode.parse s = .error (.failureMode (Keyword.fold s)) := by
  simp only [FailureMode.parse]
  split
  · exact .inl ⟨_, rfl⟩
  · split
    · exact .inl ⟨_, rfl⟩
    · exact .inr rfl

/-- The readers of tags and of failure modes accept the spellings of their words and nothing else:
some blanks, the letters of the word in either case, a `k` also as the Kelvin sign, and some blanks.
Any other text is refused, with what is left of it after folding. -/
theorem Keyword.parse_accepts_spellings (s : String) :
    (∀ tag, Tag.parse s = .ok tag ↔ Text.Spells s tag.name) ∧
    (∀ mode, FailureMode.parse s = .ok mode ↔ Text.Spells s mode.word) ∧
    (Tag.parse s = .error (.tag (Keyword.fold s)) ↔ ∀ tag : Tag, ¬ Text.Spells s tag.name) ∧
    (FailureMode.parse s = .error (.failureMode (Keyword.fold s)) ↔
      ∀ mode : FailureMode, ¬ Text.Spells s mode.word) := by
  refine ⟨fun _ => Tag.parse_eq_ok_iff_spells, fun _ => FailureMode.parse_eq_ok_iff_spells, ?_, ?_⟩
  · exact eq_error_iff (Tag.parse_cases s) fun _ => Tag.parse_eq_ok_iff_spells
  · exact eq_error_iff (FailureMode.parse_cases s) fun _ => FailureMode.parse_eq_ok_iff_spells

example : Tag.parse "\u3000paC\u212aeD\t" = .ok .packed := by decide +kernel

example : FailureMode.parse "cont\u0130nue" = .error (.failureMode "conti\u0307nue") := by
  decide +kernel

end ScriptBatch
