import ScriptBatch.DryRun
import ScriptBatch.Proofs.CommandForm

/-!
# Reading a dry run

A dry run shows the commands of a batch in a text, and the text alone is enough to know what a run
would start. As long as no text of the batch breaks a line, the lines that were written are those
that are read; a line with a name cannot be taken for one with a command, because a number stands in
the columns that are blank before a name.
-/

namespace ScriptBatch

namespace Text

/-- The lines of a text. Each ends in a line feed, which may be missing behind the last one. -/
def lines (text : String) : List String :=
  let pieces := text.toList.splitOn '\n'
  (if pieces.getLast? = some [] then pieces.dropLast else pieces).map String.ofList

def OnOneLine (text : String) : Prop := '\n' ∉ text.toList

instance (text : String) : Decidable (OnOneLine text) := inferInstanceAs (Decidable (¬ _))

@[simp] theorem onOneLine_append {s t : String} :
    OnOneLine (s ++ t) ↔ OnOneLine s ∧ OnOneLine t := by
  simp [OnOneLine]

theorem OnOneLine.join {texts : List String} (h : ∀ text ∈ texts, OnOneLine text) :
    OnOneLine (String.join texts) := by
  intro hmem
  rw [String.toList_join, List.mem_flatMap] at hmem
  obtain ⟨text, htext, hbreak⟩ := hmem
  exact h text htext hbreak

theorem OnOneLine.trim {s : String} (hs : OnOneLine s) : OnOneLine (trim s) := by
  intro hmem
  rw [toList_trim, trimChars, List.mem_reverse] at hmem
  have hfront := (List.dropWhile_sublist isBlank).subset hmem
  exact hs ((List.dropWhile_sublist isBlank).subset (List.mem_reverse.mp hfront))

theorem onOneLine_repr (n : Nat) : OnOneLine n.repr :=
  not_mem_of_isUnbroken (isUnbroken_repr n) (by decide)

/-- Texts without line feeds come back when what they make as lines is split again. -/
theorem splitOn_terminated {texts : List String} (h : ∀ text ∈ texts, OnOneLine text) :
    (texts.flatMap fun text => text.toList ++ ['\n']).splitOn '\n' =
      texts.map String.toList ++ [[]] := by
  induction texts with
  | nil => rfl
  | cons text rest ih =>
    obtain ⟨htext, hrest⟩ := List.forall_mem_cons.mp h
    rw [List.flatMap_cons, List.append_assoc, List.singleton_append,
      List.splitOn_append_cons_self_of_not_mem htext, ih hrest]
    rfl

/-- Lines that are written one after another are read back. -/
theorem lines_join {texts : List String} (h : ∀ text ∈ texts, OnOneLine text) :
    lines (String.join (texts.map (· ++ "\n"))) = texts := by
  have hchars : (String.join (texts.map (· ++ "\n"))).toList =
      texts.flatMap fun text => text.toList ++ ['\n'] := by
    rw [String.toList_join, List.flatMap_map]
    simp
  have hlast : (texts.map String.toList ++ [[]]).getLast? = some [] := by simp
  rw [lines, hchars, splitOn_terminated h]
  simp only [hlast, if_true, List.dropLast_concat, List.map_map]
  simp [Function.comp_def]

/-- The text in at least `width` columns, at their right end. -/
def alignRight (width : Nat) (text : String) : String :=
  String.ofList (text.toList.leftpad width ' ')

end Text

namespace DryRun

open Text (OnOneLine)

def heading (enabled total : Nat) : String := s!"invocations ({enabled} enabled of {total}):"

def nameIndent : String := "       name: "

def isNameLine (line : String) : Bool := nameIndent.toList.isPrefixOf line.toList

/-- The line belongs to a disabled entry. -/
def isMarked (line : String) : Bool := line.toList.head? == some '#'

/-- The command on a line: what follows the number, which ends in a full stop and a space. -/
def commandText (line : String) : String :=
  String.ofList ((line.toList.dropWhile (· != '.')).drop 2)

/-- The lines with commands in the text of a dry run, which come behind a heading. -/
def listing (heading text : String) : List String :=
  (((Text.lines text).dropWhile (· != heading)).drop 1).filter (!isNameLine ·)

theorem number_eq_alignRight (n : Nat) : number n = Text.alignRight 2 n.repr := by
  have hlength := Nat.length_toDigits_le_iff (b := 10) (n := n) (k := 1) (by decide) (by decide)
  rw [number, Text.alignRight, List.leftpad, Nat.toList_repr]
  split
  · rename_i hn
    rw [Nat.toDigits_of_lt_base hn, ← String.toList_inj]
    simp [Nat.toList_repr, Nat.toDigits_of_lt_base hn]
  · rename_i hn
    have hpad : 2 - (Nat.toDigits 10 n).length = 0 := by omega
    rw [hpad, List.replicate_zero, List.nil_append, ← Nat.toList_repr, String.ofList_toList]

/-- A number has at most one blank in front of its digits. -/
theorem toList_number (n : Nat) :
    ∃ pad digit rest, (number n).toList = pad ++ digit :: rest ∧ (pad = [] ∨ pad = [' ']) ∧
      ∀ c ∈ digit :: rest, c.isDigit = true := by
  obtain ⟨digit, rest, hdigits⟩ :=
    List.exists_cons_of_ne_nil (Nat.toDigits_ne_nil (n := n) (b := 10))
  have hall : ∀ c ∈ digit :: rest, c.isDigit = true := fun c hc =>
    Nat.isDigit_of_mem_toDigits (by decide) (by decide) (hdigits ▸ hc)
  unfold number
  split
  · exact ⟨[' '], digit, rest, by simp [Nat.toList_repr, hdigits], .inr rfl, hall⟩
  · exact ⟨[], digit, rest, by simp [Nat.toList_repr, hdigits], .inl rfl, hall⟩

theorem eq_blank_or_isDigit_of_mem_number {n : Nat} {c : Char} (h : c ∈ (number n).toList) :
    c = ' ' ∨ c.isDigit = true := by
  obtain ⟨pad, digit, rest, hnumber, hpad, hdigits⟩ := toList_number n
  rw [hnumber, List.mem_append] at h
  rcases h with h | h
  · rcases hpad with rfl | rfl
    · simp at h
    · exact .inl (by simpa using h)
  · exact .inr (hdigits c h)

theorem toList_commandLine (b : Batch) (i : Invocation) (k : Nat) :
    (commandLine b i k).toList = (if i.enabled then ' ' else '#') :: ' ' ::
      ((number (k + 1)).toList ++ '.' :: ' ' :: (b.commandFor i).display.toList) := by
  unfold commandLine
  cases i.enabled <;> simp

/-- The mark in the first column tells disabled entries from enabled ones. -/
theorem isMarked_commandLine (b : Batch) (i : Invocation) (k : Nat) :
    isMarked (commandLine b i k) = !i.enabled := by
  rw [isMarked, toList_commandLine]
  cases i.enabled <;> rfl

/-- A line with a command has a digit where a line with a name is still indented. -/
theorem isNameLine_commandLine (b : Batch) (i : Invocation) (k : Nat) :
    isNameLine (commandLine b i k) = false := by
  obtain ⟨pad, digit, rest, hnumber, hpad, hdigits⟩ := toList_number (k + 1)
  have hdigit : digit ≠ ' ' := by
    rintro rfl
    exact absurd (hdigits ' ' List.mem_cons_self) (by decide)
  rw [isNameLine, toList_commandLine, hnumber]
  rcases hpad with rfl | rfl <;> simp [nameIndent, List.isPrefixOf, Ne.symm hdigit]

/-- What stands behind the number is the command, although it may itself contain full stops. -/
theorem commandText_commandLine (b : Batch) (i : Invocation) (k : Nat) :
    commandText (commandLine b i k) = (b.commandFor i).display := by
  -- the full stop behind the number is the first one
  have hfront : ∀ c ∈ (if i.enabled then ' ' else '#') :: ' ' :: (number (k + 1)).toList,
      (c != '.') = true := by
    simp only [List.forall_mem_cons]
    refine ⟨by cases i.enabled <;> rfl, rfl, ?_⟩
    intro c hc
    rcases eq_blank_or_isDigit_of_mem_number hc with rfl | hdigit
    · rfl
    · rw [bne_iff_ne]
      rintro rfl
      exact absurd hdigit (by decide)
  have hsplit : (commandLine b i k).toList =
      ((if i.enabled then ' ' else '#') :: ' ' :: (number (k + 1)).toList) ++
        '.' :: ' ' :: (b.commandFor i).display.toList := toList_commandLine b i k
  rw [commandText, hsplit, List.dropWhile_append_of_pos hfront]
  simp

end DryRun

open Text (OnOneLine)

/-- Quotes and spaces are all that display adds to a command. -/
theorem Command.onOneLine_display {c : Command} (hprogram : OnOneLine c.program)
    (hargs : ∀ arg ∈ c.args, OnOneLine arg) : OnOneLine c.display := by
  refine Text.onOneLine_append.mpr ⟨hprogram, OnOneLine.join ?_⟩
  intro text htext
  obtain ⟨arg, harg, rfl⟩ := List.mem_map.mp htext
  have hspace : OnOneLine " " := by decide
  have hquote : OnOneLine "'" := by decide
  unfold displayArg
  split <;> simp [hspace, hquote, hargs arg harg]

/-- No text of the batch breaks a line. -/
structure Batch.OnOneLine (b : Batch) : Prop where
  interpreter : ∀ text, b.settings.interpreter = some text → Text.OnOneLine text
  script : Text.OnOneLine b.settings.script
  logDir : Text.OnOneLine b.settings.logDir
  workingDir : ∀ text, b.settings.workingDir = some text → Text.OnOneLine text
  name : ∀ i ∈ b.invocations, ∀ text, i.name = some text → Text.OnOneLine text
  outDir : ∀ i ∈ b.invocations, ∀ text, i.outDir = some text → Text.OnOneLine text
  dataset : ∀ i ∈ b.invocations, ∀ text, i.dataset = some text → Text.OnOneLine text

namespace Batch.OnOneLine

variable {b : Batch}

theorem program (h : b.OnOneLine) {program : String}
    (hprogram : b.settings.effectiveInterpreter = some program) : Text.OnOneLine program := by
  obtain ⟨htrim, -⟩ := Option.filter_eq_some_iff.mp hprogram
  obtain ⟨text, htext, rfl⟩ := Option.map_eq_some_iff.mp htrim
  exact (h.interpreter text htext).trim

theorem display (h : b.OnOneLine) {i : Invocation} (hi : i ∈ b.invocations) :
    Text.OnOneLine (b.commandFor i).display := by
  have hflags : ∀ arg ∈ i.flagArgs, Text.OnOneLine arg :=
    Invocation.not_mem_of_mem_flagArgs (by decide) (h.outDir i hi) (h.dataset i hi)
  cases hinterpreter : b.settings.effectiveInterpreter with
  | none =>
    rw [Batch.commandFor, Settings.commandFor_of_direct hinterpreter]
    exact Command.onOneLine_display h.script (by simpa using ⟨h.logDir, hflags⟩)
  | some program =>
    rw [Batch.commandFor, Settings.commandFor_of_interpreter hinterpreter]
    exact Command.onOneLine_display (h.program hinterpreter)
      (by simpa using ⟨h.script, h.logDir, hflags⟩)

end Batch.OnOneLine

namespace DryRun

def preamble (b : Batch) : List String :=
  "statsbatch dry-run" :: (settingsLines b.settings ++ [""])

theorem lines_eq (b : Batch) :
    lines b = preamble b ++ heading b.enabledCount b.invocations.length ::
      b.invocations.zipIdx.flatMap (entryLines b) := by
  simp only [lines, preamble, List.append_assoc, List.cons_append, List.nil_append]
  rfl

theorem heading_eq (enabled total : Nat) : heading enabled total =
    "invocations (" ++ enabled.repr ++ " enabled of " ++ total.repr ++ "):" := rfl

theorem onOneLine_heading (enabled total : Nat) : OnOneLine (heading enabled total) := by
  simp only [heading_eq, Text.onOneLine_append, Text.onOneLine_repr]
  decide

theorem onOneLine_number (n : Nat) : OnOneLine (number n) := by
  intro hmem
  exact absurd (eq_blank_or_isDigit_of_mem_number hmem) (by decide)

theorem onOneLine_of_mem_settingsLines {b : Batch} (h : b.OnOneLine) :
    ∀ line ∈ settingsLines b.settings, OnOneLine line := by
  have hprogram : OnOneLine (b.settings.effectiveInterpreter.getD "(none)") := by
    cases hinterpreter : b.settings.effectiveInterpreter with
    | none => decide
    | some program => exact h.program hinterpreter
  have hmode : OnOneLine b.settings.onFailure.label := by
    cases b.settings.onFailure <;> decide
  have hdir : ∀ dir ∈ b.settings.workingDir.toList, OnOneLine dir := by
    simpa using h.workingDir
  simp only [settingsLines, List.forall_mem_append, List.forall_mem_cons, List.forall_mem_map,
    List.not_mem_nil, false_implies, implies_true, Text.onOneLine_append, hprogram, hmode,
    h.script, h.logDir, and_true]
  exact ⟨⟨by decide, fun dir hmem => ⟨by decide, hdir dir hmem⟩⟩, by decide⟩

theorem onOneLine_of_mem_entryLines {b : Batch} (h : b.OnOneLine) {i : Invocation}
    (hi : i ∈ b.invocations) (k : Nat) : ∀ line ∈ entryLines b (i, k), OnOneLine line := by
  have hmarker : OnOneLine (if i.enabled then " " else "#") := by cases i.enabled <;> decide
  have hname : ∀ name ∈ i.name.toList, OnOneLine name := by simpa using h.name i hi
  simp only [entryLines, commandLine, List.forall_mem_cons, List.forall_mem_map,
    Text.onOneLine_append, hmarker, onOneLine_number, h.display hi, true_and, and_true]
  exact ⟨by decide, fun name hmem => ⟨by decide, hname name hmem⟩⟩

/-- The lines that were written are those that are read. -/
theorem lines_text {b : Batch} (h : b.OnOneLine) : Text.lines (text b) = lines b := by
  refine Text.lines_join ?_
  intro line hline
  rw [lines_eq, preamble, List.mem_append, List.mem_cons, List.mem_cons, List.mem_append,
    List.mem_singleton, List.mem_flatMap] at hline
  rcases hline with (rfl | hline | rfl) | rfl | ⟨⟨i, k⟩, hentry, hline⟩
  · decide
  · exact onOneLine_of_mem_settingsLines h line hline
  · decide
  · exact onOneLine_heading _ _
  · exact onOneLine_of_mem_entryLines h (List.fst_mem_of_mem_zipIdx hentry) k line hline

/-- The heading is the only line with its first letter. -/
theorem heading_ne {line : String} (h : line.toList.head? ≠ some 'i') (enabled total : Nat) :
    line ≠ heading enabled total := by
  rintro rfl
  exact h (by simp [heading_eq])

/-- No line about the settings looks like the heading, so the listing starts at the right line. -/
theorem ne_heading_of_mem_preamble {b : Batch} {line : String} (h : line ∈ preamble b)
    (enabled total : Nat) : line ≠ heading enabled total := by
  refine heading_ne ?_ enabled total
  revert line
  simp only [preamble, settingsLines, List.forall_mem_append, List.forall_mem_cons,
    List.forall_mem_map, List.not_mem_nil, false_implies, implies_true, and_true]
  simp

theorem ne_heading_of_mem_entryLines {b : Batch} {entry : Invocation × Nat} {line : String}
    (h : line ∈ entryLines b entry) (enabled total : Nat) : line ≠ heading enabled total := by
  refine heading_ne ?_ enabled total
  rcases List.mem_cons.mp h with rfl | h
  · rw [toList_commandLine]
    cases entry.1.enabled <;> simp
  · obtain ⟨name, -, rfl⟩ := List.mem_map.mp h
    simp

/-- The heading is there once, whatever the texts of the batch are. -/
theorem count_heading_lines (b : Batch) :
    (lines b).count (heading b.enabledCount b.invocations.length) = 1 := by
  have hbefore : heading b.enabledCount b.invocations.length ∉ preamble b :=
    fun h => ne_heading_of_mem_preamble h _ _ rfl
  have hafter : heading b.enabledCount b.invocations.length ∉
      b.invocations.zipIdx.flatMap (entryLines b) := by
    intro h
    obtain ⟨entry, -, h⟩ := List.mem_flatMap.mp h
    exact ne_heading_of_mem_entryLines h _ _ rfl
  rw [lines_eq, List.count_append, List.count_cons_self, List.count_eq_zero.mpr hbefore,
    List.count_eq_zero.mpr hafter]

/-- Without the lines that give names, there is one line for each entry. -/
theorem filter_entryLines (b : Batch) (entries : List (Invocation × Nat)) :
    (entries.flatMap (entryLines b)).filter (!isNameLine ·) =
      entries.map fun e => commandLine b e.1 e.2 := by
  induction entries with
  | nil => rfl
  | cons entry rest ih =>
    have hnames : (entry.1.name.toList.map ("       name: " ++ ·)).filter (!isNameLine ·) = [] := by
      rw [List.filter_eq_nil_iff]
      intro line hline
      obtain ⟨name, -, rfl⟩ := List.mem_map.mp hline
      simp [isNameLine, nameIndent]
    rw [List.flatMap_cons, List.filter_append, ih, entryLines, List.filter_cons, hnames]
    simp [isNameLine_commandLine]

/-- The commands can be cut out of the text of a dry run, in the order of the entries. -/
theorem listing_text {b : Batch} (h : b.OnOneLine) :
    listing (heading b.enabledCount b.invocations.length) (text b) =
      b.invocations.zipIdx.map fun e => commandLine b e.1 e.2 := by
  have hbefore : ∀ line ∈ preamble b,
      (line != heading b.enabledCount b.invocations.length) = true := fun line hline => by
    simpa using ne_heading_of_mem_preamble hline _ _
  rw [listing, lines_text h, lines_eq, List.dropWhile_append_of_pos hbefore, List.dropWhile_cons,
    bne_self_eq_false, if_neg (by simp), List.drop_one, List.tail_cons, filter_entryLines]

/-- The commands of the lines that are not marked are those of the enabled entries. -/
theorem map_commandText_unmarked (b : Batch) :
    ((b.invocations.zipIdx.map fun e => commandLine b e.1 e.2).filter (!isMarked ·)).map
        commandText =
      b.enabled.map fun e => (b.commandFor e.2).display := by
  rw [List.filter_map, List.map_map, Batch.enabled, List.filter_map, List.map_map]
  simp [Function.comp_def, isMarked_commandLine, commandText_commandLine]

end DryRun

namespace Batch

open DryRun

/-- The commands that a backend gets are those of the calls. -/
theorem map_display_exchanges {σ : Type} (b : Batch) (backend : Backend σ) (s : σ) :
    (b.exchanges backend s).map (·.1.display) =
      (b.runCalls backend s).map (·.command.display) := by
  rw [exchanges_eq, List.map_map]
  rfl

/-- The text of a dry run shows what a run starts. Behind the heading, which stands there once, each
entry has one line with its number and its command, apart from the lines with names; as many of them
as the heading says are not marked. Whatever a backend answers, the commands that it gets are those
of the lines that are not marked: all of them if the batch goes on after a failure, and the first of
them if it does not. -/
theorem dryRun_shows_run {b : Batch} (h : b.OnOneLine) :
    let heading := DryRun.heading b.enabledCount b.invocations.length
    let listing := DryRun.listing heading (DryRun.text b)
    let unmarked := listing.filter (!isMarked ·)
    (Text.lines (DryRun.text b)).count heading = 1 ∧
    listing.length = b.invocations.length ∧
    (∀ (k : Nat) (i : Invocation), b.invocations[k]? = some i →
      listing[k]? = some ((if i.enabled then " " else "#") ++ " " ++
        Text.alignRight 2 (k + 1).repr ++ ". " ++ (b.commandFor i).display)) ∧
    b.enabledCount = unmarked.length ∧
    ∀ (σ : Type) (backend : Backend σ) (s : σ),
      let sent := (b.exchanges backend s).map (·.1.display)
      match b.settings.onFailure with
      | .proceed => sent = unmarked.map commandText
      | .halt => sent <+: unmarked.map commandText := by
  dsimp only
  rw [listing_text h, lines_text h]
  refine ⟨count_heading_lines b, by simp, ?_, ?_, ?_⟩
  · intro k i hi
    rw [← number_eq_alignRight]
    simp [List.getElem?_zipIdx, hi, commandLine]
  · rw [← List.length_map commandText, map_commandText_unmarked, List.length_map, enabledCount]
  · intro σ backend s
    rw [map_commandText_unmarked, map_display_exchanges]
    have hcalls : (b.calls backend s b.enabled).map (·.command.display) =
        b.enabled.map fun e => (b.commandFor e.2).display := by
      have hcommands :=
        congrArg (List.map Command.display) (b.map_command_calls backend s b.enabled)
      simpa [Function.comp_def] using hcommands
    cases hmode : b.settings.onFailure with
    | proceed =>
      change _ = _
      rw [b.runCalls_of_proceed backend s hmode, hcalls]
    | halt =>
      change _ <+: _
      rw [← hcalls]
      exact (b.runCalls_prefix_calls backend s).map _

/-- Texts that look like lines of a listing: a name with a number, a directory with a mark, and a
script with a full stop. -/
theorem dryRun_shows_run_of_misleading_texts :
    let b : Batch :=
      { settings := { interpreter := none, script := "./2. x", onFailure := .halt }
        invocations :=
          [{ name := some "   1. sh", plot := true }, { enabled := false, outDir := some "# 3. y" },
           { dataset := some "       name: z" }] }
    let listing := DryRun.listing (DryRun.heading 2 3) (DryRun.text b)
    b.OnOneLine ∧ listing.length = 3 ∧
      listing[0]? = some "   1. ./2. x ./apilogs/ -p" ∧
      listing[1]? = some "#  2. ./2. x ./apilogs/ --out_dir '# 3. y'" ∧
      listing[2]? = some "   3. ./2. x ./apilogs/ --dataset '       name: z'" ∧
      (listing.filter (!isMarked ·)).length = 2 := by
  intro b listing
  have h : b.OnOneLine := by
    refine ⟨nofun, by decide, by decide, nofun, ?_, ?_, ?_⟩ <;> simp [b] <;> decide
  obtain ⟨-, hlength, hlines, hcount, -⟩ := dryRun_shows_run h
  exact ⟨h, hlength, (hlines 0 _ rfl).trans (by decide), (hlines 1 _ rfl).trans (by decide),
    (hlines 2 _ rfl).trans (by decide), hcount.symm⟩

end Batch

end ScriptBatch
