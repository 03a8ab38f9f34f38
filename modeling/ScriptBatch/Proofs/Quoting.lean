import ScriptBatch.Command

/-!
# Reading a displayed command

A command is displayed on one line, with a space in front of each argument and quotes around those
that are empty or contain a blank. The line can be read again by splitting it at the spaces outside
of quotes, as long as no argument contains a quote and the program, which never gets quotes,
contains no space. A displayed argument then is read as one piece, whatever follows it: either its
quotes come in a pair, and a space between them divides nothing, or it has neither quote nor space.
-/

namespace ScriptBatch

namespace Text

/-- The pieces between the spaces that are outside of quotes. The quotes themselves belong to no
piece, and `quoted` says whether the text starts between two of them. -/
def pieces (quoted : Bool) : List Char → List (List Char)
  | [] => [[]]
  | c :: rest =>
    if c = '\'' then pieces (!quoted) rest
    else if c = ' ' ∧ quoted = false then [] :: pieces quoted rest
    else (pieces quoted rest).modifyHead (c :: ·)

theorem pieces_quote (quoted : Bool) (rest : List Char) :
    pieces quoted ('\'' :: rest) = pieces (!quoted) rest := by
  rw [pieces, if_pos rfl]

theorem pieces_space (rest : List Char) : pieces false (' ' :: rest) = [] :: pieces false rest := by
  rw [pieces, if_neg (by decide), if_pos ⟨rfl, rfl⟩]

/-- Text without a quote, and without a space if it is not between quotes, goes to one piece. -/
theorem pieces_append {quoted : Bool} {cs : List Char} (hquote : '\'' ∉ cs)
    (hspace : quoted = false → ' ' ∉ cs) (rest : List Char) :
    pieces quoted (cs ++ rest) = (pieces quoted rest).modifyHead (cs ++ ·) := by
  induction cs with
  | nil => cases h : pieces quoted rest <;> simp [h]
  | cons c cs ih =>
    obtain ⟨hc, hcs⟩ := not_or.mp (mt List.mem_cons.mpr hquote)
    have hdivides : ¬ (c = ' ' ∧ quoted = false) := by
      rintro ⟨rfl, hplain⟩
      exact hspace hplain List.mem_cons_self
    have hmore : quoted = false → ' ' ∉ cs := fun hplain hmem =>
      hspace hplain (List.mem_cons_of_mem _ hmem)
    rw [List.cons_append, pieces, if_neg (Ne.symm hc), if_neg hdivides, ih hcs hmore,
      List.modifyHead_modifyHead]
    rfl

end Text

namespace Command

open Text (pieces)

/-- Every argument with a space in it is shown between quotes. -/
theorem space_not_mem_of_needsQuotes {arg : String} (h : needsQuotes arg = false) :
    ' ' ∉ arg.toList := by
  intro hmem
  have hblank : arg.toList.any Text.isBlank = true := List.any_eq_true.mpr ⟨' ', hmem, by decide⟩
  simp [needsQuotes, hblank] at h

/-- An argument is read as one piece, with or without quotes around it. -/
theorem pieces_displayArg {arg : String} (h : '\'' ∉ arg.toList) (rest : List Char) :
    pieces false ((displayArg arg).toList ++ rest) =
      (pieces false rest).modifyHead (arg.toList ++ ·) := by
  cases hneeds : needsQuotes arg with
  | false =>
    rw [displayArg, hneeds, if_neg (by decide)]
    exact Text.pieces_append h (fun _ => space_not_mem_of_needsQuotes hneeds) rest
  | true =>
    have hchars : (displayArg arg).toList ++ rest = '\'' :: (arg.toList ++ '\'' :: rest) := by
      simp [displayArg, hneeds]
    calc pieces false ((displayArg arg).toList ++ rest)
      _ = pieces true (arg.toList ++ '\'' :: rest) := by rw [hchars, Text.pieces_quote]; rfl
      _ = (pieces true ('\'' :: rest)).modifyHead (arg.toList ++ ·) :=
        Text.pieces_append h (by simp) ('\'' :: rest)
      _ = (pieces false rest).modifyHead (arg.toList ++ ·) := by rw [Text.pieces_quote]; rfl

def displayArgs (args : List String) : List Char :=
  args.flatMap fun arg => ' ' :: (displayArg arg).toList

theorem toList_display (c : Command) :
    c.display.toList = c.program.toList ++ displayArgs c.args := by
  rw [display, String.toList_append, String.toList_join, List.flatMap_map]
  simp [displayArgs]

/-- The arguments are the pieces behind the first one, which ends at the space in front of them. -/
theorem pieces_displayArgs {args : List String} (h : ∀ arg ∈ args, '\'' ∉ arg.toList) :
    pieces false (displayArgs args) = [] :: args.map String.toList := by
  induction args with
  | nil => rfl
  | cons arg args ih =>
    obtain ⟨harg, hargs⟩ := List.forall_mem_cons.mp h
    have hchars : displayArgs (arg :: args) =
        ' ' :: ((displayArg arg).toList ++ displayArgs args) := by
      simp [displayArgs]
    rw [hchars, Text.pieces_space, pieces_displayArg harg, ih hargs]
    simp

/-- Reads a program and its arguments from a line. The program goes up to the first space. -/
def read (line : String) : String × List String :=
  (String.ofList (line.toList.takeWhile (· != ' ')),
    (pieces false (line.toList.dropWhile (· != ' '))).tail.map String.ofList)

/-- There is nothing in the command that a reader of its display would take for a boundary: the
program has no space, and no argument has a quote. -/
structure Legible (c : Command) : Prop where
  program : ' ' ∉ c.program.toList
  args : ∀ arg ∈ c.args, '\'' ∉ arg.toList

/-- A legible command can be read back from its line. -/
theorem read_display {c : Command} (h : c.Legible) : read c.display = (c.program, c.args) := by
  have hprogram : ∀ x ∈ c.program.toList, (x != ' ') = true := by
    intro x hx
    rw [bne_iff_ne]
    rintro rfl
    exact h.program hx
  -- nothing is left, or the first argument has a space in front of it
  have hends : (displayArgs c.args).takeWhile (· != ' ') = [] ∧
      (displayArgs c.args).dropWhile (· != ' ') = displayArgs c.args := by
    cases c.args <;> simp [displayArgs]
  rw [read, toList_display, List.takeWhile_append_of_pos hprogram,
    List.dropWhile_append_of_pos hprogram, hends.1, hends.2, pieces_displayArgs h.args]
  simp [Function.comp_def]

/-- A displayed command shows its program and where each of its arguments begins and ends: two
commands look the same if and only if they have the same program and the same arguments, empty ones
and any kind of blank included, and both can be read off the line. For this the programs must not
contain a space, since they are displayed without quotes, and the arguments no quote, since it is
displayed as it is. -/
theorem display_shows_arguments {c d : Command} (hc : c.Legible) (hd : d.Legible) :
    (c.display = d.display ↔ c.program = d.program ∧ c.args = d.args) ∧
      read c.display = (c.program, c.args) := by
  refine ⟨⟨fun h => ?_, ?_⟩, read_display hc⟩
  · have hread : (c.program, c.args) = (d.program, d.args) := by
      rw [← read_display hc, ← read_display hd, h]
    exact Prod.mk.inj hread
  · rintro ⟨hprogram, hargs⟩
    rw [display, display, hprogram, hargs]

/-- Two commands that differ in nothing but the boundaries of their arguments, among them an empty
one and one with an ideographic space, and whose programs contain a quote. -/
theorem display_shows_arguments_of_blank_arguments :
    let c : Command := ⟨"it's", ["", "a b", "x\u3000y", "--"], none⟩
    let d : Command := ⟨"it's", ["", "a", "b", "x\u3000y --"], none⟩
    c.Legible ∧ d.Legible ∧ c.display ≠ d.display ∧
      read "it's '' 'a b' 'x\u3000y' --" = (c.program, c.args) := by
  intro c d
  have hc : c.Legible := ⟨by decide, by decide⟩
  have hd : d.Legible := ⟨by decide, by decide⟩
  obtain ⟨hiff, hread⟩ := display_shows_arguments hc hd
  refine ⟨hc, hd, fun h => ?_, hread⟩
  exact absurd (hiff.mp h).2 (by decide)

-- a program with a space, and arguments with a quote, can look like something else
example : (⟨"a b", [], none⟩ : Command).display = (⟨"a", ["b"], none⟩ : Command).display ∧
    (⟨"a", ["'b", "c'"], none⟩ : Command).display = (⟨"a", ["b c"], none⟩ : Command).display := by
  decide

end Command

end ScriptBatch
