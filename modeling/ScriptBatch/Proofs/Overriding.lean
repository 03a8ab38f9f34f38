import ScriptBatch.Proofs.Validity
import ScriptBatch.Resolve

/-!
# Settings from the command line

The batch to run has its entries from where it was loaded, and each of its settings from the command
line, or else from there as well. It is checked when the settings are in place. So a setting that is
overridden does not count at all, whether it was good or blank, and one that is put in its place has
to be good itself.
-/

namespace ScriptBatch

theorem getD_eq_getD_iff {α : Type} {given : Option α} {a b : α} :
    given.getD a = given.getD b ↔ (given = none → a = b) := by
  cases given <;> simp

namespace Options

/-- What the command line puts in the place of the interpreter, if anything: none at all, which
wins, or the one that it names. -/
def givenInterpreter (o : Options) : Option (Option String) :=
  if o.noInterpreter then some none else o.interpreter.map some

/-- What the command line puts in the place of the working directory. It can name one, but not take
one away. -/
def givenWorkingDir (o : Options) : Option (Option String) := o.workingDir.map some

def givenMode (o : Options) : Option FailureMode := if o.failFast then some .halt else none

/-- Every setting is the one that is given, or else the one that was there. -/
theorem override_eq (o : Options) (s : Settings) :
    o.override s =
      { interpreter := o.givenInterpreter.getD s.interpreter
        script := o.script.getD s.script
        logDir := o.logDir.getD s.logDir
        workingDir := o.givenWorkingDir.getD s.workingDir
        onFailure := o.givenMode.getD s.onFailure } := by
  rw [override, Settings.mk.injEq]
  refine ⟨?_, rfl, rfl, ?_, ?_⟩
  · unfold givenInterpreter
    cases o.noInterpreter <;> cases o.interpreter <;> rfl
  · unfold givenWorkingDir
    cases o.workingDir <;> rfl
  · unfold givenMode
    cases o.failFast <;> rfl

/-- The settings are the same where the command line gives none. -/
structure AgreeOutside (o : Options) (s s' : Settings) : Prop where
  interpreter : o.givenInterpreter = none → s.interpreter = s'.interpreter
  script : o.script = none → s.script = s'.script
  logDir : o.logDir = none → s.logDir = s'.logDir
  workingDir : o.givenWorkingDir = none → s.workingDir = s'.workingDir
  onFailure : o.givenMode = none → s.onFailure = s'.onFailure

/-- The settings that are overridden are those that do not matter. -/
theorem override_eq_override_iff {o : Options} {s s' : Settings} :
    o.override s = o.override s' ↔ o.AgreeOutside s s' := by
  rw [override_eq, override_eq, Settings.mk.injEq]
  simp only [getD_eq_getD_iff]
  constructor
  · rintro ⟨hinterpreter, hscript, hlogDir, hworkingDir, hmode⟩
    exact ⟨hinterpreter, hscript, hlogDir, hworkingDir, hmode⟩
  · rintro ⟨hinterpreter, hscript, hlogDir, hworkingDir, hmode⟩
    exact ⟨hinterpreter, hscript, hlogDir, hworkingDir, hmode⟩

end Options

namespace Batch

/-- Checking a batch never changes it. -/
theorem checked_eq_ok_iff {b : Batch} {valid : ValidBatch} :
    b.checked = .ok valid ↔ valid.batch = b := by
  rw [← validate_eq_ok_iff, checked]
  cases b.validate with
  | error v => exact ⟨nofun, nofun⟩
  | ok accepted =>
    change (Except.ok accepted : Except Error ValidBatch) = .ok valid ↔ _
    rw [Except.ok.injEq, Except.ok.injEq]

theorem exists_checked_eq_ok_iff {b : Batch} :
    (∃ valid, b.checked = .ok valid) ↔ b.WellFormed := by
  constructor
  · rintro ⟨valid, h⟩
    rw [← checked_eq_ok_iff.mp h]
    exact violation?_eq_none_iff.mp valid.valid
  · intro h
    exact ⟨⟨b, violation?_eq_none_iff.mpr h⟩, checked_eq_ok_iff.mpr rfl⟩

/-- The command line takes effect before the batch is checked, not after. -/
theorem resolve_of_loaded {read : FileReader} {o : Options} {b : Batch}
    (h : loadFor read o = .ok b) : resolve read o = (b.override o).checked := by
  rw [resolve, h]
  rfl

/-- The entries are not touched, so they are checked as they were loaded. -/
theorem wellFormed_override_iff {b : Batch} {o : Options} :
    (b.override o).WellFormed ↔
      b.invocations ≠ [] ∧ (∀ i ∈ b.invocations, i.WellFormed) ∧
        b.invocations.Pairwise Invocation.NamesDiffer ∧ (o.override b.settings).WellFormed := by
  constructor
  · rintro ⟨hnonempty, hsettings, hentries, hnames⟩
    exact ⟨hnonempty, hentries, hnames, hsettings⟩
  · rintro ⟨hnonempty, hentries, hnames, hsettings⟩
    exact ⟨hnonempty, hsettings, hentries, hnames⟩

/-- Batches with the same entries that differ at most where they are overridden are the same
afterwards. -/
theorem override_congr {b b' : Batch} {o : Options} (hentries : b.invocations = b'.invocations)
    (hsettings : o.AgreeOutside b.settings b'.settings) : b.override o = b'.override o := by
  rw [override, override, hentries, Options.override_eq_override_iff.mpr hsettings]

/-- The batch to run has the entries that were loaded, and every setting from the command line if it
is given there. There is one exactly if the entries pass their checks, there is at least one of
them, and the texts among the settings say something, as they are in the end. What was loaded
counts only where it is not overridden: from two sources with the same entries, and with the same
settings outside of those, comes the same batch or the same error. -/
theorem resolve_overrides {read : FileReader} {o : Options} {b : Batch}
    (h : loadFor read o = .ok b) :
    let settings : Settings :=
      { interpreter := o.givenInterpreter.getD b.settings.interpreter
        script := o.script.getD b.settings.script
        logDir := o.logDir.getD b.settings.logDir
        workingDir := o.givenWorkingDir.getD b.settings.workingDir
        onFailure := o.givenMode.getD b.settings.onFailure }
    ((∃ valid, resolve read o = .ok valid) ↔
      b.invocations ≠ [] ∧ (∀ i ∈ b.invocations, i.WellFormed) ∧
        b.invocations.Pairwise Invocation.NamesDiffer ∧ settings.WellFormed) ∧
    (∀ valid, resolve read o = .ok valid →
      valid.batch = { settings := settings, invocations := b.invocations }) ∧
    ∀ (read' : FileReader) (config : Option String) (b' : Batch),
      loadFor read' { o with config := config } = .ok b' → b.invocations = b'.invocations →
      o.AgreeOutside b.settings b'.settings →
      resolve read o = resolve read' { o with config := config } := by
  dsimp only
  rw [← Options.override_eq, resolve_of_loaded h]
  refine ⟨?_, ?_, ?_⟩
  · rw [exists_checked_eq_ok_iff, wellFormed_override_iff]
  · intro valid hvalid
    exact checked_eq_ok_iff.mp hvalid
  · intro read' config b' h' hentries hsettings
    rw [resolve_of_loaded h', override_congr hentries hsettings]
    rfl

/-- The standard batch, with settings that all come through, and with one that is blank. -/
theorem resolve_overrides_of_standard :
    let read : FileReader := fun _ => .error .notFound
    let o : Options :=
      { interpreter := some "sh", noInterpreter := true, script := some "./run", failFast := true }
    let blank : Options := { o with logDir := some "\u00a0 " }
    loadFor read o = .ok standard ∧ loadFor read blank = .ok standard ∧
      (∃ valid, resolve read o = .ok valid ∧
        valid.batch =
          { settings := { interpreter := none, script := "./run", onFailure := .halt }
            invocations := standardInvocations }) ∧
      ¬ ∃ valid, resolve read blank = .ok valid := by
  intro read o blank
  have hload : loadFor read o = .ok standard := rfl
  have hblank : loadFor read blank = .ok standard := rfl
  have hentries : (standard.override o).WellFormed := violation?_eq_none_iff.mp (by decide)
  obtain ⟨hexists, hbatch, -⟩ := resolve_overrides hload
  obtain ⟨hnone, -, -⟩ := resolve_overrides hblank
  refine ⟨hload, hblank, ?_, ?_⟩
  · obtain ⟨valid, hvalid⟩ := hexists.mpr (wellFormed_override_iff.mp hentries)
    exact ⟨valid, hvalid, hbatch valid hvalid⟩
  · intro hvalid
    obtain ⟨-, -, -, hsettings⟩ := hnone.mp hvalid
    exact absurd hsettings.logDir (by rw [← Text.isBlankText_eq_false_iff]; decide)

end Batch

end ScriptBatch
