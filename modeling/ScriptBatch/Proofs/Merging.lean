import ScriptBatch.Proofs.Overriding

/-!
# Merging command lines

Settings that are overridden by one command line after another could as well be overridden once, by
all of them merged into one. Merging is associative and has the empty command line as its unit, so
command lines form a monoid, and overriding is its action on settings. Each setting has a view of
the command lines that can put something in its place. In every such view the later one of two
command lines wins, and all that is said about a list of them follows from this.
-/

namespace ScriptBatch

namespace Options

/-- The command line says how the script is started, through an interpreter or without one. -/
def choosesInterpreter (o : Options) : Bool := o.noInterpreter || o.interpreter.isSome

/-- Two command lines as one, where the second one comes later and wins. How the script is started
is said by two options, which are taken from the same command line. -/
def merge (a b : Options) : Options where
  config := b.config.or a.config
  interpreter := if b.choosesInterpreter then b.interpreter else a.interpreter
  noInterpreter := if b.choosesInterpreter then b.noInterpreter else a.noInterpreter
  script := b.script.or a.script
  logDir := b.logDir.or a.logDir
  workingDir := b.workingDir.or a.workingDir
  failFast := a.failFast || b.failFast
  logLevel := b.logLevel.or a.logLevel
  dryRun := a.dryRun || b.dryRun

def mergeAll (steps : List Options) : Options := steps.foldl merge {}

theorem choosesInterpreter_eq_false_iff {o : Options} :
    o.choosesInterpreter = false ↔ o.interpreter = none ∧ o.noInterpreter = false := by
  simp [choosesInterpreter, and_comm]

theorem choosesInterpreter_merge (a b : Options) :
    (a.merge b).choosesInterpreter = (b.choosesInterpreter || a.choosesInterpreter) := by
  change ((if b.choosesInterpreter then b.noInterpreter else a.noInterpreter) ||
    (if b.choosesInterpreter then b.interpreter else a.interpreter).isSome) = _
  cases hb : b.choosesInterpreter with
  | true => exact hb
  | false => rfl

/-- Command lines can be put together from either end. -/
theorem merge_assoc (a b c : Options) : (a.merge b).merge c = a.merge (b.merge c) := by
  have hchooses := b.choosesInterpreter_merge c
  rw [merge, merge.eq_def a (b.merge c), Options.mk.injEq, hchooses]
  refine ⟨?_, ?_, ?_, ?_, ?_, ?_, ?_, ?_, ?_⟩
  · exact Option.or_assoc.symm
  · cases hc : c.choosesInterpreter <;> simp [merge, hc]
  · cases hc : c.choosesInterpreter <;> simp [merge, hc]
  · exact Option.or_assoc.symm
  · exact Option.or_assoc.symm
  · exact Option.or_assoc.symm
  · exact Bool.or_assoc ..
  · exact Option.or_assoc.symm
  · exact Bool.or_assoc ..

theorem merge_empty (a : Options) : a.merge {} = a := by
  simp [merge, choosesInterpreter]

theorem empty_merge (a : Options) : merge {} a = a := by
  have hinterpreter : (if a.choosesInterpreter then a.interpreter else none) = a.interpreter := by
    cases ha : a.choosesInterpreter with
    | true => rfl
    | false => exact (choosesInterpreter_eq_false_iff.mp ha).1.symm
  have hdirect : (if a.choosesInterpreter then a.noInterpreter else false) = a.noInterpreter := by
    cases ha : a.choosesInterpreter with
    | true => rfl
    | false => exact (choosesInterpreter_eq_false_iff.mp ha).2.symm
  simp [merge, hinterpreter, hdirect]

theorem merge_self (a : Options) : a.merge a = a := by
  simp [merge]

/-! ## Views -/

/-- What the last of the steps gives, among those that give anything. -/
def lastGiven {α : Type} (given : Options → Option α) (steps : List Options) : Option α :=
  steps.reverse.findSome? given

/-- A part of the command line where the later one of two wins. -/
structure LaterWins {α : Type} (given : Options → Option α) : Prop where
  empty : given {} = none
  merge (a b : Options) : given (a.merge b) = (given b).or (given a)

/-- Whatever later command lines win over earlier ones is decided by the last one that gives it.
-/
theorem LaterWins.mergeAll {α : Type} {given : Options → Option α} (h : LaterWins given)
    (steps : List Options) : given (mergeAll steps) = lastGiven given steps := by
  have hstart (start : Options) :
      given (steps.foldl Options.merge start) = (lastGiven given steps).or (given start) := by
    induction steps generalizing start with
    | nil => rfl
    | cons o rest ih =>
      rw [List.foldl_cons, ih, h.merge, lastGiven, lastGiven, List.reverse_cons,
        List.findSome?_append, ← Option.or_assoc]
      simp
  rw [Options.mergeAll, hstart, h.empty, Option.or_none]

theorem laterWins_script : LaterWins (·.script) := ⟨rfl, fun _ _ => rfl⟩

theorem laterWins_logDir : LaterWins (·.logDir) := ⟨rfl, fun _ _ => rfl⟩

theorem laterWins_workingDir : LaterWins givenWorkingDir where
  empty := rfl
  merge a b := by
    rw [givenWorkingDir, givenWorkingDir, givenWorkingDir, ← Option.map_or]
    rfl

/-- Naming an interpreter and doing without one both count as a choice. -/
theorem isSome_givenInterpreter (o : Options) :
    o.givenInterpreter.isSome = o.choosesInterpreter := by
  unfold givenInterpreter choosesInterpreter
  cases o.noInterpreter <;> simp

/-- The two options for the interpreter act as one. -/
theorem laterWins_interpreter : LaterWins givenInterpreter where
  empty := rfl
  merge a b := by
    have hmerge : (a.merge b).givenInterpreter =
        if b.choosesInterpreter then b.givenInterpreter else a.givenInterpreter := by
      unfold givenInterpreter merge
      cases b.choosesInterpreter <;> rfl
    rw [hmerge, ← isSome_givenInterpreter]
    cases b.givenInterpreter <;> rfl

theorem laterWins_mode : LaterWins givenMode where
  empty := rfl
  merge a b := by
    unfold givenMode merge
    cases a.failFast <;> cases b.failFast <;> rfl

/-- Failing fast can be asked for, but not be taken back. -/
theorem lastGiven_givenMode (steps : List Options) :
    lastGiven givenMode steps = if steps.any (·.failFast) then some .halt else none := by
  induction steps with
  | nil => rfl
  | cons o rest ih =>
    rw [lastGiven] at ih
    rw [lastGiven, List.reverse_cons, List.findSome?_append, ih, List.any_cons]
    cases hfast : o.failFast <;> cases rest.any (·.failFast) <;> simp [givenMode, hfast]

/-! ## Overriding as an action -/

/-- To override by the merged command line is to override by the first one and then by the second
one. -/
theorem override_merge (a b : Options) (s : Settings) :
    (a.merge b).override s = b.override (a.override s) := by
  rw [override_eq, override_eq b, override_eq a]
  simp only [laterWins_interpreter.merge, laterWins_workingDir.merge, laterWins_mode.merge,
    laterWins_script.merge, laterWins_logDir.merge, Option.getD_or]

end Options

def Settings.overrideAll (s : Settings) (steps : List Options) : Settings :=
  steps.foldl (fun s o => o.override s) s

namespace Options

/-- Overriding settings step by step is the same as merging the steps and overriding once. -/
theorem overrideAll_eq (s : Settings) (steps : List Options) :
    s.overrideAll steps = (mergeAll steps).override s := by
  have hstart (start : Options) :
      (start.override s).overrideAll steps = (steps.foldl merge start).override s := by
    induction steps generalizing start with
    | nil => rfl
    | cons o rest ih =>
      rw [List.foldl_cons, ← ih, override_merge]
      rfl
  exact hstart {}

/-- Each setting is the last one that is given, or else the one that was there. -/
theorem overrideAll_eq_lastGiven (s : Settings) (steps : List Options) :
    s.overrideAll steps =
      { interpreter := (lastGiven givenInterpreter steps).getD s.interpreter
        script := (lastGiven (·.script) steps).getD s.script
        logDir := (lastGiven (·.logDir) steps).getD s.logDir
        workingDir := (lastGiven givenWorkingDir steps).getD s.workingDir
        onFailure := (lastGiven givenMode steps).getD s.onFailure } := by
  rw [overrideAll_eq, override_eq, laterWins_interpreter.mergeAll, laterWins_workingDir.mergeAll,
    laterWins_mode.mergeAll, ← laterWins_script.mergeAll, ← laterWins_logDir.mergeAll]

/-- Overriding is an action of command lines, with merging as the product and the empty command line
as the unit, on settings. So any number of command lines has the effect of one, and a command line
that is used twice has the effect that it has once. In the end a setting is what the last command
line said that says anything about it, and what it was at the beginning if there is none. Failing
fast stays once it is asked for. -/
theorem override_is_action :
    (∀ a b c : Options, (a.merge b).merge c = a.merge (b.merge c)) ∧
    (∀ a : Options, merge {} a = a ∧ a.merge {} = a) ∧
    (∀ (a b : Options) (s : Settings), (a.merge b).override s = b.override (a.override s)) ∧
    (∀ (a : Options) (s : Settings), a.override (a.override s) = a.override s) ∧
    ∀ (s : Settings) (steps : List Options),
      s.overrideAll steps = (mergeAll steps).override s ∧
      s.overrideAll steps =
        { interpreter := (lastGiven givenInterpreter steps).getD s.interpreter
          script := (lastGiven (·.script) steps).getD s.script
          logDir := (lastGiven (·.logDir) steps).getD s.logDir
          workingDir := (lastGiven givenWorkingDir steps).getD s.workingDir
          onFailure := if steps.any (·.failFast) then .halt else s.onFailure } := by
  refine ⟨merge_assoc, fun a => ⟨a.empty_merge, a.merge_empty⟩, override_merge, ?_, ?_⟩
  · intro a s
    rw [← override_merge, merge_self]
  · intro s steps
    have hmode : (lastGiven givenMode steps).getD s.onFailure =
        if steps.any (·.failFast) then .halt else s.onFailure := by
      rw [lastGiven_givenMode]
      split <;> rfl
    refine ⟨overrideAll_eq s steps, ?_⟩
    rw [overrideAll_eq_lastGiven, hmode]

end Options

end ScriptBatch
