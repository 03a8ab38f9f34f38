import Mathlib.Data.List.TakeWhile
import ScriptBatch.Options.Reader
import ScriptBatch.Proofs.Results

/-!
# Command lines and what they ask for

Options are a set of requests, at most one for each flag, and a command line writes them down one
after another. A reader goes over the arguments and keeps at most one option pending. After each
request it has come to the state that is given by the requests so far, if the pending option counts
as if it had taken effect. So reading what was written gives the options back, whatever the order
and the spelling. What a reader does in one step is said once, for all arguments, and from this
follows that two flags that exclude each other are never both accepted.
-/

namespace ScriptBatch

/-- What a command line can ask for: an option with its value, or a switch. -/
inductive Request where
  | value (option : ValueOption) (text : String)
  | switch (s : Switch)
  deriving DecidableEq

def Request.flag : Request → Flag
  | value option _ => .value option
  | switch s => .switch s

/-- A request as it stands on a command line. -/
inductive Clause where
  | switch (s : Switch)
  /-- The value stands in the same argument, behind an equals sign. -/
  | attached (option : ValueOption) (text : String)
  /-- The value is the next argument, which must not begin like a flag. -/
  | separate (option : ValueOption) (text : String) (h : text.toList.head? ≠ some '-')

namespace Clause

def request : Clause → Request
  | switch s => .switch s
  | attached option text => .value option text
  | separate option text _ => .value option text

def args : Clause → List String
  | switch s => ["--" ++ s.name]
  | attached option text => ["--" ++ option.name ++ "=" ++ text]
  | separate option text _ => ["--" ++ option.name, text]

end Clause

def Request.clause : Request → Clause
  | value option text => .attached option text
  | switch s => .switch s

theorem Request.request_clause (q : Request) : q.clause.request = q := by
  cases q <;> rfl

theorem Flag.mem_all (f : Flag) : f ∈ all := by
  cases f with
  | value option => cases option <;> decide
  | switch s => cases s <;> decide
  | inquiry i => cases i <;> decide

/-- A flag is recognised by its own name, so no two flags share one. -/
theorem Flag.ofName?_name (f : Flag) : ofName? f.name = some f := by
  have hall : ∀ f ∈ all, ofName? f.name = some f := by decide
  exact hall f f.mem_all

theorem Flag.name_ne_nil (f : Flag) : f.name.toList ≠ [] := by
  have hall : ∀ f ∈ all, f.name.toList ≠ [] := by decide
  exact hall f f.mem_all

/-- A name does not run into the value behind it. -/
theorem Flag.ne_of_mem_name (f : Flag) : ∀ c ∈ f.name.toList, (c != '=') = true := by
  have hall : ∀ f ∈ all, f.name.toList.all (· != '=') = true := by decide
  exact List.all_eq_true.mp (hall f f.mem_all)

theorem Log.Severity.ofName?_name (level : Log.Severity) : ofName? level.name = some level := by
  cases level <;> decide

theorem Log.Severity.name_injective {level level' : Log.Severity} (h : level.name = level'.name) :
    level = level' := by
  have hlevel := level.ofName?_name
  rw [h, ofName?_name] at hlevel
  exact (Option.some.inj hlevel).symm

theorem Log.Severity.ofName?_eq_some {text : String} {level : Log.Severity}
    (h : ofName? text = some level) : level.name = text := by
  simpa using List.find?_some h

namespace Options

def text? (o : Options) : ValueOption → Option String
  | .config => o.config
  | .interpreter => o.interpreter
  | .script => o.script
  | .logDir => o.logDir
  | .workingDir => o.workingDir
  | .logLevel => o.logLevel.map Log.Severity.name

def isOn (o : Options) : Switch → Bool
  | .noInterpreter => o.noInterpreter
  | .failFast => o.failFast
  | .dryRun => o.dryRun

def request? (o : Options) : Flag → Option Request
  | .value option => (o.text? option).map (.value option)
  | .switch s => if o.isOn s then some (.switch s) else none
  | .inquiry _ => none

def requests (o : Options) : List Request := Flag.all.filterMap o.request?

/-- The options with one more request. Only a level of the log can be refused. -/
def grant? (o : Options) : Request → Option Options
  | .value option text => o.setValue? option text
  | .switch s => some (o.setSwitch s)

/-! ## Options as requests -/

theorem flag_of_request? {o : Options} {f : Flag} {q : Request} (h : o.request? f = some q) :
    q.flag = f := by
  cases f with
  | value option =>
    obtain ⟨text, -, rfl⟩ := Option.map_eq_some_iff.mp h
    rfl
  | switch s =>
    obtain ⟨-, rfl⟩ : o.isOn s = true ∧ .switch s = q := by simpa [request?] using h
    rfl
  | inquiry i => simp [request?] at h

theorem request?_interpreter_ne_none {o : Options} :
    o.request? (.value .interpreter) ≠ none ↔ o.interpreter ≠ none := by
  simp [request?, text?]

theorem request?_noInterpreter_ne_none {o : Options} :
    o.request? (.switch .noInterpreter) ≠ none ↔ o.noInterpreter = true := by
  cases h : o.noInterpreter <;> simp [request?, isOn, h]

/-- Options ask for something if the flag for it is set to that. -/
theorem mem_requests_iff {o : Options} {q : Request} :
    q ∈ o.requests ↔ o.request? q.flag = some q := by
  rw [requests, List.mem_filterMap]
  constructor
  · rintro ⟨f, -, h⟩
    rwa [flag_of_request? h]
  · intro h
    exact ⟨q.flag, q.flag.mem_all, h⟩

/-- A flag is among those of the requests if its request is made. -/
theorem mem_flags_requests_iff {o : Options} {f : Flag} :
    f ∈ o.requests.map Request.flag ↔ o.request? f ≠ none := by
  rw [List.mem_map]
  constructor
  · rintro ⟨q, hq, rfl⟩
    simp [mem_requests_iff.mp hq]
  · intro h
    obtain ⟨q, hq⟩ := Option.ne_none_iff_exists'.mp h
    have hflag := flag_of_request? hq
    exact ⟨q, mem_requests_iff.mpr (hflag ▸ hq), hflag⟩

/-- Options never ask for the same flag twice. -/
theorem nodup_flags_requests (o : Options) : (o.requests.map Request.flag).Nodup := by
  rw [requests, List.Nodup, List.pairwise_map, List.pairwise_filterMap]
  have hall : Flag.all.Pairwise (· ≠ ·) := by decide
  refine hall.imp fun hne q hq q' hq' => ?_
  rwa [flag_of_request? hq, flag_of_request? hq']

theorem request?_empty (f : Flag) : ({} : Options).request? f = none := by
  cases f with
  | value option => cases option <;> rfl
  | switch s => cases s <;> rfl
  | inquiry i => rfl

/-- Options are determined by what they ask for. -/
theorem eq_of_request? {o o' : Options} (h : ∀ f, o.request? f = o'.request? f) : o = o' := by
  have htext (option : ValueOption) : o.text? option = o'.text? option :=
    (Option.map_inj_right fun _ _ => (Request.value.inj · |>.2)).mp (h (.value option))
  have hon (s : Switch) : o.isOn s = o'.isOn s := by
    have hs := h (.switch s)
    unfold request? at hs
    cases ho : o.isOn s <;> cases ho' : o'.isOn s <;> simp_all
  have hlevel : o.logLevel = o'.logLevel :=
    (Option.map_inj_right fun _ _ => Log.Severity.name_injective).mp (htext .logLevel)
  cases o
  cases o'
  rw [Options.mk.injEq]
  exact ⟨htext .config, htext .interpreter, hon .noInterpreter, htext .script, htext .logDir,
    htext .workingDir, hon .failFast, hlevel, hon .dryRun⟩

section

variable {o o' : Options} {option : ValueOption} {text : String}

/-- Setting an option changes its own value and no other. -/
theorem text?_setValue? (h : o.setValue? option text = some o') (option' : ValueOption) :
    o'.text? option' = if option' = option then some text else o.text? option' := by
  cases option with
  | logLevel =>
    obtain ⟨level, hlevel, rfl⟩ := Option.map_eq_some_iff.mp h
    obtain rfl := Log.Severity.ofName?_eq_some hlevel
    cases option' <;> rfl
  | config | interpreter | script | logDir | workingDir =>
    obtain rfl := Option.some.inj h
    cases option' <;> rfl

theorem isOn_setValue? (h : o.setValue? option text = some o') (s : Switch) :
    o'.isOn s = o.isOn s := by
  cases option with
  | logLevel =>
    obtain ⟨level, -, rfl⟩ := Option.map_eq_some_iff.mp h
    cases s <;> rfl
  | config | interpreter | script | logDir | workingDir =>
    obtain rfl := Option.some.inj h
    cases s <;> rfl

theorem text?_setSwitch (o : Options) (s : Switch) (option : ValueOption) :
    (o.setSwitch s).text? option = o.text? option := by
  cases s <;> cases option <;> rfl

theorem isOn_setSwitch (o : Options) (s s' : Switch) :
    (o.setSwitch s).isOn s' = if s' = s then true else o.isOn s' := by
  cases s <;> cases s' <;> rfl

end

/-- A request changes what is asked for by its flag and nothing else. -/
theorem request?_grant? {o o' : Options} {q : Request} (h : o.grant? q = some o') (f : Flag) :
    o'.request? f = if f = q.flag then some q else o.request? f := by
  cases q with
  | value option text =>
    cases f with
    | value option' =>
      simp only [request?, text?_setValue? h, Request.flag, Flag.value.injEq]
      split
      · rename_i heq
        rw [heq]
        rfl
      · rfl
    | switch s => simp [request?, isOn_setValue? h, Request.flag]
    | inquiry i => simp [request?, Request.flag]
  | switch s =>
    obtain rfl := Option.some.inj h
    cases f with
    | value option => simp [request?, text?_setSwitch, Request.flag]
    | switch s' =>
      simp only [request?, isOn_setSwitch, Request.flag, Flag.switch.injEq]
      split
      · rename_i heq
        rw [heq]
        rfl
      · rfl
    | inquiry i => simp [request?, Request.flag]

/-- What options ask for can be granted. -/
theorem exists_grant?_of_mem {o : Options} {q : Request} (h : q ∈ o.requests) (start : Options) :
    ∃ o', start.grant? q = some o' := by
  cases q with
  | switch s => exact ⟨_, rfl⟩
  | value option text =>
    cases option with
    | logLevel =>
      obtain ⟨_, hlevel, heq⟩ := Option.map_eq_some_iff.mp (mem_requests_iff.mp h)
      obtain ⟨level, -, rfl⟩ := Option.map_eq_some_iff.mp hlevel
      obtain rfl := (Request.value.inj heq).2
      exact ⟨_, by rw [grant?, setValue?, level.ofName?_name]; rfl⟩
    | config | interpreter | script | logDir | workingDir => exact ⟨_, rfl⟩

/-- Requests that are made by different flags do not get in each other's way. -/
theorem exists_foldlM_grant? {l : List Request} (hflags : (l.map Request.flag).Nodup)
    (hgrant : ∀ q ∈ l, ∀ start : Options, ∃ o, start.grant? q = some o) (start : Options) :
    ∃ o, l.foldlM grant? start = some o ∧ (∀ q ∈ l, o.request? q.flag = some q) ∧
      ∀ f, f ∉ l.map Request.flag → o.request? f = start.request? f := by
  induction l generalizing start with
  | nil => exact ⟨start, rfl, by simp, fun _ _ => rfl⟩
  | cons q rest ih =>
    obtain ⟨hfresh, hflags⟩ := List.nodup_cons.mp hflags
    obtain ⟨hq, hgrant⟩ := List.forall_mem_cons.mp hgrant
    obtain ⟨next, hnext⟩ := hq start
    -- the rest leaves the flag of `q` alone, as it is not among theirs
    obtain ⟨o, ho, hmade, hframe⟩ := ih hflags hgrant next
    refine ⟨o, by rw [List.foldlM_cons, hnext]; exact ho, ?_, ?_⟩
    · refine List.forall_mem_cons.mpr ⟨?_, hmade⟩
      rw [hframe _ hfresh, request?_grant? hnext, if_pos rfl]
    · intro f hf
      obtain ⟨hne, hrest⟩ : f ≠ q.flag ∧ f ∉ rest.map Request.flag := by simpa using hf
      rw [hframe f hrest, request?_grant? hnext, if_neg hne]

/-- Options come out of their requests, one by one and in any order. -/
theorem foldlM_grant?_of_perm {o : Options} {l : List Request} (h : l.Perm o.requests) :
    l.foldlM grant? {} = some o := by
  have hflags : (l.map Request.flag).Nodup :=
    (h.map Request.flag).nodup_iff.mpr o.nodup_flags_requests
  have hgrant (q : Request) (hq : q ∈ l) := exists_grant?_of_mem (h.mem_iff.mp hq)
  obtain ⟨o', ho', hmade, hframe⟩ := exists_foldlM_grant? hflags hgrant {}
  have heq : o' = o := by
    refine eq_of_request? fun f => ?_
    cases hf : o.request? f with
    | some q =>
      have hflag := flag_of_request? hf
      rw [← hflag] at hf
      rw [← hflag, hmade q (h.mem_iff.mpr (mem_requests_iff.mpr hf))]
    | none =>
      rw [hframe f, request?_empty]
      intro hmem
      obtain ⟨q, hq, rfl⟩ := List.mem_map.mp hmem
      simp [mem_requests_iff.mp (h.mem_iff.mp hq)] at hf
  rw [ho', heq]

/-! ## What a reader does -/

namespace Reading

/-- A request takes effect. Its flag has not been given before, and it can be granted. -/
def TakesEffect (q : Request) (r r' : Reading) : Prop :=
  q.flag ∉ r.given ∧ ∃ o, r.options.grant? q = some o ∧
    r' = { r with options := o, given := r.given ++ [q.flag] }

variable {r r' : Reading}

/-- A flag can be noted once. The reader keeps the flags in the order in which they were given. -/
theorem note_eq_ok_iff {f : Flag} :
    r.note f = .ok r' ↔ f ∉ r.given ∧ r' = { r with given := r.given ++ [f] } := by
  unfold note
  split
  · rename_i hmem
    exact ⟨nofun, fun h => absurd hmem h.1⟩
  · rename_i hmem
    exact ⟨fun h => ⟨hmem, (Except.ok.inj h).symm⟩, fun h => congrArg _ h.2.symm⟩

/-- Assigning a value is the same as granting the request for it, under the flag that makes it. -/
theorem assign_eq_ok_iff {option : ValueOption} {text : String} :
    r.assign option text = .ok r' ↔ TakesEffect (.value option text) r r' := by
  rw [assign, bind_eq_ok_iff]
  constructor
  · rintro ⟨noted, hnoted, h⟩
    obtain ⟨hnew, rfl⟩ := note_eq_ok_iff.mp hnoted
    split at h
    · rename_i o ho
      exact ⟨hnew, o, ho, (Except.ok.inj h).symm⟩
    · simp at h
  · rintro ⟨hnew, o, ho, rfl⟩
    refine ⟨_, note_eq_ok_iff.mpr ⟨hnew, rfl⟩, ?_⟩
    have hset : r.options.setValue? option text = some o := ho
    simp only [hset]
    rfl

theorem settle_of_none (h : r.pending = none) : r.settle = .ok r := by
  rw [settle, h]

/-- A pending option with its value takes effect as soon as the reader settles. -/
theorem settle_of_value {option : ValueOption} {text : String}
    (h : r.pending = some (option, some text)) :
    r.settle = .ok r' ↔ TakesEffect (.value option text) { r with pending := none } r' := by
  rw [← assign_eq_ok_iff, settle, h]

theorem readFlag_attached_eq_ok_iff {option : ValueOption} {text : String} :
    r.readFlag (.value option) (some text) = .ok r' ↔
      ∃ settled, r.settle = .ok settled ∧ TakesEffect (.value option text) settled r' := by
  simp only [← assign_eq_ok_iff]
  exact bind_eq_ok_iff

/-- A flag that needs a value is left pending; what was pending before it takes effect first. -/
theorem readFlag_value_eq_ok_iff {option : ValueOption} :
    r.readFlag (.value option) none = .ok r' ↔
      ∃ settled, r.settle = .ok settled ∧ r' = { settled with pending := some (option, none) } := by
  rw [readFlag, bind_eq_ok_iff]
  exact ⟨fun ⟨settled, hs, h⟩ => ⟨settled, hs, (Except.ok.inj h).symm⟩,
    fun ⟨settled, hs, h⟩ => ⟨settled, hs, congrArg _ h.symm⟩⟩

theorem readFlag_switch_eq_ok_iff {s : Switch} :
    r.readFlag (.switch s) none = .ok r' ↔
      ∃ settled, r.settle = .ok settled ∧ TakesEffect (.switch s) settled r' := by
  rw [readFlag, bind_eq_ok_iff]
  refine exists_congr fun settled => and_congr_right fun _ => ?_
  rw [bind_eq_ok_iff]
  constructor
  · rintro ⟨noted, hnoted, h⟩
    obtain ⟨hnew, rfl⟩ := note_eq_ok_iff.mp hnoted
    exact ⟨hnew, _, rfl, (Except.ok.inj h).symm⟩
  · rintro ⟨hnew, o, ho, rfl⟩
    obtain rfl := Option.some.inj ho
    exact ⟨_, note_eq_ok_iff.mpr ⟨hnew, rfl⟩, rfl⟩

/-- A known flag lets the pending option take effect. Then it takes effect itself, or is pending. -/
theorem readFlag_cases {f : Flag} {attached : Option String} (h : r.readFlag f attached = .ok r') :
    ∃ settled, r.settle = .ok settled ∧ ((∃ q, TakesEffect q settled r') ∨
      ∃ option, r' = { settled with pending := some (option, none) }) := by
  cases f with
  | value option =>
    cases attached with
    | some text =>
      obtain ⟨settled, hs, h⟩ := readFlag_attached_eq_ok_iff.mp h
      exact ⟨settled, hs, .inl ⟨_, h⟩⟩
    | none =>
      obtain ⟨settled, hs, h⟩ := readFlag_value_eq_ok_iff.mp h
      exact ⟨settled, hs, .inr ⟨option, h⟩⟩
  | switch s =>
    cases attached with
    | some text => simp [readFlag] at h
    | none =>
      obtain ⟨settled, hs, h⟩ := readFlag_switch_eq_ok_iff.mp h
      exact ⟨settled, hs, .inl ⟨_, h⟩⟩
  | inquiry i =>
    cases attached with
    | some text => cases i <;> simp [readFlag] at h
    | none =>
      cases i <;>
      · obtain ⟨_, _, h⟩ := bind_eq_ok_iff.mp h
        simp at h

/-- No one-letter flag is part of a run: both letters end the reading, and any other is unknown.
-/
theorem readShort_ne_ok (letter : Char) : r.readShort letter ≠ .ok r' := by
  intro h
  unfold readShort at h
  split at h
  · obtain ⟨_, _, h⟩ := bind_eq_ok_iff.mp h
    simp at h
  · obtain ⟨_, _, h⟩ := bind_eq_ok_iff.mp h
    simp at h
  · simp at h

/-- An argument is the value of the pending option, ends the options, or is a known flag. -/
theorem read_cases {arg : String} (h : r.read arg = .ok r') :
    (∃ option, r.pending = some (option, none) ∧
      r' = { r with pending := some (option, some arg) }) ∨
    r' = { r with ended := true } ∨
    ∃ settled, r.settle = .ok settled ∧ ((∃ q, TakesEffect q settled r') ∨
      ∃ option, r' = { settled with pending := some (option, none) }) := by
  simp only [read] at h
  split at h
  · simp at h
  -- an argument that does not begin like a flag is a value, and one is wanted or not
  split at h
  · rename_i option hpending _
    exact .inl ⟨option, hpending, (Except.ok.inj h).symm⟩
  · simp at h
  · split at h
    · exact .inr (.inl (Except.ok.inj h).symm)
    · simp only [readLong] at h
      split at h
      · exact .inr (.inr (readFlag_cases h))
      · simp at h
    · exact absurd h (readShort_ne_ok _)
    · simp at h

/-- Reading ends well unless the pending option is refused or both ways to start a script were
given. -/
theorem finish_eq_ok_iff {o : Options} :
    r.finish = .ok o ↔ ∃ settled, r.settle = .ok settled ∧
      ¬ (.value .interpreter ∈ settled.given ∧ .switch .noInterpreter ∈ settled.given) ∧
      o = settled.options := by
  rw [finish, bind_eq_ok_iff]
  refine exists_congr fun settled => and_congr_right fun _ => ?_
  dsimp only
  split
  · rename_i hboth
    exact ⟨nofun, fun h => absurd hboth h.1⟩
  · rename_i hboth
    exact ⟨fun h => ⟨hboth, (Except.ok.inj h).symm⟩, fun h => congrArg _ h.2.symm⟩

/-! ## Nothing contradictory -/

/-- Whatever is asked for, the flag for it has been given. -/
def Tracked (r : Reading) : Prop := ∀ f, r.options.request? f ≠ none → f ∈ r.given

theorem tracked_start : Tracked {} := by
  intro f hf
  exact absurd (request?_empty f) hf

theorem Tracked.takesEffect {q : Request} (h : r.Tracked) (heffect : TakesEffect q r r') :
    r'.Tracked := by
  obtain ⟨-, o, ho, rfl⟩ := heffect
  intro f hf
  change o.request? f ≠ none at hf
  change f ∈ r.given ++ [q.flag]
  rw [request?_grant? ho] at hf
  by_cases hflag : f = q.flag
  · simp [hflag]
  · rw [if_neg hflag] at hf
    exact List.mem_append_left _ (h f hf)

theorem Tracked.settle (h : r.Tracked) (hsettle : r.settle = .ok r') : r'.Tracked := by
  rcases hpending : r.pending with _ | ⟨option, _ | text⟩
  · rw [settle_of_none hpending] at hsettle
    exact Except.ok.inj hsettle ▸ h
  · simp [Reading.settle, hpending] at hsettle
  · have hunpended : Tracked { r with pending := none } := h
    exact hunpended.takesEffect ((settle_of_value hpending).mp hsettle)

/-- No argument can make the options ask for something whose flag has not been given. -/
theorem Tracked.read {arg : String} (h : r.Tracked) (hread : r.read arg = .ok r') :
    r'.Tracked := by
  rcases read_cases hread with ⟨option, -, rfl⟩ | rfl | ⟨settled, hs, ⟨q, heffect⟩ | ⟨option, rfl⟩⟩
  · exact h
  · exact h
  · exact (h.settle hs).takesEffect heffect
  · have hsettled : settled.Tracked := h.settle hs
    exact hsettled

end Reading

/-- No command line is read as one that asks for an interpreter and for none. -/
theorem not_both_of_parse {args : List String} {o : Options} (h : parse args = .ok o) :
    ¬ (o.interpreter ≠ none ∧ o.noInterpreter = true) := by
  obtain ⟨r, hr, hfinish⟩ := bind_eq_ok_iff.mp h
  obtain ⟨settled, hsettled, hboth, rfl⟩ := Reading.finish_eq_ok_iff.mp hfinish
  have htracked : r.Tracked :=
    foldlM_keeps (fun _ _ _ => Reading.Tracked.read) Reading.tracked_start hr
  rintro ⟨hnamed, hdirect⟩
  exact hboth ⟨htracked.settle hsettled _ (request?_interpreter_ne_none.mpr hnamed),
    htracked.settle hsettled _ (request?_noInterpreter_ne_none.mpr hdirect)⟩

/-! ## Every request -/

namespace Reading

/-- The reader has come to these options and flags, as soon as the pending one is counted. -/
structure Amounts (r : Reading) (o : Options) (given : List Flag) : Prop where
  running : r.ended = false
  settle : r.settle = .ok { options := o, given := given }

variable {r : Reading}

theorem read_long (hrunning : r.ended = false) {arg : String} {body : List Char}
    (harg : arg.toList = '-' :: '-' :: body) (hbody : body ≠ []) :
    r.read arg = r.readLong body := by
  obtain ⟨c, rest, rfl⟩ := List.exists_cons_of_ne_nil hbody
  simp [read, hrunning, harg, isValue]

theorem readLong_name (f : Flag) : r.readLong f.name.toList = r.readFlag f none := by
  have htake : f.name.toList.takeWhile (· != '=') = f.name.toList :=
    List.takeWhile_eq_self_iff.mpr f.ne_of_mem_name
  have hdrop : f.name.toList.dropWhile (· != '=') = [] :=
    List.dropWhile_eq_nil_iff.mpr f.ne_of_mem_name
  simp [readLong, htake, hdrop, f.ofName?_name]

/-- The name of a flag ends at the first equals sign, since no name contains one. -/
theorem readLong_attached (f : Flag) (text : String) :
    r.readLong (f.name.toList ++ '=' :: text.toList) = r.readFlag f (some text) := by
  have htake : (f.name.toList ++ '=' :: text.toList).takeWhile (· != '=') = f.name.toList := by
    rw [List.takeWhile_append_of_pos f.ne_of_mem_name]
    simp
  have hdrop : (f.name.toList ++ '=' :: text.toList).dropWhile (· != '=') = '=' :: text.toList := by
    rw [List.dropWhile_append_of_pos f.ne_of_mem_name]
    simp
  simp [readLong, htake, hdrop, f.ofName?_name]

theorem read_flag (hrunning : r.ended = false) (f : Flag) :
    r.read ("--" ++ f.name) = r.readFlag f none := by
  rw [← readLong_name]
  exact read_long hrunning (by simp) f.name_ne_nil

theorem read_attached (hrunning : r.ended = false) (f : Flag) (text : String) :
    r.read ("--" ++ f.name ++ "=" ++ text) = r.readFlag f (some text) := by
  rw [← readLong_attached]
  exact read_long hrunning (by simp) (by simp)

/-- The argument behind a pending option is its value, unless it looks like a flag. -/
theorem read_value {option : ValueOption} {text : String} (hrunning : r.ended = false)
    (hpending : r.pending = some (option, none)) (htext : text.toList.head? ≠ some '-') :
    r.read text = .ok { r with pending := some (option, some text) } := by
  have hvalue : isValue text.toList = true := by simp [isValue, htext]
  simp [read, hrunning, hpending, hvalue]

/-- A clause brings the reader to where its request has taken effect. -/
theorem Amounts.read_clause {o o' : Options} {given : List Flag} (h : r.Amounts o given)
    (c : Clause) (hnew : c.request.flag ∉ given) (hgrant : o.grant? c.request = some o') :
    ∃ r', c.args.foldlM read r = .ok r' ∧ r'.Amounts o' (given ++ [c.request.flag]) := by
  have heffect : TakesEffect c.request { options := o, given := given }
      { options := o', given := given ++ [c.request.flag] } :=
    ⟨hnew, o', hgrant, rfl⟩
  cases c with
  | switch s =>
    have hread := (read_flag h.running (.switch s)).trans
      (readFlag_switch_eq_ok_iff.mpr ⟨_, h.settle, heffect⟩)
    exact ⟨_, bind_eq_ok_iff.mpr ⟨_, hread, rfl⟩, rfl, rfl⟩
  | attached option text =>
    have hread := (read_attached h.running (.value option) text).trans
      (readFlag_attached_eq_ok_iff.mpr ⟨_, h.settle, heffect⟩)
    exact ⟨_, bind_eq_ok_iff.mpr ⟨_, hread, rfl⟩, rfl, rfl⟩
  | separate option text htext =>
    have hread := (read_flag h.running (.value option)).trans
      (readFlag_value_eq_ok_iff.mpr ⟨_, h.settle, rfl⟩)
    -- the value stays pending until something is read behind it
    have hvalue :
        read { options := o, given := given, pending := some (option, none) } text =
          .ok { options := o, given := given, pending := some (option, some text) } :=
      read_value rfl rfl htext
    refine ⟨_, bind_eq_ok_iff.mpr ⟨_, hread, bind_eq_ok_iff.mpr ⟨_, hvalue, rfl⟩⟩, rfl, ?_⟩
    exact (settle_of_value rfl).mpr heffect

/-- The run lemma: clauses with different flags are read one after another, by induction on them.
-/
theorem Amounts.read_clauses {o o' : Options} {given : List Flag} (h : r.Amounts o given)
    {clauses : List Clause} (hflags : (given ++ clauses.map (·.request.flag)).Nodup)
    (hgrant : (clauses.map Clause.request).foldlM grant? o = some o') :
    ∃ r', (clauses.flatMap Clause.args).foldlM read r = .ok r' ∧
      r'.Amounts o' (given ++ clauses.map (·.request.flag)) := by
  induction clauses generalizing r o given with
  | nil =>
    obtain rfl := Option.some.inj hgrant
    exact ⟨r, rfl, by simpa using h⟩
  | cons c rest ih =>
    obtain ⟨next, hnext, hrest⟩ := Option.bind_eq_some_iff.mp hgrant
    have hnew : c.request.flag ∉ given := by
      intro hmem
      exact (List.nodup_append.mp hflags).2.2 _ hmem _ List.mem_cons_self rfl
    rw [List.map_cons, List.append_cons] at hflags ⊢
    obtain ⟨r₁, hr₁, h₁⟩ := h.read_clause c hnew hnext
    obtain ⟨r₂, hr₂, h₂⟩ := ih h₁ hflags hrest
    refine ⟨r₂, ?_, h₂⟩
    rw [List.flatMap_cons, List.foldlM_append]
    exact bind_eq_ok_iff.mpr ⟨r₁, hr₁, hr₂⟩

theorem amounts_start : Amounts {} {} [] := ⟨rfl, rfl⟩

/-- The last check passes if not both of the flags that exclude each other were given. -/
theorem Amounts.finish {o : Options} {given : List Flag} (h : r.Amounts o given)
    (hboth : ¬ (.value .interpreter ∈ given ∧ .switch .noInterpreter ∈ given)) :
    r.finish = .ok o :=
  finish_eq_ok_iff.mpr ⟨_, h.settle, hboth, rfl⟩

end Reading

/-- Options can be written down in any order and in either form, and are read back as they were.
-/
theorem parse_of_clauses {o : Options} (hboth : ¬ (o.interpreter ≠ none ∧ o.noInterpreter = true))
    {clauses : List Clause} (h : (clauses.map Clause.request).Perm o.requests) :
    parse (clauses.flatMap Clause.args) = .ok o := by
  have hperm : (clauses.map (·.request.flag)).Perm (o.requests.map Request.flag) := by
    simpa [Function.comp_def] using h.map Request.flag
  have hflags : (clauses.map (·.request.flag)).Nodup :=
    hperm.nodup_iff.mpr o.nodup_flags_requests
  obtain ⟨r, hr, hamounts⟩ :=
    Reading.amounts_start.read_clauses hflags (foldlM_grant?_of_perm h)
  refine bind_eq_ok_iff.mpr ⟨r, hr, hamounts.finish ?_⟩
  rintro ⟨hnamed, hdirect⟩
  rw [List.nil_append, hperm.mem_iff, mem_flags_requests_iff] at hnamed hdirect
  exact hboth ⟨request?_interpreter_ne_none.mp hnamed, request?_noInterpreter_ne_none.mp hdirect⟩

/-- Command lines express all options and nothing contradictory. Whatever options are wanted, if
not an interpreter and none at once, a command line that writes down their requests is read as those
options, in any order, with values behind equals signs or as arguments of their own that do not
begin like a flag. And no command line at all is read as asking for an interpreter and for none. -/
theorem parse_expresses_options (o : Options) :
    (¬ (o.interpreter ≠ none ∧ o.noInterpreter = true) →
      ∀ clauses : List Clause, (clauses.map Clause.request).Perm o.requests →
        parse (clauses.flatMap Clause.args) = .ok o) ∧
    ((∃ args, parse args = .ok o) ↔ ¬ (o.interpreter ≠ none ∧ o.noInterpreter = true)) := by
  refine ⟨fun hboth clauses h => parse_of_clauses hboth h, ?_, ?_⟩
  · rintro ⟨args, h⟩
    exact not_both_of_parse h
  · intro hboth
    have hrequests : (o.requests.map Request.clause).map Clause.request = o.requests := by
      simp [Function.comp_def, Request.request_clause]
    exact ⟨_, parse_of_clauses hboth (.of_eq hrequests)⟩

/-- All options but one, with values that are empty, look like flags or hold equals signs. -/
theorem parse_expresses_options_of_misleading_values :
    let o : Options :=
      { config := some "", noInterpreter := true, script := some "--config=x", logDir := some "a=b",
        workingDir := some "=", failFast := true, logLevel := some .trace, dryRun := true }
    let clauses : List Clause :=
      [.switch .dryRun, .separate .logDir "a=b" (by decide), .attached .script "--config=x",
        .separate .config "" (by decide), .attached .workingDir "=", .switch .noInterpreter,
        .separate .logLevel "trace" (by decide), .switch .failFast]
    ¬ (o.interpreter ≠ none ∧ o.noInterpreter = true) ∧
      (clauses.map Clause.request).Perm o.requests ∧
      parse ["--dry-run", "--log-dir", "a=b", "--script=--config=x", "--config", "",
        "--working-dir==", "--no-interpreter", "--log-level", "trace", "--fail-fast"] = .ok o := by
  intro o clauses
  have hboth : ¬ (o.interpreter ≠ none ∧ o.noInterpreter = true) := by decide
  have hperm : (clauses.map Clause.request).Perm o.requests := by decide
  exact ⟨hboth, hperm, (parse_expresses_options o).1 hboth clauses hperm⟩

end Options

end ScriptBatch
