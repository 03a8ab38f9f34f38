import Mathlib.Data.List.Nodup
import ScriptBatch.Proofs.Schema

/-!
# Layouts of batch files

A batch can be written down in many ways. A field that has its default may be spelled out or left
out, the fields of a table stand in any order, and the words of a vocabulary have several spellings.
A layout says once which fields a record has and how their contents are written; from that follow
both the reader of the record and the tables that describe it, and the reader gives back what any of
these tables describes.
-/

namespace ScriptBatch.BatchFile

open Toml (Key Span Table Value)
open Decoded

/-! ## Forms -/

/-- How data of one kind is written: a reader, the values that stand for each datum, and that the
reader understands them. -/
structure Form (β : Type) where
  decode : Span × Value → Decoded β
  Denotes : Value → β → Prop
  decode_of_denotes : ∀ {v d}, Denotes v.2 d → decode v = .ok d

namespace Form

/-- Every datum can be written. -/
def Total {β : Type} (form : Form β) : Prop := ∀ d, ∃ v, form.Denotes v d

def text : Form String where
  decode := decodeText
  Denotes v text := v = .string text
  decode_of_denotes := decodeText_eq_ok_iff.mpr

def truth : Form Bool where
  decode := decodeTruth
  Denotes v b := v = .boolean b
  decode_of_denotes := decodeTruth_eq_ok_iff.mpr

def count : Form UInt32 where
  decode := decodeCount
  Denotes v n := v = .integer n.toNat
  decode_of_denotes := decodeCount_eq_ok_iff.mpr

def keyword {α : Type} (parse : String → Except UnknownKeyword α) : Form α where
  decode := decodeKeyword parse
  Denotes v a := ∃ text, v = .string text ∧ parse text = .ok a
  decode_of_denotes := decodeKeyword_eq_ok_iff.mpr

def list {β : Type} (item : Form β) : Form (List β) where
  decode := decodeList item.decode
  Denotes v ds := ∃ items, v = .array items ∧ List.Forall₂ (fun d x => item.Denotes x.2 d) ds items
  decode_of_denotes := by
    rintro v ds ⟨items, hv, hitems⟩
    exact decodeList_eq_ok_iff.mpr ⟨items, hv, hitems.imp fun _ _ => item.decode_of_denotes⟩

@[simp] theorem total_text : text.Total := fun _ => ⟨_, rfl⟩

@[simp] theorem total_truth : truth.Total := fun _ => ⟨_, rfl⟩

@[simp] theorem total_count : count.Total := fun _ => ⟨_, rfl⟩

/-- A vocabulary can be written if every word of it has a spelling that is read as it. -/
theorem total_keyword {α : Type} {parse : String → Except UnknownKeyword α}
    (h : ∀ a, ∃ text, parse text = .ok a) : (keyword parse).Total := by
  intro a
  obtain ⟨text, htext⟩ := h a
  exact ⟨.string text, text, rfl, htext⟩

theorem Total.list {β : Type} {item : Form β} (h : item.Total) : item.list.Total := by
  choose value hvalue using h
  intro ds
  refine ⟨.array (ds.map fun d => (⟨0, 0⟩, value d)), _, rfl, ?_⟩
  rw [List.forall₂_map_right_iff, List.forall₂_same]
  exact fun d _ => hvalue d

end Form

/-! ## Layouts -/

/-- A field of a record, with its place in the record and the form of its content. A field can be
without content. -/
structure Slot (α : Type) where
  name : String
  Content : Type
  form : Form Content
  get : α → Option Content
  put : α → Content → α
  get_put : ∀ a d, get (put a d) = some d

def Slot.field {α : Type} (slot : Slot α) : Field α :=
  ⟨slot.name, fun a v => return slot.put a (← slot.form.decode v)⟩

theorem Slot.read_of_denotes {α : Type} {slot : Slot α} {v : Span × Value} {d : slot.Content}
    (h : slot.form.Denotes v.2 d) (a : α) : slot.field.read a v = .ok (slot.put a d) :=
  bind_eq_ok_iff.mpr ⟨d, slot.form.decode_of_denotes h, rfl⟩

/-- The fields of a record that starts out with defaults. They are independent of each other and
make up the whole record. -/
structure Layout (α : Type) where
  slots : List (Slot α)
  blank : α
  names_nodup : (slots.map Slot.name).Nodup
  get_put_of_ne : ∀ s ∈ slots, ∀ t ∈ slots, s.name ≠ t.name → ∀ a d, t.get (s.put a d) = t.get a
  ext : ∀ {a b}, (∀ slot ∈ slots, slot.get a = slot.get b) → a = b

namespace Layout

variable {α : Type} (layout : Layout α)

def fields : List (Field α) := layout.slots.map Slot.field

/-- An entry of a table gives the content that a field has in a record. -/
def Gives (a : α) (e : Key × Span × Value) : Prop :=
  ∃ slot ∈ layout.slots, slot.name = e.1.text ∧
    ∃ d, slot.get a = some d ∧ slot.form.Denotes e.2.2 d

/-- A table describes a record: its entries give contents of the record, and no field is left out
that differs from the default. -/
structure Describes (t : Table) (a : α) : Prop where
  gives : ∀ e ∈ t, layout.Gives a e
  complete : ∀ slot ∈ layout.slots, slot.get a ≠ slot.get layout.blank →
    ∃ e ∈ t, e.1.text = slot.name

variable {layout}

theorem eq_of_name_eq {s t : Slot α} (hs : s ∈ layout.slots) (ht : t ∈ layout.slots)
    (h : s.name = t.name) : s = t :=
  List.inj_on_of_nodup_map layout.names_nodup hs ht h

/-- Names of slots do not repeat, so a key leads to the slot that has it. -/
theorem find?_fields {slot : Slot α} (hslot : slot ∈ layout.slots) :
    layout.fields.find? (·.name == slot.name) = some slot.field := by
  rw [fields, List.find?_map]
  cases hfind : layout.slots.find? ((·.name == slot.name) ∘ Slot.field) with
  | none => exact absurd (List.find?_eq_none.mp hfind slot hslot) (by simp [Slot.field])
  | some found =>
    have hname : found.name = slot.name := by simpa [Slot.field] using List.find?_some hfind
    rw [eq_of_name_eq (List.mem_of_find?_eq_some hfind) hslot hname]
    rfl

/-- Reading an entry of a description makes one field right and leaves the others as they are. -/
theorem readEntry_of_gives {a : α} {e : Key × Span × Value} (h : layout.Gives a e) (c : α) :
    ∃ c', Field.readEntry layout.fields c e = .ok c' ∧
      ∀ slot ∈ layout.slots, slot.get c = slot.get a ∨ e.1.text = slot.name →
        slot.get c' = slot.get a := by
  obtain ⟨slot, hslot, hname, d, hd, hvalue⟩ := h
  refine ⟨slot.put c d, ?_, ?_⟩
  · rw [Field.readEntry, ← hname, find?_fields hslot, Decoded.within_eq_ok]
    exact slot.read_of_denotes hvalue c
  · intro other hother hright
    by_cases hsame : slot.name = other.name
    · obtain rfl := eq_of_name_eq hslot hother hsame
      rw [slot.get_put, hd]
    · rw [layout.get_put_of_ne slot hslot other hother hsame]
      exact hright.resolve_right fun hkey => hsame (hname.trans hkey)

/-- After all entries, those fields are right that were so before or that have an entry. -/
theorem foldlM_readEntry_of_gives {a : α} {entries : Table} (h : ∀ e ∈ entries, layout.Gives a e)
    (c : α) :
    ∃ c', entries.foldlM (Field.readEntry layout.fields) c = .ok c' ∧
      ∀ slot ∈ layout.slots, (slot.get c = slot.get a ∨ ∃ e ∈ entries, e.1.text = slot.name) →
        slot.get c' = slot.get a := by
  induction entries generalizing c with
  | nil => exact ⟨c, rfl, fun slot _ hright => by simpa using hright⟩
  | cons e rest ih =>
    obtain ⟨he, hrest⟩ := List.forall_mem_cons.mp h
    obtain ⟨c₁, hread, hstep⟩ := readEntry_of_gives he c
    obtain ⟨c', hfold, hafter⟩ := ih hrest c₁
    refine ⟨c', by rw [List.foldlM_cons, hread]; exact hfold, ?_⟩
    intro slot hslot hright
    refine hafter slot hslot ?_
    rcases hright with hright | ⟨other, hother, hkey⟩
    · exact .inl (hstep slot hslot (.inl hright))
    · rcases List.mem_cons.mp hother with rfl | hother
      · exact .inl (hstep slot hslot (.inr hkey))
      · exact .inr ⟨other, hother, hkey⟩

/-- The entries of a table can stand in any order, because each fills a slot of its own. -/
theorem readTable_of_describes {a : α} {t : Table} (h : layout.Describes t a) :
    Field.readTable layout.fields layout.blank t = .ok a := by
  have hgives : ∀ e ∈ Field.sorted t, layout.Gives a e := fun e he =>
    h.gives e (mem_sorted_iff.mp he)
  obtain ⟨c, hread, hright⟩ := foldlM_readEntry_of_gives hgives layout.blank
  -- a field that no entry gives has its default in the record as well
  have hc : c = a := by
    refine layout.ext fun slot hslot => hright slot hslot ?_
    by_cases hdefault : slot.get layout.blank = slot.get a
    · exact .inl hdefault
    · obtain ⟨e, he, hkey⟩ := h.complete slot hslot (Ne.symm hdefault)
      exact .inr ⟨e, mem_sorted_iff.mpr he, hkey⟩
  rw [Field.readTable, hread, hc]

/-- A record can be described if a field without content has none by default either, and every
content can be written. -/
theorem exists_describes {a : α}
    (habsent : ∀ slot ∈ layout.slots, slot.get a = none → slot.get layout.blank = none)
    (hwritable : ∀ slot ∈ layout.slots, ∀ d, slot.get a = some d → ∃ v, slot.form.Denotes v d) :
    ∃ t, layout.Describes t a := by
  classical
  have hentry : ∀ slot ∈ layout.slots, slot.get a ≠ slot.get layout.blank →
      ∃ e, layout.Gives a e ∧ e.1.text = slot.name := by
    intro slot hslot hdiffers
    cases hd : slot.get a with
    | none => exact absurd (hd.trans (habsent slot hslot hd).symm) hdiffers
    | some d =>
      obtain ⟨v, hv⟩ := hwritable slot hslot d hd
      exact ⟨(⟨slot.name, ⟨0, 0⟩⟩, ⟨0, 0⟩, v), ⟨slot, hslot, rfl, d, hd, hv⟩, rfl⟩
  choose! entry hgives hkey using hentry
  -- The shortest description leaves out every default.
  refine ⟨(layout.slots.filter fun slot => slot.get a ≠ slot.get layout.blank).map entry, ?_, ?_⟩
  · intro e he
    obtain ⟨slot, hslot, rfl⟩ := List.mem_map.mp he
    simp only [List.mem_filter, decide_eq_true_eq] at hslot
    exact hgives slot hslot.1 hslot.2
  · intro slot hslot hdiffers
    have hmem : slot ∈ layout.slots.filter fun slot => slot.get a ≠ slot.get layout.blank := by
      simp only [List.mem_filter, decide_eq_true_eq]
      exact ⟨hslot, hdiffers⟩
    exact ⟨entry slot, List.mem_map_of_mem hmem, hkey slot hslot hdiffers⟩

/-- A content that differs from the default can be written. -/
theorem Describes.denotes_of_ne {a : α} {t : Table} (h : layout.Describes t a) :
    ∀ slot ∈ layout.slots, slot.get a ≠ slot.get layout.blank →
      ∃ d, slot.get a = some d ∧ ∃ v, slot.form.Denotes v d := by
  intro slot hslot hdiffers
  obtain ⟨e, he, hkey⟩ := h.complete slot hslot hdiffers
  obtain ⟨other, hother, hname, d, hd, hvalue⟩ := h.gives e he
  obtain rfl := eq_of_name_eq hother hslot (hname.trans hkey)
  exact ⟨d, hd, e.2.2, hvalue⟩

end Layout

def Form.record {α : Type} (layout : Layout α) (expected : Expected) : Form α where
  decode := Field.readRecord layout.fields expected layout.blank
  Denotes v a := ∃ t, v = .table t ∧ layout.Describes t a
  decode_of_denotes := by
    rintro ⟨span, v⟩ a ⟨t, rfl, ht⟩
    exact (Decoded.within_eq_ok ..).mpr (Layout.readTable_of_describes ht)

/-! ## Batch files -/

def settingsLayout : Layout Settings where
  slots :=
    [⟨"interpreter", _, .text, (·.interpreter), fun s d => { s with interpreter := some d },
        fun _ _ => rfl⟩,
     ⟨"script", _, .text, (some ·.script), fun s d => { s with script := d }, fun _ _ => rfl⟩,
     ⟨"log_dir", _, .text, (some ·.logDir), fun s d => { s with logDir := d }, fun _ _ => rfl⟩,
     ⟨"working_dir", _, .text, (·.workingDir), fun s d => { s with workingDir := some d },
        fun _ _ => rfl⟩,
     ⟨"on_failure", _, .keyword FailureMode.parse, (some ·.onFailure),
        fun s d => { s with onFailure := d }, fun _ _ => rfl⟩]
  blank :=
    { interpreter := some "python3", script := "stats.py", logDir := "./apilogs/"
      workingDir := none, onFailure := .proceed }
  names_nodup := by decide
  get_put_of_ne := by simp
  ext := by
    rintro ⟨⟩ ⟨⟩ h
    simpa using h

/-- An entry: the switches have a value always, the other flags and the name may be absent. -/
def invocationLayout : Layout Invocation where
  slots :=
    [⟨"name", _, .text, (·.name), fun i d => { i with name := some d }, fun _ _ => rfl⟩,
     ⟨"enabled", _, .truth, (some ·.enabled), fun i d => { i with enabled := d }, fun _ _ => rfl⟩,
     ⟨"plot", _, .truth, (some ·.plot), fun i d => { i with plot := d }, fun _ _ => rfl⟩,
     ⟨"normalize", _, .truth, (some ·.normalize), fun i d => { i with normalize := d },
        fun _ _ => rfl⟩,
     ⟨"apt_stats", _, .truth, (some ·.aptStats), fun i d => { i with aptStats := d },
        fun _ _ => rfl⟩,
     ⟨"ignore", _, .list (.keyword Tag.parse), (some ·.ignore), fun i d => { i with ignore := d },
        fun _ _ => rfl⟩,
     ⟨"min_apis", _, .count, (·.minApis), fun i d => { i with minApis := some d },
        fun _ _ => rfl⟩,
     ⟨"out_dir", _, .text, (·.outDir), fun i d => { i with outDir := some d }, fun _ _ => rfl⟩,
     ⟨"dataset", _, .text, (·.dataset), fun i d => { i with dataset := some d }, fun _ _ => rfl⟩]
  blank :=
    { name := none, enabled := true, plot := false, normalize := false, aptStats := false
      ignore := [], minApis := none, outDir := none, dataset := none }
  names_nodup := by decide
  get_put_of_ne := by simp
  ext := by
    rintro ⟨⟩ ⟨⟩ h
    simpa using h

/-- A batch file has the settings and the entries in the order of the batch. -/
def batchLayout : Layout Batch where
  slots :=
    [⟨"config", _, .record settingsLayout .settings, (some ·.settings),
        fun b d => { b with settings := d }, fun _ _ => rfl⟩,
     ⟨"invocation", _, .list (.record invocationLayout .invocation), (some ·.invocations),
        fun b d => { b with invocations := d }, fun _ _ => rfl⟩]
  blank := { settings := settingsLayout.blank, invocations := [] }
  names_nodup := by decide
  get_put_of_ne := by simp
  ext := by
    rintro ⟨⟩ ⟨⟩ h
    simpa using h

theorem total_keyword_tag : (Form.keyword Tag.parse).Total :=
  Form.total_keyword fun tag =>
    ⟨tag.name, Tag.parse_eq_ok_iff.mpr (by cases tag <;> decide +kernel)⟩

theorem total_keyword_failureMode : (Form.keyword FailureMode.parse).Total :=
  Form.total_keyword fun mode =>
    ⟨mode.word, FailureMode.parse_eq_ok_iff.mpr (by cases mode <;> decide +kernel)⟩

theorem total_invocation : (Form.record invocationLayout .invocation).Total := by
  intro i
  have htotal : ∀ slot ∈ invocationLayout.slots, slot.form.Total := by
    simp [invocationLayout, total_keyword_tag.list]
  obtain ⟨t, ht⟩ := Layout.exists_describes (a := i) (by simp [invocationLayout])
    fun slot hslot d _ => htotal slot hslot d
  exact ⟨.table t, t, rfl, ht⟩

/-- An interpreter is there by default, so that its absence cannot be written. -/
theorem exists_describes_settings_iff {s : Settings} :
    (∃ t, settingsLayout.Describes t s) ↔ s.interpreter ≠ none := by
  constructor
  · rintro ⟨t, ht⟩ hnone
    have hwritten := ht.denotes_of_ne
    simp [settingsLayout, hnone] at hwritten
  · intro hinterpreter
    have htotal : ∀ slot ∈ settingsLayout.slots, slot.form.Total := by
      simp [settingsLayout, total_keyword_failureMode]
    exact Layout.exists_describes (by simp [settingsLayout, hinterpreter])
      fun slot hslot d _ => htotal slot hslot d

/-- A batch without an interpreter cannot be written down: an absent key stands for the usual one.
-/
theorem exists_describes_batch_iff {b : Batch} :
    (∃ t, batchLayout.Describes t b) ↔ b.settings.interpreter ≠ none := by
  constructor
  · rintro ⟨t, ht⟩
    by_cases hdefault : b.settings = settingsLayout.blank
    · simp [hdefault, settingsLayout]
    · obtain ⟨hsettings, -⟩ := List.forall_mem_cons.mp ht.denotes_of_ne
      obtain ⟨s, hs, _, t', -, ht'⟩ := hsettings (by simpa [batchLayout] using hdefault)
      obtain rfl := Option.some.inj hs
      exact exists_describes_settings_iff.mp ⟨t', ht'⟩
  · intro hinterpreter
    obtain ⟨t, ht⟩ := exists_describes_settings_iff.mpr hinterpreter
    have hwritable : ∀ slot ∈ batchLayout.slots, ∀ d, slot.get b = some d →
        ∃ v, slot.form.Denotes v d := by
      refine List.forall_mem_cons.mpr ⟨?_, List.forall_mem_singleton.mpr ?_⟩
      · intro s hs
        obtain rfl := Option.some.inj hs
        exact ⟨.table t, t, rfl, ht⟩
      · exact fun entries _ => total_invocation.list entries
    exact Layout.exists_describes (by simp [batchLayout]) hwritable

/-- The layouts are those of the reader of batch files. -/
theorem decode_eq : decode = Field.readTable batchLayout.fields batchLayout.blank := rfl

/-- Reading gives back the batch that was written, whichever defaults are spelled out, in whatever
order the fields stand and however tags and modes are spelled. Exactly those batches can be written
that have an interpreter. -/
theorem decode_of_describes (b : Batch) :
    ((∃ t, batchLayout.Describes t b) ↔ b.settings.interpreter ≠ none) ∧
    ∀ t, batchLayout.Describes t b →
      decode t = .ok b ∧
      ∀ (read : FileReader) (path text : String), read path = .ok text →
        Toml.Document.parse? text = some t → Batch.loadFrom read path = .ok b := by
  refine ⟨exists_describes_batch_iff, ?_⟩
  intro t ht
  have hdecode : decode t = .ok b := by
    rw [decode_eq]
    exact Layout.readTable_of_describes ht
  refine ⟨hdecode, ?_⟩
  intro read path text htext hroot
  exact loadFrom_of_decoded htext hroot hdecode

/-- Some defaults are spelled out and others are not. -/
theorem decode_of_describes_of_spelled_defaults :
    let placed (v : Value) : Span × Value := (⟨0, 0⟩, v)
    let key (text : String) : Key := ⟨text, ⟨0, 0⟩⟩
    let b : Batch :=
      { settings := { workingDir := some "", onFailure := .halt }
        invocations := [{}, { enabled := false, ignore := [.dll, .nonc], minApis := some 0 }] }
    let config : Table :=
      [(key "working_dir", placed (.string "")), (key "on_failure", placed (.string "HALT ")),
       (key "interpreter", placed (.string "python3"))]
    let first : Table := [(key "enabled", placed (.boolean true))]
    let second : Table :=
      [(key "min_apis", placed (.integer 0)),
       (key "ignore", placed (.array [placed (.string "DLL"), placed (.string " nonC")])),
       (key "enabled", placed (.boolean false))]
    let t : Table :=
      [(key "invocation", placed (.array [placed (.table first), placed (.table second)])),
       (key "config", placed (.table config))]
    batchLayout.Describes t b ∧ decode t = .ok b := by
  intro placed key b config first second t
  have hconfig : settingsLayout.Describes config b.settings := by
    have hhalt : FailureMode.parse "HALT " = .ok .halt :=
      FailureMode.parse_eq_ok_iff.mpr (by decide +kernel)
    constructor <;> simp [config, b, key, placed, settingsLayout, Layout.Gives, Form.text,
      Form.keyword, Settings.defaultInterpreter, Settings.defaultScript, Settings.defaultLogDir,
      hhalt, -Prod.forall, -Prod.exists]
  have hfirst : invocationLayout.Describes first {} := by
    constructor <;> simp [first, key, placed, invocationLayout, Layout.Gives, Form.truth]
  have hsecond : invocationLayout.Describes second
      { enabled := false, ignore := [.dll, .nonc], minApis := some 0 } := by
    have hdll : Tag.parse "DLL" = .ok .dll := Tag.parse_eq_ok_iff.mpr (by decide +kernel)
    have hnonc : Tag.parse " nonC" = .ok .nonc := Tag.parse_eq_ok_iff.mpr (by decide +kernel)
    constructor <;> simp [second, key, placed, invocationLayout, Layout.Gives, Form.truth,
      Form.count, Form.list, Form.keyword, hdll, hnonc, -Prod.forall, -Prod.exists]
  have ht : batchLayout.Describes t b := by
    constructor <;> simp [t, b, key, placed, batchLayout, Layout.Gives, Form.record, Form.list,
      hconfig, hfirst, hsecond, -Prod.forall, -Prod.exists]
  exact ⟨ht, ((decode_of_describes b).2 t ht).1⟩

end ScriptBatch.BatchFile
