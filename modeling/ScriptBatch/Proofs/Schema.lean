import Mathlib.Data.List.Forall2
import ScriptBatch.Proofs.Results
import ScriptBatch.Resolve

/-!
# The schema of batch files

Which documents describe a batch can be said without reading one: the tables have known keys only,
and the values under them are of the right kind. Reading a table goes through its entries in the
order of their keys and stops at the first mismatch, but whether there is one depends on the single
entries and not on what was read before.
-/

namespace ScriptBatch

/-- The spellings of a tag are the texts that fold to its name. -/
theorem Tag.parse_eq_ok_iff {s : String} {tag : Tag} :
    Tag.parse s = .ok tag ↔ Keyword.fold s = tag.name := by
  unfold Tag.parse
  split
  · rename_i found hfound
    have hname : found.name = Keyword.fold s := by simpa using List.find?_some hfound
    rw [Except.ok.injEq, ← hname]
    exact ⟨congrArg Tag.name, Tag.name_injective⟩
  · rename_i hnone
    have hname : tag.name ≠ Keyword.fold s := by
      simpa using List.find?_eq_none.mp hnone tag tag.mem_all
    exact ⟨nofun, fun h => absurd h.symm hname⟩

def FailureMode.word : FailureMode → String
  | proceed => "continue"
  | halt => "halt"

theorem FailureMode.parse_eq_ok_iff {s : String} {mode : FailureMode} :
    FailureMode.parse s = .ok mode ↔ Keyword.fold s = mode.word := by
  simp only [FailureMode.parse, beq_iff_eq]
  split
  · rename_i hproceed
    cases mode <;> simp [hproceed, FailureMode.word]
  · rename_i hproceed
    split
    · rename_i hhalt
      cases mode <;> simp [hhalt, FailureMode.word]
    · rename_i hhalt
      cases mode <;> simp [hproceed, hhalt, FailureMode.word]

namespace BatchFile

open Toml (Key Span Table Value)

namespace Decoded

def Succeeds {α : Type} (r : Decoded α) : Prop := ∃ a, r = .ok a

section

variable {α β : Type}

/-- Decoding in two steps works if the first step gives something with which the second one works.
-/
theorem succeeds_bind_iff {x : Decoded α} {f : α → Decoded β} :
    (x >>= f).Succeeds ↔ ∃ a, x = .ok a ∧ (f a).Succeeds := by
  simp only [Succeeds, bind_eq_ok_iff]
  exact ⟨fun ⟨b, a, hx, hb⟩ => ⟨a, hx, b, hb⟩, fun ⟨a, hx, b, hb⟩ => ⟨b, a, hx, hb⟩⟩

/-- What is made of a result does not matter. -/
theorem succeeds_map_iff {x : Decoded α} {f : α → β} :
    Succeeds (do return f (← x)) ↔ x.Succeeds := by
  rw [succeeds_bind_iff]
  exact ⟨fun ⟨a, hx, _⟩ => ⟨a, hx⟩, fun ⟨a, hx⟩ => ⟨a, hx, f a, rfl⟩⟩

@[simp] theorem succeeds_within {span : Span} {r : Decoded α} :
    (r.within span).Succeeds ↔ r.Succeeds := by
  simp [Succeeds]

theorem not_succeeds_error {e : DecodeError} : ¬ Succeeds (.error e : Decoded α) := nofun

theorem exists_error_of_not_succeeds {r : Decoded α} (h : ¬ r.Succeeds) : ∃ e, r = .error e := by
  cases r with
  | error e => exact ⟨e, rfl⟩
  | ok a => exact absurd ⟨a, rfl⟩ h

/-- Steps that succeed or fail whatever came before succeed together if each of them does. -/
theorem succeeds_foldlM_iff {f : α → β → Decoded α} {P : β → Prop} {l : List β}
    (h : ∀ x ∈ l, ∀ a, (f a x).Succeeds ↔ P x) (a : α) :
    Succeeds (l.foldlM f a) ↔ ∀ x ∈ l, P x := by
  induction l generalizing a with
  | nil => exact ⟨fun _ => by simp, fun _ => ⟨a, rfl⟩⟩
  | cons x rest ih =>
    obtain ⟨hx, hrest⟩ := List.forall_mem_cons.mp h
    rw [List.foldlM_cons, succeeds_bind_iff, List.forall_mem_cons, ← hx a]
    constructor
    · rintro ⟨a', ha', hsucceeds⟩
      exact ⟨⟨a', ha'⟩, (ih hrest a').mp hsucceeds⟩
    · rintro ⟨⟨a', ha'⟩, hall⟩
      exact ⟨a', ha', (ih hrest a').mpr hall⟩

end

end Decoded

open Decoded

/-! ## Single values -/

/-- A value of a single kind is read if it is of that kind. -/
theorem decodeScalar_eq_ok_iff {α : Type} {part? : Value → Option α} {expected : Expected}
    {v : Span × Value} {a : α} : decodeScalar part? expected v = .ok a ↔ part? v.2 = some a := by
  unfold decodeScalar
  cases part? v.2 <;> simp

theorem decodeText_eq_ok_iff {v : Span × Value} {text : String} :
    decodeText v = .ok text ↔ v.2 = .string text := by
  rw [decodeText, decodeScalar_eq_ok_iff]
  cases v.2 <;> simp [Value.string?]

theorem decodeTruth_eq_ok_iff {v : Span × Value} {b : Bool} :
    decodeTruth v = .ok b ↔ v.2 = .boolean b := by
  rw [decodeTruth, decodeScalar_eq_ok_iff]
  cases v.2 <;> simp [Value.boolean?]

/-- A count is a whole number in the range of 32 bits without a sign. -/
theorem decodeCount_eq_ok_iff {v : Span × Value} {n : UInt32} :
    decodeCount v = .ok n ↔ v.2 = .integer n.toNat := by
  unfold decodeCount
  split
  · rename_i m hv
    have hn : n.toNat < UInt32.size := n.toNat_lt
    rw [hv, Value.integer.injEq]
    split
    · rename_i hrange
      have hm : m.toNat < UInt32.size := by
        simp only [Bool.and_eq_true, decide_eq_true_eq] at hrange
        omega
      rw [Except.ok.injEq, ← UInt32.toNat_inj, UInt32.toNat_ofNat_of_lt' hm]
      simp only [Bool.and_eq_true, decide_eq_true_eq] at hrange
      omega
    · rename_i hrange
      have hne : m ≠ n.toNat := by
        rintro rfl
        simp only [Bool.and_eq_true, decide_eq_true_eq, not_and, Int.not_lt] at hrange
        omega
      split <;> simp [hne]
  · rename_i hv
    exact ⟨nofun, fun h => absurd h (hv n.toNat)⟩

theorem decodeKeyword_eq_ok_iff {α : Type} {parse : String → Except UnknownKeyword α}
    {v : Span × Value} {a : α} :
    decodeKeyword parse v = .ok a ↔ ∃ text, v.2 = .string text ∧ parse text = .ok a := by
  unfold decodeKeyword
  simp only [bind_eq_ok_iff, decodeText_eq_ok_iff]
  constructor
  · rintro ⟨text, hv, hparse⟩
    refine ⟨text, hv, ?_⟩
    split at hparse
    · rename_i a' ha'
      rw [ha', Except.ok.inj hparse]
    · simp at hparse
  · rintro ⟨text, hv, hparse⟩
    exact ⟨text, hv, by rw [hparse]⟩

theorem mapM_eq_ok_iff {α β : Type} {item : β → Decoded α} {l : List β} {as : List α} :
    l.mapM item = .ok as ↔ List.Forall₂ (fun a x => item x = .ok a) as l := by
  induction l generalizing as with
  | nil =>
    rw [List.mapM_nil, List.forall₂_nil_right_iff]
    exact ⟨fun h => (Except.ok.inj h).symm, fun h => h ▸ rfl⟩
  | cons x rest ih =>
    rw [List.mapM_cons, bind_eq_ok_iff, List.forall₂_cons_right_iff]
    constructor
    · rintro ⟨a, ha, hrest⟩
      obtain ⟨others, hothers, h⟩ := bind_eq_ok_iff.mp hrest
      exact ⟨a, others, ha, ih.mp hothers, (Except.ok.inj h).symm⟩
    · rintro ⟨a, others, ha, hothers, rfl⟩
      exact ⟨a, ha, bind_eq_ok_iff.mpr ⟨others, ih.mpr hothers, rfl⟩⟩

/-- The items of a list are decoded one by one and stay in their order. -/
theorem decodeList_eq_ok_iff {α : Type} {item : Span × Value → Decoded α} {v : Span × Value}
    {as : List α} :
    decodeList item v = .ok as ↔
      ∃ items, v.2 = .array items ∧ List.Forall₂ (fun a x => item x = .ok a) as items := by
  unfold decodeList
  split
  · rename_i items hv
    rw [Decoded.within_eq_ok, mapM_eq_ok_iff, hv]
    simp
  · rename_i hv
    exact ⟨nofun, fun ⟨items, h, _⟩ => absurd h (hv items)⟩

/-! ## Schemas -/

abbrev Schema := List (String × (Value → Prop))

/-- Every key of the table is one of the schema, with a value that it may have. -/
def Schema.Admits (schema : Schema) (t : Table) : Prop :=
  ∀ e ∈ t, ∃ item ∈ schema, item.1 = e.1.text ∧ item.2 e.2.2

@[simp] theorem Schema.admits_nil {schema : Schema} : schema.Admits [] := by simp [Admits]

@[simp] theorem Schema.admits_cons {schema : Schema} {e : Key × Span × Value} {t : Table} :
    schema.Admits (e :: t) ↔
      (∃ item ∈ schema, item.1 = e.1.text ∧ item.2 e.2.2) ∧ schema.Admits t :=
  List.forall_mem_cons

def IsText (v : Value) : Prop := ∃ text, v = .string text

def IsTruth (v : Value) : Prop := ∃ b, v = .boolean b

def IsCount (v : Value) : Prop := ∃ n, v = .integer n ∧ 0 ≤ n ∧ n ≤ 4294967295

/-- A text that can be read as a word of a vocabulary. -/
def IsWord {α : Type} (parse : String → Except UnknownKeyword α) (v : Value) : Prop :=
  ∃ text a, v = .string text ∧ parse text = .ok a

def IsListOf (P : Value → Prop) (v : Value) : Prop :=
  ∃ items, v = .array items ∧ ∀ item ∈ items, P item.2

def IsTable (schema : Schema) (v : Value) : Prop := ∃ t, v = .table t ∧ schema.Admits t

@[simp] theorem isCount_integer {n : Int} : IsCount (.integer n) ↔ 0 ≤ n ∧ n ≤ 4294967295 := by
  simp [IsCount]

@[simp] theorem isWord_string {α : Type} {parse : String → Except UnknownKeyword α}
    {text : String} : IsWord parse (.string text) ↔ ∃ a, parse text = .ok a := by
  simp [IsWord]

@[simp] theorem isListOf_array {P : Value → Prop} {items : List (Span × Value)} :
    IsListOf P (.array items) ↔ ∀ item ∈ items, P item.2 := by
  simp [IsListOf]

@[simp] theorem isTable_table {schema : Schema} {t : Table} :
    IsTable schema (.table t) ↔ schema.Admits t := by
  simp [IsTable]

def settingsSchema : Schema :=
  [("interpreter", IsText), ("script", IsText), ("log_dir", IsText), ("working_dir", IsText),
   ("on_failure", IsWord FailureMode.parse)]

def invocationSchema : Schema :=
  [("name", IsText), ("enabled", IsTruth), ("plot", IsTruth), ("normalize", IsTruth),
   ("apt_stats", IsTruth), ("ignore", IsListOf (IsWord Tag.parse)), ("min_apis", IsCount),
   ("out_dir", IsText), ("dataset", IsText)]

/-- What a batch file may be like. -/
def batchSchema : Schema :=
  [("config", IsTable settingsSchema), ("invocation", IsListOf (IsTable invocationSchema))]

theorem succeeds_decodeText_iff {v : Span × Value} : (decodeText v).Succeeds ↔ IsText v.2 := by
  simp only [Succeeds, decodeText_eq_ok_iff, IsText]

theorem succeeds_decodeTruth_iff {v : Span × Value} : (decodeTruth v).Succeeds ↔ IsTruth v.2 := by
  simp only [Succeeds, decodeTruth_eq_ok_iff, IsTruth]

/-- Counts are the whole numbers of 32 bits without a sign. -/
theorem succeeds_decodeCount_iff {v : Span × Value} : (decodeCount v).Succeeds ↔ IsCount v.2 := by
  simp only [Succeeds, decodeCount_eq_ok_iff, IsCount]
  constructor
  · rintro ⟨n, hv⟩
    have hn := n.toNat_lt
    exact ⟨n.toNat, hv, by omega, by omega⟩
  · rintro ⟨n, hv, hmin, hmax⟩
    refine ⟨UInt32.ofNat n.toNat, ?_⟩
    rw [hv, UInt32.toNat_ofNat_of_lt' (by simp only [UInt32.size]; omega), Int.toNat_of_nonneg hmin]

theorem succeeds_decodeKeyword_iff {α : Type} {parse : String → Except UnknownKeyword α}
    {v : Span × Value} : (decodeKeyword parse v).Succeeds ↔ IsWord parse v.2 := by
  simp only [Succeeds, decodeKeyword_eq_ok_iff, IsWord]
  exact ⟨fun ⟨a, text, h⟩ => ⟨text, a, h⟩, fun ⟨text, a, h⟩ => ⟨a, text, h⟩⟩

/-- A list is read if each of its items is. -/
theorem succeeds_mapM_iff {α β : Type} {item : β → Decoded α} {l : List β} :
    Succeeds (l.mapM item) ↔ ∀ x ∈ l, (item x).Succeeds := by
  induction l with
  | nil => exact ⟨fun _ => by simp, fun _ => ⟨[], rfl⟩⟩
  | cons x rest ih =>
    rw [List.mapM_cons, succeeds_bind_iff, List.forall_mem_cons, ← ih]
    simp only [succeeds_map_iff]
    exact ⟨fun ⟨a, ha, hrest⟩ => ⟨⟨a, ha⟩, hrest⟩, fun ⟨⟨a, ha⟩, hrest⟩ => ⟨a, ha, hrest⟩⟩

theorem succeeds_decodeList_iff {α : Type} {item : Span × Value → Decoded α} {P : Value → Prop}
    {v : Span × Value}
    (h : ∀ items, v.2 = .array items → ∀ x ∈ items, (item x).Succeeds ↔ P x.2) :
    (decodeList item v).Succeeds ↔ IsListOf P v.2 := by
  unfold decodeList
  split
  · rename_i items hv
    rw [succeeds_within, succeeds_mapM_iff, hv, isListOf_array]
    exact forall₂_congr (h items hv)
  · rename_i hv
    exact ⟨fun hsucceeds => absurd hsucceeds not_succeeds_error,
      fun ⟨items, h, _⟩ => absurd h (hv items)⟩

/-! ## Tables -/

/-- A field goes with an item of a schema, as far as an entry of a table is concerned: it has the
same key, and if that is the key of the entry it takes the value exactly if the schema does. -/
def FollowsAt {α : Type} (e : Key × Span × Value) (field : Field α)
    (item : String × (Value → Prop)) : Prop :=
  field.name = item.1 ∧
    (item.1 = e.1.text → ∀ a, (field.read a e.2).Succeeds ↔ item.2 e.2.2)

theorem followsAt_of_iff {α β : Type} {e : Key × Span × Value} {name : String}
    {decode : Span × Value → Decoded β} {put : α → β → α} {P : Value → Prop}
    (h : name = e.1.text → ((decode e.2).Succeeds ↔ P e.2.2)) :
    FollowsAt e ⟨name, fun a v => return put a (← decode v)⟩ (name, P) :=
  ⟨rfl, fun hkey _ => succeeds_map_iff.trans (h hkey)⟩

section

variable {α : Type} {fields : List (Field α)} {schema : Schema}

/-- The first field with the key of an entry is the only one. -/
theorem succeeds_readEntry_iff (hnames : (schema.map Prod.fst).Nodup) {e : Key × Span × Value}
    (h : List.Forall₂ (FollowsAt e) fields schema) (a : α) :
    (Field.readEntry fields a e).Succeeds ↔
      ∃ item ∈ schema, item.1 = e.1.text ∧ item.2 e.2.2 := by
  induction h with
  | nil => exact ⟨fun h => absurd h not_succeeds_error, by simp⟩
  | @cons field item fields schema hfield _ ih =>
    rw [List.map_cons, List.nodup_cons] at hnames
    -- either the first field reads the entry, or the others do as if it were not there
    by_cases hkey : field.name = e.1.text
    · have hread : Field.readEntry (field :: fields) a e = (field.read a e.2).within e.2.1 := by
        simp [Field.readEntry, hkey]
      rw [hread, succeeds_within, hfield.2 (hfield.1 ▸ hkey)]
      constructor
      · intro hvalue
        exact ⟨item, by simp, hfield.1 ▸ hkey, hvalue⟩
      · rintro ⟨other, hother, hname, hvalue⟩
        rcases List.mem_cons.mp hother with rfl | hother
        · exact hvalue
        · have hsame : item.1 ∈ schema.map Prod.fst := by
            rw [← hfield.1, hkey, ← hname]
            exact List.mem_map_of_mem hother
          exact absurd hsame hnames.1
    · have hread : (Field.readEntry (field :: fields) a e).Succeeds ↔
          (Field.readEntry fields a e).Succeeds := by
        simp only [Field.readEntry, List.find?_cons, beq_eq_false_iff_ne.mpr hkey]
        cases fields.find? (·.name == e.1.text) with
        | none => exact ⟨nofun, nofun⟩
        | some found => exact Iff.rfl
      rw [hread, ih hnames.2]
      have hitem : item.1 ≠ e.1.text := hfield.1 ▸ hkey
      simp [hitem]

theorem mem_sorted_iff {t : Table} {e : Key × Span × Value} : e ∈ Field.sorted t ↔ e ∈ t :=
  (List.mergeSort_perm t _).mem_iff

/-- A table is read exactly if each of its entries is admitted. No key is required. -/
theorem succeeds_readTable_iff (hnames : (schema.map Prod.fst).Nodup) {t : Table}
    (h : ∀ e ∈ t, List.Forall₂ (FollowsAt e) fields schema) (a : α) :
    (Field.readTable fields a t).Succeeds ↔ schema.Admits t := by
  have hentries : ∀ e ∈ Field.sorted t, ∀ a, (Field.readEntry fields a e).Succeeds ↔
      ∃ item ∈ schema, item.1 = e.1.text ∧ item.2 e.2.2 := fun e he a =>
    succeeds_readEntry_iff hnames (h e (mem_sorted_iff.mp he)) a
  rw [Field.readTable, succeeds_foldlM_iff hentries]
  simp only [mem_sorted_iff]
  rfl

/-- A record that is not written as an array is a table. -/
theorem succeeds_readRecord_iff (hnames : (schema.map Prod.fst).Nodup)
    (h : ∀ e, List.Forall₂ (FollowsAt e) fields schema) {v : Span × Value}
    (hv : ∀ items, v.2 ≠ .array items) (expected : Expected) (a : α) :
    (Field.readRecord fields expected a v).Succeeds ↔ IsTable schema v.2 := by
  unfold Field.readRecord
  split
  · rename_i t ht
    rw [succeeds_within, succeeds_readTable_iff hnames fun e _ => h e, ht, isTable_table]
  · rename_i items hitems
    exact absurd hitems (hv items)
  · rename_i hdate
    simp [hdate, IsTable, not_succeeds_error]
  · rename_i hother _ _
    exact ⟨fun hs => absurd hs not_succeeds_error, fun ⟨t, ht, _⟩ => absurd ht (hother t)⟩

end

/-! ## Batch files -/

/-- The fields that are read for the settings are those of the schema, in the same order. -/
theorem followsAt_settings (e : Key × Span × Value) :
    List.Forall₂ (FollowsAt e) settingsFields settingsSchema :=
  .cons (followsAt_of_iff fun _ => succeeds_decodeText_iff) <|
  .cons (followsAt_of_iff fun _ => succeeds_decodeText_iff) <|
  .cons (followsAt_of_iff fun _ => succeeds_decodeText_iff) <|
  .cons (followsAt_of_iff fun _ => succeeds_decodeText_iff) <|
  .cons (followsAt_of_iff fun _ => succeeds_decodeKeyword_iff) .nil

theorem succeeds_decodeTags_iff {v : Span × Value} :
    (decodeList (decodeKeyword Tag.parse) v).Succeeds ↔ IsListOf (IsWord Tag.parse) v.2 :=
  succeeds_decodeList_iff fun _ _ _ _ => succeeds_decodeKeyword_iff

theorem followsAt_invocation (e : Key × Span × Value) :
    List.Forall₂ (FollowsAt e) invocationFields invocationSchema :=
  .cons (followsAt_of_iff fun _ => succeeds_decodeText_iff) <|
  .cons (followsAt_of_iff fun _ => succeeds_decodeTruth_iff) <|
  .cons (followsAt_of_iff fun _ => succeeds_decodeTruth_iff) <|
  .cons (followsAt_of_iff fun _ => succeeds_decodeTruth_iff) <|
  .cons (followsAt_of_iff fun _ => succeeds_decodeTruth_iff) <|
  .cons (followsAt_of_iff fun _ => succeeds_decodeTags_iff) <|
  .cons (followsAt_of_iff fun _ => succeeds_decodeCount_iff) <|
  .cons (followsAt_of_iff fun _ => succeeds_decodeText_iff) <|
  .cons (followsAt_of_iff fun _ => succeeds_decodeText_iff) .nil

/-- Neither the settings nor an entry is written as an array. -/
structure RecordsAreTables (root : Table) : Prop where
  config : ∀ e ∈ root, e.1.text = "config" → ∀ items, e.2.2 ≠ .array items
  invocation : ∀ e ∈ root, e.1.text = "invocation" → ∀ items, e.2.2 = .array items →
    ∀ x ∈ items, ∀ items', x.2 ≠ .array items'

theorem RecordsAreTables.followsAt {root : Table} (h : RecordsAreTables root) :
    ∀ e ∈ root, List.Forall₂ (FollowsAt e) batchFields batchSchema := by
  intro e he
  refine .cons (followsAt_of_iff fun hkey => ?_) (.cons (followsAt_of_iff fun hkey => ?_) .nil)
  · exact succeeds_readRecord_iff (by decide) followsAt_settings (h.config e he hkey.symm)
      .settings {}
  · exact succeeds_decodeList_iff fun items hitems x hx =>
      succeeds_readRecord_iff (by decide) followsAt_invocation
        (h.invocation e he hkey.symm items hitems x hx) .invocation {}

/-- Decoding and the schema agree on every document whose records are tables. -/
theorem RecordsAreTables.succeeds_decode_iff {root : Table} (h : RecordsAreTables root) :
    (decode root).Succeeds ↔ batchSchema.Admits root :=
  succeeds_readTable_iff (by decide) h.followsAt {}

theorem loadFrom_of_decoded {read : FileReader} {path text : String} {root : Table} {b : Batch}
    (htext : read path = .ok text) (hroot : Toml.Document.parse? text = some root)
    (h : decode root = .ok b) : Batch.loadFrom read path = .ok b := by
  simp only [Batch.loadFrom, htext, load, hroot, h]

/-- A mismatch becomes the error of the whole file, together with its place in the text. -/
theorem loadFrom_of_mismatch {read : FileReader} {path text : String} {root : Table}
    {e : DecodeError} (htext : read path = .ok text)
    (hroot : Toml.Document.parse? text = some root) (h : decode root = .error e) :
    ∃ place, Batch.loadFrom read path = .error (.unloadable (.mismatch e.cause place)) := by
  simp only [Batch.loadFrom, htext, load, hroot, h]
  exact ⟨_, rfl⟩

/-- A document in which no record is written as an array describes a batch if and only if it follows
the schema: there are no keys but `config` and `invocation`, the first is a table of settings and
the second an array of tables of flags, and all keys in them are known and have values of the right
kind and in the right range. A file with a document that does not follow it gives no batch, but an
error about a mismatch. -/
theorem decode_accepts_iff {root : Table} (h : RecordsAreTables root) :
    ((∃ b, decode root = .ok b) ↔ batchSchema.Admits root) ∧
    ∀ (read : FileReader) (path text : String), read path = .ok text →
      Toml.Document.parse? text = some root →
      ((∃ b, Batch.loadFrom read path = .ok b) ↔ batchSchema.Admits root) ∧
      (¬ batchSchema.Admits root → ∃ cause place,
        Batch.loadFrom read path = .error (.unloadable (.mismatch cause place))) := by
  have hdecode := h.succeeds_decode_iff
  refine ⟨hdecode, ?_⟩
  intro read path text htext hroot
  have hrefused : ¬ batchSchema.Admits root → ∃ cause place,
      Batch.loadFrom read path = .error (.unloadable (.mismatch cause place)) := by
    intro hnot
    obtain ⟨e, he⟩ := exists_error_of_not_succeeds fun hs => hnot (hdecode.mp hs)
    exact ⟨e.cause, loadFrom_of_mismatch htext hroot he⟩
  refine ⟨⟨?_, ?_⟩, hrefused⟩
  · rintro ⟨b, hb⟩
    by_contra hnot
    obtain ⟨cause, place, herror⟩ := hrefused hnot
    simp [hb] at herror
  · intro hadmits
    obtain ⟨b, hb⟩ := hdecode.mpr hadmits
    exact ⟨b, loadFrom_of_decoded htext hroot hb⟩

/-- The greatest count is accepted, next to tags and a mode in any letter case, and the number after
it makes the whole file fail. -/
theorem decode_accepts_iff_of_greatest_count :
    let placed (v : Value) : Span × Value := (⟨0, 0⟩, v)
    let key (text : String) : Key := ⟨text, ⟨0, 0⟩⟩
    let file (n : Int) : Table :=
      [(key "invocation", placed (.array
          [placed (.table []),
           placed (.table
            [(key "min_apis", placed (.integer n)),
             (key "ignore", placed (.array
               [placed (.string " DLL"), placed (.string "nonC")]))])])),
       (key "config", placed (.table [(key "on_failure", placed (.string "Halt"))]))]
    RecordsAreTables (file 4294967295) ∧ (∃ b, decode (file 4294967295) = .ok b) ∧
      RecordsAreTables (file 4294967296) ∧ ¬ ∃ b, decode (file 4294967296) = .ok b := by
  intro placed key file
  have htables (n : Int) : RecordsAreTables (file n) := by
    constructor
    · simp [file, key, placed]
    · rintro e he - items hitems x hx items' hx'
      simp only [file, List.mem_cons, List.not_mem_nil, or_false] at he
      rcases he with rfl | rfl
      · obtain rfl := Value.array.inj hitems
        simp only [List.mem_cons, List.not_mem_nil, or_false] at hx
        rcases hx with rfl | rfl <;> cases hx'
      · cases hitems
  have hadmits (n : Int) : batchSchema.Admits (file n) ↔ 0 ≤ n ∧ n ≤ 4294967295 := by
    have hhalt : ∃ mode, FailureMode.parse "Halt" = .ok mode :=
      ⟨.halt, FailureMode.parse_eq_ok_iff.mpr (by decide +kernel)⟩
    have hdll : ∃ tag, Tag.parse " DLL" = .ok tag :=
      ⟨.dll, Tag.parse_eq_ok_iff.mpr (by decide +kernel)⟩
    have hnonc : ∃ tag, Tag.parse "nonC" = .ok tag :=
      ⟨.nonc, Tag.parse_eq_ok_iff.mpr (by decide +kernel)⟩
    simp [file, key, placed, batchSchema, settingsSchema, invocationSchema, hhalt, hdll, hnonc]
  refine ⟨htables _, (decode_accepts_iff (htables _)).1.mpr ?_, htables _, ?_⟩
  · exact (hadmits _).mpr (by decide)
  · rw [(decode_accepts_iff (htables _)).1, hadmits]
    decide

end BatchFile

end ScriptBatch
