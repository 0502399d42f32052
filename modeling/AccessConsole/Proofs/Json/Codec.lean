import AccessConsole.Json.Codec
import AccessConsole.Proofs.Json.Nesting

/-!
# Values read back

What is written for a value is read as that value as long as it is not nested too deep, and is not
read at all where it is.

* `Codec.ReadsBack`, `Field.ReadsBack`, `Fields.ReadsBack` — this for one value.
* `Codec.Lawful`, `Field.Lawful`, `Fields.Lawful` — this for all values.
* `slots?_record` — in the object of a record each field finds its own document.
* `Codec.lawful_record` — a record is lawful if its fields are and have distinct names.
* `Codec.decode?_compact`, `Codec.decode?_pretty` — what holds of documents holds of their texts.
-/

namespace AccessConsole

open Json (nestingLimit)

variable {α β τ : Type}

/-- The document of the value is read as the value, unless it nests more than `depth` arrays and
objects. -/
def Codec.ReadsBack (c : Codec α) (depth : Nat) (a : α) : Prop :=
  c.read? depth (c.write a) = if (c.write a).nesting ≤ depth then some a else none

/-- All values are read back, and none is written as null, which is kept for absent ones. -/
structure Codec.Lawful (c : Codec α) : Prop where
  readsBack (depth : Nat) (a : α) : c.ReadsBack depth a
  ne_null (a : α) : c.write a ≠ .null

/-! ## Plain values -/

namespace Codec

/-- No value is written with arrays or objects. -/
def Flat (c : Codec α) : Prop := ∀ a, (c.write a).nesting = 0

@[simp] theorem flat_bool : bool.Flat := fun _ => rfl

@[simp] theorem flat_string : string.Flat := fun _ => rfl

@[simp] theorem flat_int64 : int64.Flat := fun _ => rfl

@[simp] theorem flat_uint32 : uint32.Flat := fun _ => rfl

/-- A document without arrays and objects is read at any depth. -/
theorem readsBack_of_flat {c : Codec α} {depth : Nat} {a : α}
    (h : c.read? depth (c.write a) = some a) (hflat : (c.write a).nesting = 0) :
    c.ReadsBack depth a := by
  unfold ReadsBack
  rw [h, hflat, if_pos (Nat.zero_le depth)]

@[simp] theorem lawful_bool : bool.Lawful :=
  ⟨fun _ a => readsBack_of_flat rfl (flat_bool a), fun _ => Json.noConfusion⟩

@[simp] theorem lawful_string : string.Lawful :=
  ⟨fun _ a => readsBack_of_flat rfl (flat_string a), fun _ => Json.noConfusion⟩

theorem lawful_ranged {low high : Int} {ofInt : Int → α} {toInt : α → Int}
    (hrange : ∀ a, low ≤ toInt a ∧ toInt a ≤ high) (hofInt : ∀ a, ofInt (toInt a) = a) :
    (ranged low high ofInt toInt).Lawful := by
  refine ⟨fun depth a => readsBack_of_flat ?_ rfl, fun _ => Json.noConfusion⟩
  show (if low ≤ toInt a && toInt a ≤ high then some (ofInt (toInt a)) else none) = some a
  rw [decide_eq_true (hrange a).1, decide_eq_true (hrange a).2, Bool.and_self, if_pos rfl, hofInt]

@[simp] theorem lawful_int64 : int64.Lawful :=
  lawful_ranged (fun n => ⟨n.minValue_le_toInt, n.toInt_le⟩) Int64.ofInt_toInt

@[simp] theorem lawful_int32 : int32.Lawful :=
  lawful_ranged (fun n => ⟨n.minValue_le_toInt, n.toInt_le⟩) Int32.ofInt_toInt

@[simp] theorem lawful_uint64 : uint64.Lawful := by
  refine lawful_ranged (fun n => ?_) fun n => ?_
  · have := n.toNat_lt_size
    omega
  · simp

@[simp] theorem lawful_uint32 : uint32.Lawful := by
  refine lawful_ranged (fun n => ?_) fun n => ?_
  · have := n.toNat_lt_size
    omega
  · simp

@[simp] theorem lawful_uint16 : uint16.Lawful := by
  refine lawful_ranged (fun n => ?_) fun n => ?_
  · have := n.toNat_lt_size
    omega
  · simp

/-! ## Values made of others -/

@[simp] theorem flat_optional {c : Codec α} (h : c.Flat) : c.optional.Flat
  | none => rfl
  | some a => h a

theorem read?_optional {c : Codec α} {depth : Nat} {j : Json} (hnull : j ≠ .null) :
    c.optional.read? depth j = (c.read? depth j).map some := by
  cases j with
  | null => exact absurd rfl hnull
  | _ => rfl

/-- A value whose document is not null is told from one that is absent. -/
theorem Lawful.readsBack_optional {c : Codec α} (h : c.Lawful) (depth : Nat) (a : Option α) :
    c.optional.ReadsBack depth a := by
  cases a with
  | none => exact readsBack_of_flat rfl rfl
  | some a =>
    have hread : c.read? depth (c.write a) = _ := h.readsBack depth a
    show c.optional.read? depth (c.write a) = if (c.write a).nesting ≤ depth then _ else _
    rw [read?_optional (h.ne_null a), hread]
    split <;> rfl

/-- Items are read back one by one. -/
theorem mapM_read?_write {c : Codec α} {depth : Nat} {as : List α}
    (h : ∀ a ∈ as, c.ReadsBack depth a) :
    (as.map c.write).mapM (c.read? depth) =
      if Json.itemNesting (as.map c.write) ≤ depth then some as else none := by
  induction as with
  | nil => exact (if_pos (Nat.zero_le depth)).symm
  | cons a as ih =>
    have ha : c.read? depth (c.write a) = _ := h a List.mem_cons_self
    have has := ih fun b hb => h b (List.mem_cons_of_mem _ hb)
    rw [List.map_cons, List.mapM_cons, ha, has]
    simp only [Json.itemNesting, Nat.max_le]
    by_cases hhead : (c.write a).nesting ≤ depth
    · by_cases htail : Json.itemNesting (as.map c.write) ≤ depth
      · simp [hhead, htail]
      · simp [hhead, htail]
    · simp [hhead]

theorem readsBack_list {c : Codec α} {as : List α} (h : ∀ depth, ∀ a ∈ as, c.ReadsBack depth a)
    (depth : Nat) : c.list.ReadsBack depth as := by
  have hnesting : (c.list.write as).nesting = Json.itemNesting (as.map c.write) + 1 := rfl
  unfold ReadsBack
  rw [hnesting]
  cases depth with
  | zero => exact (if_neg (Nat.not_succ_le_zero _)).symm
  | succ depth =>
    simp only [Nat.add_le_add_iff_right]
    exact mapM_read?_write (h depth)

@[simp] theorem lawful_list {c : Codec α} (h : c.Lawful) : c.list.Lawful :=
  ⟨fun depth _ => readsBack_list (fun depth a _ => h.readsBack depth a) depth,
    fun _ => Json.noConfusion⟩

end Codec

/-! ## Fields -/

namespace Field

/-- The document of a value, unless it is left out. -/
def slot (f : Field α) (a : α) : Option Json :=
  if f.omits a then none else some (f.codec.write a)

/-- The nesting of the document of a value; none where it is left out. -/
def nesting (f : Field α) (a : α) : Nat := ((f.slot a).map Json.nesting).getD 0

/-- The value is known from its document, or from the lack of one where it is left out. -/
def ReadsBack (f : Field α) (depth : Nat) (a : α) : Prop :=
  f.value? depth (f.slot a) = if f.nesting a ≤ depth then some a else none

/-- All values of the field are read back. -/
def Lawful (f : Field α) : Prop := ∀ depth a, f.ReadsBack depth a

theorem member_eq (f : Field α) (a : α) : f.member a = (f.slot a).toList.map (f.name, ·) := by
  unfold member slot
  split <;> rfl

/-- A field is read back if its codec reads back what is written, and what is left out is what is
taken for granted. -/
theorem readsBack_of_codec {f : Field α} {depth : Nat} {a : α} (h : f.codec.ReadsBack depth a)
    (homit : f.omits a = true → f.default = some a) : f.ReadsBack depth a := by
  unfold ReadsBack nesting slot
  by_cases ho : f.omits a = true
  · rw [if_pos ho]
    exact (homit ho).trans (if_pos (Nat.zero_le depth)).symm
  · rw [if_neg ho]
    exact h

theorem nesting_of_flat {f : Field α} (h : f.codec.Flat) (a : α) : f.nesting a = 0 := by
  unfold nesting slot
  split
  · rfl
  · exact h a

@[simp] theorem flat_required {c : Codec α} (h : c.Flat) (name : String) :
    (required name c).codec.Flat := h

@[simp] theorem flat_defaulted {c : Codec α} (h : c.Flat) (name : String) (value : α) :
    (defaulted name c value).codec.Flat := h

@[simp] theorem flat_optional {c : Codec α} (h : c.Flat) (name : String) :
    (optional name c).codec.Flat := Codec.flat_optional h

@[simp] theorem flat_sparse {c : Codec α} (h : c.Flat) (name : String) :
    (sparse name c).codec.Flat := Codec.flat_optional h

@[simp] theorem lawful_required {c : Codec α} (h : c.Lawful) (name : String) :
    (required name c).Lawful := fun depth a =>
  readsBack_of_codec (h.readsBack depth a) Bool.noConfusion

@[simp] theorem lawful_defaulted {c : Codec α} (h : c.Lawful) (name : String) (value : α) :
    (defaulted name c value).Lawful := fun depth a =>
  readsBack_of_codec (h.readsBack depth a) Bool.noConfusion

@[simp] theorem lawful_optional {c : Codec α} (h : c.Lawful) (name : String) :
    (optional name c).Lawful := fun depth a =>
  readsBack_of_codec (h.readsBack_optional depth a) Bool.noConfusion

@[simp] theorem lawful_sparse {c : Codec α} (h : c.Lawful) (name : String) :
    (sparse name c).Lawful := fun depth a =>
  readsBack_of_codec (h.readsBack_optional depth a) fun hnone =>
    congrArg some (Option.isNone_iff_eq_none.1 hnone).symm

end Field

namespace Fields

/-- The documents of the values, one place for each field. -/
def slots {τ : Type} : Fields τ → τ → List (Option Json)
  | .nil, _ => []
  | .cons field rest, (a, b) => field.slot a :: rest.slots b

/-- The deepest nesting of the documents of the values. -/
def nesting {τ : Type} : Fields τ → τ → Nat
  | .nil, _ => 0
  | .cons field rest, (a, b) => max (field.nesting a) (rest.nesting b)

@[simp] theorem nesting_cons (field : Field α) (rest : Fields β) (a : α) (b : β) :
    (cons field rest).nesting (a, b) = max (field.nesting a) (rest.nesting b) := rfl

@[simp] theorem nesting_nil (t : Unit) : nesting .nil t = 0 := rfl

/-- Each value is read back. -/
def ReadsBack {τ : Type} : Fields τ → Nat → τ → Prop
  | .nil, _, _ => True
  | .cons field rest, depth, (a, b) => field.ReadsBack depth a ∧ rest.ReadsBack depth b

/-- The fields are lawful. -/
def Lawful {τ : Type} : Fields τ → Prop
  | .nil => True
  | .cons field rest => field.Lawful ∧ rest.Lawful

@[simp] theorem lawful_nil : Lawful .nil := trivial

@[simp] theorem lawful_cons {field : Field α} {rest : Fields β} :
    (cons field rest).Lawful ↔ field.Lawful ∧ rest.Lawful := Iff.rfl

theorem Lawful.readsBack {fields : Fields τ} (h : fields.Lawful) (depth : Nat) (t : τ) :
    fields.ReadsBack depth t := by
  induction fields with
  | nil => trivial
  | cons field rest ih => exact ⟨h.1 depth t.1, ih h.2 t.2⟩

theorem values?_slots (fields : Fields τ) {depth : Nat} {t : τ} (h : fields.ReadsBack depth t) :
    fields.values? depth (fields.slots t) = if fields.nesting t ≤ depth then some t else none := by
  induction fields with
  | nil => exact (if_pos (Nat.zero_le depth)).symm
  | cons field rest ih =>
    obtain ⟨a, b⟩ := t
    have ha : field.value? depth (field.slot a) = _ := h.1
    have hhead : ((some (field.slot a)).bind id) = field.slot a := rfl
    simp only [values?, slots, List.head?_cons, List.tail_cons, hhead, ha, ih h.2, nesting,
      Nat.max_le]
    by_cases hfield : field.nesting a ≤ depth
    · by_cases hrest : rest.nesting b ≤ depth
      · simp [hfield, hrest]
      · simp [hfield, hrest]
    · simp [hfield]

/-- The members of a record stand in the order of the fields. -/
theorem names_members (fields : Fields τ) (t : τ) :
    ((fields.members t).map (·.1)).Sublist fields.names := by
  induction fields with
  | nil => exact .slnil
  | cons field rest ih =>
    obtain ⟨a, b⟩ := t
    simp only [members, names, List.map_append, Field.member_eq]
    cases field.slot a with
    | none => exact (ih b).cons _
    | some j => exact (ih b).cons_cons _

/-- Each name finds the document of its own field among the members. -/
theorem lookup_members (fields : Fields τ) (hnames : fields.names.Nodup) (t : τ) :
    (fields.names.map fun n => ((fields.members t).find? (·.1 = n)).map (·.2)) =
      fields.slots t := by
  induction fields with
  | nil => rfl
  | cons field rest ih =>
    obtain ⟨a, b⟩ := t
    have hfresh : field.name ∉ rest.names := (List.nodup_cons.mp hnames).1
    have hrest : (rest.members b).find? (·.1 = field.name) = none := by
      refine List.find?_eq_none.mpr fun m hm hname => hfresh ?_
      have : m.1 ∈ (rest.members b).map (·.1) := List.mem_map_of_mem hm
      exact of_decide_eq_true hname ▸ (rest.names_members b).subset this
    have hskip : ∀ n ∈ rest.names, (members (.cons field rest) (a, b)).find? (·.1 = n) =
        (rest.members b).find? (·.1 = n) := by
      intro n hn
      have hne : field.name ≠ n := fun h => hfresh (h ▸ hn)
      simp only [members, Field.member_eq]
      cases field.slot a <;> simp [hne]
    refine List.cons_eq_cons.mpr ⟨?_, ?_⟩
    · simp only [members, Field.member_eq]
      cases field.slot a <;> simp [hrest]
    · rw [← ih (List.nodup_cons.mp hnames).2 b]
      exact List.map_congr_left fun n hn => by rw [hskip n hn]

/-- The object of a record nests once more than its values. -/
theorem nesting_record (fields : Fields τ) (t : τ) :
    (Json.record (fields.members t)).nesting = fields.nesting t + 1 := by
  show Json.memberNesting ((fields.members t).map fun m => (some m.1, m.2)) + 1 = _
  congr 1
  induction fields with
  | nil => rfl
  | cons field rest ih =>
    obtain ⟨a, b⟩ := t
    simp only [members, nesting, List.map_append, Json.memberNesting_append, ih b]
    congr 1
    rw [Field.member_eq, Field.nesting]
    cases field.slot a with
    | none => rfl
    | some j => exact Nat.max_eq_left (Nat.zero_le _)

end Fields

/-! ## Records -/

/-- In the object of a record each field finds its own document. -/
theorem slots?_record (fields : Fields τ) (hnames : fields.names.Nodup) (t : τ) :
    slots? fields.names (Json.record (fields.members t)) = some (fields.slots t) := by
  have hsub := fields.names_members t
  have hknown : ((fields.members t).map fun m => (some m.1, m.2)).filterMap
      (fun m : Option String × Json => m.1.filter (· ∈ fields.names)) =
      (fields.members t).map (·.1) := by
    rw [List.filterMap_map, ← List.filterMap_eq_map]
    refine List.filterMap_congr fun m hm => ?_
    have : m.1 ∈ fields.names := hsub.subset (List.mem_map_of_mem hm)
    simp [this]
  have hall : ((fields.members t).map fun m => (some m.1, m.2)).all
      (fun m : Option String × Json => m.1.isSome) = true := by simp
  have hfind : ∀ n, (((fields.members t).map fun m => (some m.1, m.2)).find?
      (fun m : Option String × Json => m.1 = some n)).map (·.2) =
      ((fields.members t).find? (·.1 = n)).map (·.2) := by
    intro n
    simp [List.find?_map, Function.comp_def]
  simp only [slots?, Json.record, hknown, hall, hsub.nodup hnames, hfind,
    fields.lookup_members hnames, decide_true, Bool.and_self, if_true]

namespace Codec

variable {fields : Fields τ} {toTuple : α → τ} {ofTuple : τ → α}

/-- A record is read back if its fields are and have distinct names. -/
theorem readsBack_record (hnames : fields.names.Nodup) {depth : Nat} {a : α}
    (h : fields.ReadsBack depth (toTuple a)) (htuple : ofTuple (toTuple a) = a) :
    (record fields toTuple ofTuple).ReadsBack (depth + 1) a := by
  have hnesting := fields.nesting_record (toTuple a)
  have hread : (record fields toTuple ofTuple).read? (depth + 1)
      (Json.record (fields.members (toTuple a))) =
      if fields.nesting (toTuple a) ≤ depth then some a else none := by
    simp only [record, slots?_record fields hnames, Option.bind_some, fields.values?_slots h]
    split
    · rw [Option.map_some, htuple]
    · rfl
  show _ = if (Json.record (fields.members (toTuple a))).nesting ≤ depth + 1 then some a else none
  simp only [hnesting, Nat.add_le_add_iff_right]
  exact hread

/-- Where no object may be opened, no record is read. -/
theorem readsBack_record_zero (a : α) : (record fields toTuple ofTuple).ReadsBack 0 a := by
  have hnesting : ((record fields toTuple ofTuple).write a).nesting = _ :=
    fields.nesting_record (toTuple a)
  unfold ReadsBack
  rw [hnesting]
  exact (if_neg (Nat.not_succ_le_zero _)).symm

/-- A record is lawful if its fields are and have distinct names. -/
theorem lawful_record (hnames : fields.names.Nodup) (h : fields.Lawful)
    (htuple : ∀ a, ofTuple (toTuple a) = a) : (record fields toTuple ofTuple).Lawful := by
  refine ⟨fun depth a => ?_, fun _ => Json.noConfusion⟩
  cases depth with
  | zero => exact readsBack_record_zero a
  | succ depth => exact readsBack_record hnames (h.readsBack depth (toTuple a)) (htuple a)

/-! ## Texts -/

variable {c : Codec α}

/-- The text without white space is read as the value, unless it is nested too deep. -/
theorem Lawful.decode?_compact (h : c.Lawful) (a : α) :
    c.decode? (c.write a).compact =
      if Json.opened (c.write a).compact ≤ nestingLimit then some a else none := by
  rw [decode?, Json.read?_compact, Json.opened_compact]
  exact h.readsBack nestingLimit a

/-- So is the indented text. -/
theorem Lawful.decode?_pretty (h : c.Lawful) (a : α) :
    c.decode? (c.write a).pretty =
      if Json.opened (c.write a).pretty ≤ nestingLimit then some a else none := by
  rw [decode?, Json.read?_pretty, Json.opened_pretty]
  exact h.readsBack nestingLimit a

end Codec

end AccessConsole
