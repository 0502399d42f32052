import AccessConsole.Paging
import AccessConsole.Proofs.Session.Texts
import AccessConsole.Resource.Admin
import AccessConsole.Resource.ApiKey
import AccessConsole.Resource.Attribute
import AccessConsole.Resource.Authorization
import AccessConsole.Resource.RadSec
import AccessConsole.Resource.User

/-!
# Models read back from their texts

Every value that the server may answer with is read back from its text, unless the text is nested
too deep; then nothing is read.

* `GroupTree.codec_eq` — groups are records that hold lists of groups.
* `GroupTree.nesting_write` — each level of groups opens an object, and an array for what is
  nested in it.
* `GroupTree.decode?_encode` — 64 levels of groups are read back, more are not read.
* `ResponseModel` — the models of answers, and pages of them.
* `ResponseModel.decode?_compact_and_pretty` — what is read from the texts of their values.
-/

namespace AccessConsole

/-! ## Groups nested in groups -/

namespace Hierarchy.Tree

variable {α : Type}

/-- What holds of a tree as soon as it holds of the trees nested in it holds of all trees. -/
theorem nested_induction {P : Tree α → Prop}
    (node : ∀ a ts, (∀ t ∈ ts, P t) → P (.node a ts)) : ∀ t, P t
  | .node a ts => node a ts fun t _ => nested_induction node t

mutual

/-- The number of levels of a tree. -/
def levels : Tree α → Nat
  | .node _ ts => mostLevels ts + 1

/-- The most levels that a tree of a forest has. -/
def mostLevels : List (Tree α) → Nat
  | [] => 0
  | t :: ts => max t.levels (mostLevels ts)

end

end Hierarchy.Tree

namespace GroupTree

open Hierarchy.Tree (levels mostLevels nested_induction)

variable {kind : GroupKind}

theorem writeAll_eq (ts : List (GroupTree kind)) : writeAll ts = ts.map write := by
  induction ts with
  | nil => rfl
  | cons t ts ih => rw [writeAll, ih, List.map_cons]

/-- A level of groups is read alike if what is nested in it is. -/
theorem level_read?_congr {nested nested' : Codec (List (GroupTree kind))} {depth : Nat}
    (h : nested.read? depth = nested'.read? depth) :
    (level nested).read? (depth + 1) = (level nested').read? (depth + 1) := by
  have hchildren : Field.value? ⟨"children", nested, some [], List.isEmpty⟩ depth =
      Field.value? ⟨"children", nested', some [], List.isEmpty⟩ depth := by
    funext slot
    cases slot with
    | none => rfl
    | some j => exact congrFun h j
  have hvalues : (fields kind nested).values? depth = (fields kind nested').values? depth := by
    funext slots
    simp only [fields, Fields.values?, hchildren]
  funext j
  show ((slots? _ j).bind ((fields kind nested).values? depth)).map _ = _
  rw [hvalues]
  rfl

/-- Groups are records, and one of their fields holds the list of groups nested in them. -/
theorem codec_eq (kind : GroupKind) : codec kind = level (codec kind).list := by
  have hwrite : ∀ t : GroupTree kind, write t = (level (codec kind).list).write t := by
    rintro ⟨g, children⟩
    show _ =
      (level ⟨fun _ => .array (children.map write), fun _ _ => none⟩).write (.node g children)
    rw [write, writeAll_eq]
  have hread : ∀ depth j, read? depth j = (level (codec kind).list).read? depth j := by
    intro depth j
    cases depth with
    | zero => rfl
    | succ depth =>
      cases depth with
      | zero =>
        rw [read?]
        exact congrFun (level_read?_congr (funext fun items => rfl)) j
      | succ depth =>
        rw [read?]
        refine congrFun (level_read?_congr (funext fun items => ?_)) j
        cases items <;> rfl
  exact congrArg₂ Codec.mk (funext hwrite) (funext₂ hread)

theorem readsBack (t : GroupTree kind) : ∀ depth, (codec kind).ReadsBack depth t := by
  induction t using nested_induction with
  | node g children ih =>
    intro depth
    have hnames : (fields kind (codec kind).list).names.Nodup := by cases kind <;> decide
    rw [codec_eq]
    cases depth with
    | zero => exact Codec.readsBack_record_zero _
    | succ depth =>
      have hlist : (codec kind).list.ReadsBack depth children :=
        Codec.readsBack_list (fun depth t ht => ih t ht depth) depth
      have hchildren : Field.ReadsBack ⟨"children", (codec kind).list, some [], List.isEmpty⟩ depth
          children :=
        Field.readsBack_of_codec hlist fun hempty =>
          congrArg some (List.isEmpty_iff.1 hempty).symm
      refine Codec.readsBack_record hnames ?_ rfl
      exact ⟨Field.lawful_required Codec.lawful_int64 _ depth g.id,
        Field.lawful_required Codec.lawful_string _ depth g.name,
        Field.lawful_defaulted Codec.lawful_string _ _ depth g.description,
        Field.lawful_optional Codec.lawful_int64 _ depth g.parentId,
        Field.lawful_defaulted Codec.lawful_bool _ _ depth g.mark,
        hchildren,
        Field.lawful_sparse Codec.lawful_uint32 _ depth g.level,
        Field.lawful_optional Codec.lawful_string _ depth g.createdAt,
        Field.lawful_optional Codec.lawful_string _ depth g.updatedAt, trivial⟩

@[simp] theorem lawful_codec (kind : GroupKind) : (codec kind).Lawful := by
  refine ⟨fun depth t => readsBack t depth, fun t => ?_⟩
  rw [codec_eq]
  exact Json.noConfusion

/-- If the levels of each tree tell its nesting, so do the levels of a forest that is not empty. -/
theorem itemNesting_write {ts : List (GroupTree kind)}
    (h : ∀ t ∈ ts, (write t).nesting + 1 = 2 * t.levels) (hne : ts ≠ []) :
    Json.itemNesting (ts.map write) + 1 = 2 * mostLevels ts := by
  induction ts with
  | nil => exact absurd rfl hne
  | cons t ts ih =>
    have ht := h t List.mem_cons_self
    rw [List.map_cons, Json.itemNesting, mostLevels]
    cases ts with
    | nil =>
      simp only [List.map_nil, Json.itemNesting, mostLevels]
      omega
    | cons u us =>
      have hus := ih (fun t ht => h t (List.mem_cons_of_mem _ ht)) (List.cons_ne_nil _ _)
      omega

/-- A level opens an object, and an array where something is nested in it. -/
theorem nesting_write (t : GroupTree kind) : (write t).nesting + 1 = 2 * t.levels := by
  induction t using nested_induction with
  | node g children ih =>
    have hwrite : (write (.node g children)).nesting =
        Field.nesting ⟨"children", (codec kind).list, some [], List.isEmpty⟩ children + 1 := by
      have h := congrArg (fun c => (c.write (.node g children)).nesting) (codec_eq kind)
      refine h.trans ?_
      simp [level, Codec.record, Fields.nesting_record, fields, Field.nesting_of_flat,
        Hierarchy.Tree.label, Hierarchy.Tree.children]
    rw [hwrite, levels]
    cases children with
    | nil => rfl
    | cons t ts =>
      have := itemNesting_write ih (List.cons_ne_nil _ _)
      show Json.itemNesting ((t :: ts).map write) + 1 + 1 + 1 = _
      omega

/-- 64 levels of groups are read back from their text. A text with more levels is not read. -/
theorem decode?_encode (t : GroupTree kind) :
    (codec kind).decode? ((codec kind).encode t) = if t.levels ≤ 64 then some t else none := by
  have hnesting := nesting_write t
  have hlevels : (write t).nesting ≤ Json.nestingLimit ↔ t.levels ≤ 64 := by
    unfold Json.nestingLimit
    omega
  rw [Codec.encode, (lawful_codec kind).decode?_compact, Json.opened_compact]
  exact if_congr hlevels rfl rfl

end GroupTree

/-! ## Records -/

@[simp] theorem Vendor.lawful_codec : codec.Lawful :=
  Codec.lawful_record (by decide) (by simp) fun _ => rfl

@[simp] theorem Secret.lawful_codec : codec.Lawful :=
  Codec.lawful_record (by decide) (by simp) fun _ => rfl

@[simp] theorem RadSecSource.lawful_codec : codec.Lawful :=
  Codec.lawful_record (by decide) (by simp) fun _ => rfl

@[simp] theorem AdminGroup.lawful_codec : codec.Lawful :=
  Codec.lawful_record (by decide) (by simp) fun _ => rfl

@[simp] theorem AdminUser.lawful_codec : codec.Lawful :=
  Codec.lawful_record (by decide) (by simp) fun _ => rfl

@[simp] theorem AttributeGroup.lawful_codec : codec.Lawful :=
  Codec.lawful_record (by decide) (by simp) fun _ => rfl

/-- The names of the types are told apart. -/
@[simp] theorem AttributeType.lawful_codec : codec.Lawful :=
  ⟨fun _ t => Codec.readsBack_of_flat (by cases t <;> rfl) rfl, fun _ => Json.noConfusion⟩

@[simp] theorem RadiusAttribute.lawful_codec : codec.Lawful :=
  Codec.lawful_record (by decide) (by simp) fun _ => rfl

@[simp] theorem Timezone.lawful_codec : codec.Lawful :=
  Codec.lawful_record (by decide) (by simp) fun _ => rfl

@[simp] theorem ApiKey.lawful_codec : codec.Lawful :=
  Codec.lawful_record (by decide) (by simp) fun _ => rfl

@[simp] theorem Nas.lawful_codec : codec.Lawful :=
  Codec.lawful_record (by decide) (by simp) fun _ => rfl

@[simp] theorem NasAuthorization.lawful_codec : codec.Lawful :=
  Codec.lawful_record (by decide) (by simp) fun _ => rfl

@[simp] theorem IdentifierType.lawful_codec : codec.Lawful :=
  Codec.lawful_record (by decide) (by simp) fun _ => rfl

@[simp] theorem UserIdentifier.lawful_codec : codec.Lawful :=
  Codec.lawful_record (by decide) (by simp) fun _ => rfl

@[simp] theorem User.lawful_codec : codec.Lawful :=
  Codec.lawful_record (by decide) (by simp) fun _ => rfl

@[simp] theorem Page.lawful_codec {α : Type} {c : Codec α} (h : c.Lawful) : (codec c).Lawful :=
  Codec.lawful_record (show ["count", "next", "previous", "results"].Nodup by decide)
    (by simp [h]) fun _ => rfl

/-! ## Answers -/

/-- The models that the server answers with. -/
inductive ResponseModel
  | vendor
  | secret
  | radSecSource
  | adminUser
  | adminGroup
  | identifierType
  | userIdentifier
  | user
  | group (kind : GroupKind)
  | nas
  | attributeGroup
  | radiusAttribute
  | nasAuthorization
  | timezone
  | apiKey
  | currentUser
  | page (items : ResponseModel)

namespace ResponseModel

/-- The values of a model. -/
def Value : ResponseModel → Type
  | vendor => Vendor
  | secret => Secret
  | radSecSource => RadSecSource
  | adminUser => AdminUser
  | adminGroup => AdminGroup
  | identifierType => IdentifierType
  | userIdentifier => UserIdentifier
  | user => User
  | group kind => GroupTree kind
  | nas => Nas
  | attributeGroup => AttributeGroup
  | radiusAttribute => RadiusAttribute
  | nasAuthorization => NasAuthorization
  | timezone => Timezone
  | apiKey => ApiKey
  | currentUser => CurrentUser
  | page items => Page items.Value

/-- How the values of a model stand in documents. -/
def codec : (m : ResponseModel) → Codec m.Value
  | vendor => Vendor.codec
  | secret => Secret.codec
  | radSecSource => RadSecSource.codec
  | adminUser => AdminUser.codec
  | adminGroup => AdminGroup.codec
  | identifierType => IdentifierType.codec
  | userIdentifier => UserIdentifier.codec
  | user => User.codec
  | group kind => GroupTree.codec kind
  | nas => Nas.codec
  | attributeGroup => AttributeGroup.codec
  | radiusAttribute => RadiusAttribute.codec
  | nasAuthorization => NasAuthorization.codec
  | timezone => Timezone.codec
  | apiKey => ApiKey.codec
  | currentUser => CurrentUser.codec
  | page items => Page.codec items.codec

theorem lawful_codec : (m : ResponseModel) → m.codec.Lawful
  | vendor => Vendor.lawful_codec
  | secret => Secret.lawful_codec
  | radSecSource => RadSecSource.lawful_codec
  | adminUser => AdminUser.lawful_codec
  | adminGroup => AdminGroup.lawful_codec
  | identifierType => IdentifierType.lawful_codec
  | userIdentifier => UserIdentifier.lawful_codec
  | user => User.lawful_codec
  | group kind => GroupTree.lawful_codec kind
  | nas => Nas.lawful_codec
  | attributeGroup => AttributeGroup.lawful_codec
  | radiusAttribute => RadiusAttribute.lawful_codec
  | nasAuthorization => NasAuthorization.lawful_codec
  | timezone => Timezone.lawful_codec
  | apiKey => ApiKey.lawful_codec
  | currentUser => CurrentUser.lawful_codec
  | page items => Page.lawful_codec items.lawful_codec

/-- Every value of every model is read back from both of its texts, unless they open more arrays
and objects inside one another than may be opened. Then nothing is read. -/
theorem decode?_compact_and_pretty (m : ResponseModel) (v : m.Value) :
    (m.codec.decode? (m.codec.write v).compact =
      if Json.opened (m.codec.write v).compact ≤ Json.nestingLimit then some v else none) ∧
    (m.codec.decode? (m.codec.write v).pretty =
      if Json.opened (m.codec.write v).pretty ≤ Json.nestingLimit then some v else none) :=
  ⟨m.lawful_codec.decode?_compact v, m.lawful_codec.decode?_pretty v⟩

end ResponseModel

end AccessConsole
