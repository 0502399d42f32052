import AccessConsole.Hierarchy.Tree
import AccessConsole.Resource.Operation

/-!
# Groups of devices and of subscribers

Devices and subscribers are grouped in the same way. The two kinds of group differ in one mark.

* `Group` — a group of either kind, without what is nested in it.
* `GroupTree` — a group with the groups nested in it, and its document.
* `NasGroupInput`, `UserGroupInput` — what is sent to create or change a group.
* `Group.line` — the line of a group in a listing.
-/

namespace AccessConsole

open Hierarchy (Entry)

/-- What is grouped. -/
inductive GroupKind
  | nas
  | user
  deriving DecidableEq, Repr

/-- The member that holds the mark: of devices, that the group is active; of subscribers, that its
members may use any device. -/
def GroupKind.markName : GroupKind → String
  | .nas => "is_active"
  | .user => "allow_any_nas"

/-- A group (`NasGroup` and `UserGroup`). -/
structure Group (kind : GroupKind) where
  id : Int64
  name : String
  description : String
  parentId : Option Int64
  mark : Bool
  /-- The depth in the hierarchy; listings fill it in. -/
  level : Option UInt32
  createdAt : Option String
  updatedAt : Option String
  deriving DecidableEq, Repr

/-- Where the hierarchy at hand tells no parent, a group keeps the one that it names. -/
instance (kind : GroupKind) : Entry (Group kind) where
  id g := g.id
  name g := g.name
  parentId g := g.parentId
  place level parent g := { g with level := some level, parentId := parent.or g.parentId }

/-- The line of a group in a listing, two spaces deeper for each level (`tree_lines`). -/
def Group.line {kind : GroupKind} (g : Group kind) : String :=
  String.ofList (List.replicate (2 * (g.level.getD 0).toNat) ' ') ++ g.name ++ " (#" ++
    Text.Decimal.text g.id.toInt ++ ")"

/-! ## Nested groups -/

/-- A group with the groups nested in it. -/
abbrev GroupTree (kind : GroupKind) := Hierarchy.Tree (Group kind)

namespace GroupTree

/-- The fields of a group, given how the groups nested in it stand in documents. A group without
nested groups leaves them out. -/
def fields (kind : GroupKind) (nested : Codec (List (GroupTree kind))) :=
  Fields.cons (.required "id" .int64) <|
  .cons (.required "name" .string) <|
  .cons (.defaulted "description" .string "") <|
  .cons (.optional "parent_id" .int64) <|
  .cons (.defaulted kind.markName .bool false) <|
  .cons ⟨"children", nested, some [], List.isEmpty⟩ <|
  .cons (.sparse "level" .uint32) <|
  .cons (.optional "created_at" .string) <|
  .cons (.optional "updated_at" .string) .nil

/-- How one level of groups stands in documents, given how the groups nested in it do. -/
def level {kind : GroupKind} (nested : Codec (List (GroupTree kind))) : Codec (GroupTree kind) :=
  .record (fields kind nested)
    (fun t => (t.label.id, t.label.name, t.label.description, t.label.parentId, t.label.mark,
      t.children, t.label.level, t.label.createdAt, t.label.updatedAt, ()))
    (fun (id, name, description, parentId, mark, children, level, createdAt, updatedAt, _) =>
      .node ⟨id, name, description, parentId, mark, level, createdAt, updatedAt⟩ children)

mutual

/-- The document of a group with the groups nested in it. -/
def write {kind : GroupKind} : GroupTree kind → Json
  | .node g children =>
    (level ⟨fun _ => .array (writeAll children), fun _ _ => none⟩).write (.node g children)

/-- The documents of groups. -/
def writeAll {kind : GroupKind} : List (GroupTree kind) → List Json
  | [] => []
  | t :: ts => write t :: writeAll ts

end

/-- The group that a document stands for. Each level of nesting opens an object and an array. -/
def read? {kind : GroupKind} : Nat → Json → Option (GroupTree kind)
  | 0, _ => none
  | 1, j => (level ⟨fun _ => .null, fun _ _ => none⟩).read? 1 j
  | depth + 2, j =>
    let nested : Json → Option (List (GroupTree kind))
      | .array items => items.mapM (read? depth)
      | _ => none
    (level ⟨fun _ => .null, fun _ => nested⟩).read? (depth + 2) j

/-- The document of a group with the groups nested in it. -/
def codec (kind : GroupKind) : Codec (GroupTree kind) := ⟨write, read?⟩

end GroupTree

/-- An operation whose answer is a forest of groups, which is turned into a listing
(`flattened_group_tree` and `flattened_tree`). -/
def Operation.flattened (endpoint : Endpoint) (kind : GroupKind) : Operation (List (Group kind)) :=
  ⟨endpoint, none,
    fun body => ((GroupTree.codec kind).list.decode? body).map Hierarchy.Tree.flatten,
    fun groups => .array (groups.map fun g => GroupTree.write (.node g []))⟩

/-- What is sent to create or change a group of devices. -/
structure NasGroupInput where
  name : Option String := none
  description : Option String := none
  parent : Option Int64 := none
  deriving DecidableEq, Repr

/-- The members of a payload: values that are not given are left out. -/
def NasGroupInput.document (p : NasGroupInput) : Json := .given
  [("name", p.name.map Json.text),
   ("description", p.description.map Json.text),
   ("parent", p.parent.map (Json.int ·.toInt))]

/-- What is sent to create or change a group of subscribers. -/
structure UserGroupInput where
  name : Option String := none
  description : Option String := none
  parent : Option Int64 := none
  allowAnyNas : Option Bool := none
  deriving DecidableEq, Repr

/-- The members of a payload: values that are not given are left out. -/
def UserGroupInput.document (p : UserGroupInput) : Json := .given
  [("name", p.name.map Json.text),
   ("description", p.description.map Json.text),
   ("parent", p.parent.map (Json.int ·.toInt)),
   ("allow_any_nas", p.allowAnyNas.map Json.bool)]

end AccessConsole
