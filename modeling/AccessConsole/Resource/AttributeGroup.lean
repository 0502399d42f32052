import AccessConsole.Resource.Operation

/-!
# Attribute groups

Named sets of attributes that the server returns.

* `AttributeGroup` — a set.
* `AttributeGroupInput` — what is sent to create or change one.
* `AttributeGroup.list` and so on — what can be done with them (`AttributeGroupService`).
-/

namespace AccessConsole

/-- A named set of attributes that the server returns. -/
structure AttributeGroup where
  id : Int64
  name : String
  description : Option String
  /-- Built-in groups cannot be changed or deleted. -/
  isSystem : Bool
  createdAt : Option String
  updatedAt : Option String
  deriving DecidableEq, Repr

/-- The document of an attribute group. -/
def AttributeGroup.codec : Codec AttributeGroup := .record
  (.cons (.required "id" .int64) <|
   .cons (.required "name" .string) <|
   .cons (.optional "description" .string) <|
   .cons (.defaulted "is_system" .bool false) <|
   .cons (.optional "created_at" .string) <|
   .cons (.optional "updated_at" .string) .nil)
  (fun x => (x.id, x.name, x.description, x.isSystem, x.createdAt, x.updatedAt, ()))
  (fun (id, name, description, isSystem, createdAt, updatedAt, _) =>
    ⟨id, name, description, isSystem, createdAt, updatedAt⟩)

/-- What is sent to create or change an attribute group. -/
structure AttributeGroupInput where
  name : Option String := none
  description : Option String := none
  deriving DecidableEq, Repr

/-- The members of a payload: values that are not given are left out. -/
def AttributeGroupInput.document (p : AttributeGroupInput) : Json := .given
  [("name", p.name.map Json.text),
   ("description", p.description.map Json.text)]

/-! ## Operations -/

/-- One page of groups. -/
def AttributeGroup.list (page : PageParams) : Operation (Page AttributeGroup) :=
  .fetch (.attributeGroup (.list page)) (Page.codec codec)

/-- The group with an id. -/
def AttributeGroup.get (id : Int64) : Operation AttributeGroup :=
  .fetch (.attributeGroup (.get id)) codec

/-- A new group. -/
def AttributeGroup.create (input : AttributeGroupInput) : Operation AttributeGroup :=
  .fetch (.attributeGroup .create) codec input.document

/-- Values of the group are changed. -/
def AttributeGroup.update (id : Int64) (input : AttributeGroupInput) : Operation AttributeGroup :=
  .fetch (.attributeGroup (.update id)) codec input.document

/-- The group is deleted. -/
def AttributeGroup.delete (id : Int64) : Operation Unit := .execute (.attributeGroup (.delete id))

end AccessConsole
