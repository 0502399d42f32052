import AccessConsole.Resource.Operation

/-!
# Attributes

What the server returns to a device that lets somebody in: attributes of a vendor, each with a
typed value.

* `AttributeType` — the types of values.
* `RadiusAttribute` — an attribute in its group.
* `RadiusAttributeCreate`, `RadiusAttributeUpdate` — what is sent to create or change one.
* `Attribute.list` and so on — what can be done with attributes (`RadiusAttributeService`).
-/

namespace AccessConsole

/-- The type of an attribute value. -/
inductive AttributeType
  | string
  | integer
  | ipaddr
  | date
  | octets
  deriving DecidableEq, Repr

namespace AttributeType

/-- The name of a type. -/
def name : AttributeType → String
  | .string => "string"
  | .integer => "integer"
  | .ipaddr => "ipaddr"
  | .date => "date"
  | .octets => "octets"

/-- The type with a name. -/
def ofName? (s : String) : Option AttributeType :=
  [.string, .integer, .ipaddr, .date, .octets].find? (·.name = s)

/-- A type stands as its name. It is also read from an object whose one member has that name and
is null. -/
def codec : Codec AttributeType where
  write t := Json.text t.name
  read?
    | _, .string s => s.bind ofName?
    | _ + 1, .object [(name, .null)] => name.bind ofName?
    | _, _ => none

end AttributeType

/-- An attribute in its group. -/
structure RadiusAttribute where
  id : Int64
  /-- The id of the group that holds it. -/
  group : Int64
  vendorId : Int64
  attributeId : Int64
  attributeName : String
  attributeType : AttributeType
  attributeValue : String
  createdAt : Option String
  updatedAt : Option String
  deriving DecidableEq, Repr

/-- The document of an attribute. -/
def RadiusAttribute.codec : Codec RadiusAttribute := .record
  (.cons (.required "id" .int64) <|
   .cons (.required "group" .int64) <|
   .cons (.required "vendor_id" .int64) <|
   .cons (.required "attribute_id" .int64) <|
   .cons (.required "attribute_name" .string) <|
   .cons (.required "attribute_type" AttributeType.codec) <|
   .cons (.required "attribute_value" .string) <|
   .cons (.optional "created_at" .string) <|
   .cons (.optional "updated_at" .string) .nil)
  (fun x => (x.id, x.group, x.vendorId, x.attributeId, x.attributeName, x.attributeType,
    x.attributeValue, x.createdAt, x.updatedAt, ()))
  (fun (id, group, vendorId, attributeId, attributeName, attributeType, attributeValue, createdAt,
    updatedAt, _) =>
    ⟨id, group, vendorId, attributeId, attributeName, attributeType, attributeValue, createdAt,
     updatedAt⟩)

/-- What is sent to create an attribute. -/
structure RadiusAttributeCreate where
  group : Int64
  vendorId : Int64
  attributeId : Int64
  attributeName : String
  attributeType : AttributeType
  attributeValue : String
  deriving DecidableEq, Repr

/-- The members of a payload: all values are given. -/
def RadiusAttributeCreate.document (p : RadiusAttributeCreate) : Json := .given
  [("group", some (Json.int p.group.toInt)),
   ("vendor_id", some (Json.int p.vendorId.toInt)),
   ("attribute_id", some (Json.int p.attributeId.toInt)),
   ("attribute_name", some (Json.text p.attributeName)),
   ("attribute_type", some (AttributeType.codec.write p.attributeType)),
   ("attribute_value", some (Json.text p.attributeValue))]

/-- What is sent to change an attribute. -/
structure RadiusAttributeUpdate where
  vendorId : Option Int64 := none
  attributeId : Option Int64 := none
  attributeName : Option String := none
  attributeType : Option AttributeType := none
  attributeValue : Option String := none
  deriving DecidableEq, Repr

/-- The members of a payload: values that are not given are left out. -/
def RadiusAttributeUpdate.document (p : RadiusAttributeUpdate) : Json := .given
  [("vendor_id", p.vendorId.map (Json.int ·.toInt)),
   ("attribute_id", p.attributeId.map (Json.int ·.toInt)),
   ("attribute_name", p.attributeName.map Json.text),
   ("attribute_type", p.attributeType.map AttributeType.codec.write),
   ("attribute_value", p.attributeValue.map Json.text)]

/-! ## Operations -/

/-- One page of the attributes of a group. -/
def Attribute.list (group : Int64) (page : PageParams) : Operation (Page RadiusAttribute) :=
  .fetch (.attribute (.list group page)) (Page.codec RadiusAttribute.codec)

/-- All attributes of a group. -/
def Attribute.byGroup (group : Int64) : Operation (List RadiusAttribute) :=
  .fetch (.attribute (.byGroup group)) RadiusAttribute.codec.list

/-- The attribute with an id. -/
def Attribute.get (id : Int64) : Operation RadiusAttribute :=
  .fetch (.attribute (.get id)) RadiusAttribute.codec

/-- A new attribute. -/
def Attribute.create (input : RadiusAttributeCreate) : Operation RadiusAttribute :=
  .fetch (.attribute .create) RadiusAttribute.codec input.document

/-- Values of the attribute are changed. -/
def Attribute.update (id : Int64) (input : RadiusAttributeUpdate) : Operation RadiusAttribute :=
  .fetch (.attribute (.update id)) RadiusAttribute.codec input.document

/-- The attribute is deleted. -/
def Attribute.delete (id : Int64) : Operation Unit := .execute (.attribute (.delete id))

end AccessConsole
