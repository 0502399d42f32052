import AccessConsole.Resource.Nas

/-!
# Authorizations of identifiers

An identifier is authorized on a device together with the attributes that the server returns there.

* `NasAuthorization` — an authorization.
* `NasAuthorizationCreate`, `NasAuthorizationUpdate` — what is sent to create or change one.
* `Authorization.list` and so on — what can be done with them (`IdentifierNasAuthService`).
-/

namespace AccessConsole

/-- An authorization of an identifier on a device. -/
structure NasAuthorization where
  id : Int64
  nasDevice : Int64
  nasDeviceName : String
  attributeGroup : Option Int64
  attributeGroupName : Option String
  createdAt : Option String
  updatedAt : Option String
  deriving DecidableEq, Repr

/-- The document of an authorization. -/
def NasAuthorization.codec : Codec NasAuthorization := .record
  (.cons (.required "id" .int64) <|
   .cons (.required "nas_device" .int64) <|
   .cons (.defaulted "nas_device_name" .string "") <|
   .cons (.optional "attribute_group" .int64) <|
   .cons (.optional "attribute_group_name" .string) <|
   .cons (.optional "created_at" .string) <|
   .cons (.optional "updated_at" .string) .nil)
  (fun x => (x.id, x.nasDevice, x.nasDeviceName, x.attributeGroup, x.attributeGroupName,
    x.createdAt, x.updatedAt, ()))
  (fun (id, nasDevice, nasDeviceName, attributeGroup, attributeGroupName, createdAt, updatedAt,
    _) =>
    ⟨id, nasDevice, nasDeviceName, attributeGroup, attributeGroupName, createdAt, updatedAt⟩)

/-- What is sent to authorize an identifier on a device. -/
structure NasAuthorizationCreate where
  nasDevice : Int64
  attributeGroup : Int64
  deriving DecidableEq, Repr

/-- The members of a payload: all values are given. -/
def NasAuthorizationCreate.document (p : NasAuthorizationCreate) : Json := .given
  [("nas_device", some (Json.int p.nasDevice.toInt)),
   ("attribute_group", some (Json.int p.attributeGroup.toInt))]

/-- What is sent to change the attributes of an authorization. -/
structure NasAuthorizationUpdate where
  attributeGroup : Int64
  deriving DecidableEq, Repr

/-- The members of a payload: all values are given. -/
def NasAuthorizationUpdate.document (p : NasAuthorizationUpdate) : Json := .given
  [("attribute_group", some (Json.int p.attributeGroup.toInt))]

/-! ## Operations -/

/-- The authorizations of an identifier. -/
def Authorization.list (user identifier : Int64) : Operation (List NasAuthorization) :=
  .fetch (.authorization (.list user identifier)) NasAuthorization.codec.list

/-- The devices on which an identifier has no authorization. -/
def Authorization.availableNas (user identifier : Int64) : Operation (List Nas) :=
  .fetch (.authorization (.availableNas user identifier)) Nas.codec.list

/-- A new authorization of an identifier. -/
def Authorization.create (user identifier : Int64) (input : NasAuthorizationCreate) :
    Operation NasAuthorization :=
  .fetch (.authorization (.create user identifier)) NasAuthorization.codec input.document

/-- The attributes of an authorization are changed. -/
def Authorization.update (user identifier id : Int64) (input : NasAuthorizationUpdate) :
    Operation NasAuthorization :=
  .fetch (.authorization (.update user identifier id)) NasAuthorization.codec input.document

/-- The authorization is deleted. -/
def Authorization.delete (user identifier id : Int64) : Operation Unit :=
  .execute (.authorization (.delete user identifier id))

end AccessConsole
