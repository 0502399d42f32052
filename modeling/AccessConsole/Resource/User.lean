import AccessConsole.Resource.AttributeGroup
import AccessConsole.Resource.Group

/-!
# Subscribers

People who are let in, and what they identify themselves with.

* `IdentifierType`, `UserIdentifier` — a kind of identifier and an identifier.
* `User` — a subscriber.
* `UserInput` — what is sent to create or change one.
* `User.list` and so on — what can be done with subscribers (`UserService`), with the kinds of
  identifiers (`UserIdentifierTypeService`) and with groups (`UserGroupService`).
-/

namespace AccessConsole

/-- A kind of identifier. -/
structure IdentifierType where
  id : Int64
  name : String
  /-- `PWD`, `SIM` or `MAC`. -/
  code : String
  description : String
  createdAt : Option String
  updatedAt : Option String
  deriving DecidableEq, Repr

/-- The document of an identifier type. -/
def IdentifierType.codec : Codec IdentifierType := .record
  (.cons (.required "id" .int64) <|
   .cons (.required "name" .string) <|
   .cons (.defaulted "code" .string "") <|
   .cons (.defaulted "description" .string "") <|
   .cons (.optional "created_at" .string) <|
   .cons (.optional "updated_at" .string) .nil)
  (fun x => (x.id, x.name, x.code, x.description, x.createdAt, x.updatedAt, ()))
  (fun (id, name, code, description, createdAt, updatedAt, _) =>
    ⟨id, name, code, description, createdAt, updatedAt⟩)

/-- What a subscriber identifies themselves with. -/
structure UserIdentifier where
  id : Int64
  identifierType : IdentifierType
  value : String
  isEnabled : Bool
  comment : String
  authAttributeGroup : Option AttributeGroup
  expirationDate : Option String
  rejectExpired : Bool
  expiredAuthAttributeGroup : Option AttributeGroup
  isExpired : Bool
  deriving DecidableEq, Repr

/-- The document of an identifier. -/
def UserIdentifier.codec : Codec UserIdentifier := .record
  (.cons (.required "id" .int64) <|
   .cons (.required "identifier_type" IdentifierType.codec) <|
   .cons (.required "value" .string) <|
   .cons (.defaulted "is_enabled" .bool false) <|
   .cons (.defaulted "comment" .string "") <|
   .cons (.optional "auth_attribute_group" AttributeGroup.codec) <|
   .cons (.optional "expiration_date" .string) <|
   .cons (.defaulted "reject_expired" .bool false) <|
   .cons (.optional "expired_auth_attribute_group" AttributeGroup.codec) <|
   .cons (.defaulted "is_expired" .bool false) .nil)
  (fun x => (x.id, x.identifierType, x.value, x.isEnabled, x.comment, x.authAttributeGroup,
    x.expirationDate, x.rejectExpired, x.expiredAuthAttributeGroup, x.isExpired, ()))
  (fun (id, identifierType, value, isEnabled, comment, authAttributeGroup, expirationDate,
    rejectExpired, expiredAuthAttributeGroup, isExpired, _) =>
    ⟨id, identifierType, value, isEnabled, comment, authAttributeGroup, expirationDate,
     rejectExpired, expiredAuthAttributeGroup, isExpired⟩)

/-- A subscriber. -/
structure User where
  id : Int64
  email : String
  firstName : String
  lastName : String
  fullName : String
  phoneNumber : String
  isActive : Bool
  groups : List (GroupTree .user)
  identifiers : List UserIdentifier
  lastLogin : Option String
  createdAt : Option String
  updatedAt : Option String
  deriving BEq, Repr

/-- The document of a subscriber. -/
def User.codec : Codec User := .record
  (.cons (.required "id" .int64) <|
   .cons (.required "email" .string) <|
   .cons (.defaulted "first_name" .string "") <|
   .cons (.defaulted "last_name" .string "") <|
   .cons (.defaulted "full_name" .string "") <|
   .cons (.defaulted "phone_number" .string "") <|
   .cons (.defaulted "is_active" .bool false) <|
   .cons (.defaulted "groups" (.list (GroupTree.codec .user)) []) <|
   .cons (.defaulted "identifiers" (.list UserIdentifier.codec) []) <|
   .cons (.optional "last_login" .string) <|
   .cons (.optional "created_at" .string) <|
   .cons (.optional "updated_at" .string) .nil)
  (fun x => (x.id, x.email, x.firstName, x.lastName, x.fullName, x.phoneNumber, x.isActive,
    x.groups, x.identifiers, x.lastLogin, x.createdAt, x.updatedAt, ()))
  (fun (id, email, firstName, lastName, fullName, phoneNumber, isActive, groups, identifiers,
    lastLogin, createdAt, updatedAt, _) =>
    ⟨id, email, firstName, lastName, fullName, phoneNumber, isActive, groups, identifiers,
     lastLogin, createdAt, updatedAt⟩)

/-- What is sent to create or change a subscriber. -/
structure UserInput where
  email : Option String := none
  firstName : Option String := none
  lastName : Option String := none
  phoneNumber : Option String := none
  isActive : Option Bool := none
  groupIds : Option (List Int64) := none
  deriving DecidableEq, Repr

/-- The members of a payload: values that are not given are left out. -/
def UserInput.document (p : UserInput) : Json := .given
  [("email", p.email.map Json.text),
   ("first_name", p.firstName.map Json.text),
   ("last_name", p.lastName.map Json.text),
   ("phone_number", p.phoneNumber.map Json.text),
   ("is_active", p.isActive.map Json.bool),
   ("group_ids", p.groupIds.map Codec.int64.list.write)]

/-! ## Operations -/

/-- One page of subscribers. -/
def User.list (page : PageParams) : Operation (Page User) :=
  .fetch (.user (.list page)) (Page.codec codec)

/-- The subscriber with an id. -/
def User.get (id : Int64) : Operation User := .fetch (.user (.get id)) codec

/-- A new subscriber. -/
def User.create (input : UserInput) : Operation User := .fetch (.user .create) codec input.document

/-- Values of the subscriber are changed. -/
def User.update (id : Int64) (input : UserInput) : Operation User :=
  .fetch (.user (.update id)) codec input.document

/-- The subscriber is deleted. -/
def User.delete (id : Int64) : Operation Unit := .execute (.user (.delete id))

/-- All kinds of identifiers, not in pages. -/
def IdentifierType.listAll : Operation (List IdentifierType) :=
  .fetch (.reference .identifierTypes) codec.list

/-! ## Operations on groups -/

/-- One page of groups. -/
def UserGroup.list (page : PageParams) : Operation (Page (GroupTree .user)) :=
  .fetch (.userGroup (.list page)) (Page.codec (GroupTree.codec .user))

/-- All groups, not in pages. -/
def UserGroup.listAll : Operation (List (GroupTree .user)) :=
  .fetch (.userGroup .listAll) (GroupTree.codec .user).list

/-- The group with an id. -/
def UserGroup.get (id : Int64) : Operation (GroupTree .user) :=
  .fetch (.userGroup (.get id)) (GroupTree.codec .user)

/-- A new group. -/
def UserGroup.create (input : UserGroupInput) : Operation (GroupTree .user) :=
  .fetch (.userGroup .create) (GroupTree.codec .user) input.document

/-- Values of the group are changed. -/
def UserGroup.update (id : Int64) (input : UserGroupInput) : Operation (GroupTree .user) :=
  .fetch (.userGroup (.update id)) (GroupTree.codec .user) input.document

/-- The group is deleted. -/
def UserGroup.delete (id : Int64) : Operation Unit := .execute (.userGroup (.delete id))

/-- The groups, nested. -/
def UserGroup.tree : Operation (List (GroupTree .user)) :=
  .fetch (.userGroup .tree) (GroupTree.codec .user).list

/-- The groups in a listing. -/
def UserGroup.flattenedTree : Operation (List (Group .user)) := .flattened (.userGroup .tree) .user

end AccessConsole
