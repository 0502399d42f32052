import AccessConsole.Resource.Operation

/-!
# Administrators

People who may use the console, and their groups.

* `AdminUser`, `AdminGroup` — an administrator and a group of them.
* `AdminUserInput`, `AdminGroupInput` — what is sent to create or change one.
* `PasswordChange`, `Membership` — a new password, and a place in a group.
* `Admin.list` and so on — what can be done with administrators and groups (`AdminService`).
-/

namespace AccessConsole

/-- A group of administrators. -/
structure AdminGroup where
  id : Int64
  name : String
  description : Option String
  createdAt : Option String
  updatedAt : Option String
  deriving DecidableEq, Repr

/-- The document of an administrator group. -/
def AdminGroup.codec : Codec AdminGroup := .record
  (.cons (.required "id" .int64) <|
   .cons (.required "name" .string) <|
   .cons (.optional "description" .string) <|
   .cons (.optional "created_at" .string) <|
   .cons (.optional "updated_at" .string) .nil)
  (fun x => (x.id, x.name, x.description, x.createdAt, x.updatedAt, ()))
  (fun (id, name, description, createdAt, updatedAt, _) =>
    ⟨id, name, description, createdAt, updatedAt⟩)

/-- An administrator. -/
structure AdminUser where
  id : Int64
  email : String
  firstName : String
  lastName : String
  position : Option String
  phoneNumber : Option String
  isActive : Bool
  isStaff : Bool
  isSuperuser : Bool
  groups : List AdminGroup
  createdAt : Option String
  updatedAt : Option String
  deriving BEq, Repr

/-- The document of an administrator. -/
def AdminUser.codec : Codec AdminUser := .record
  (.cons (.required "id" .int64) <|
   .cons (.required "email" .string) <|
   .cons (.defaulted "first_name" .string "") <|
   .cons (.defaulted "last_name" .string "") <|
   .cons (.optional "position" .string) <|
   .cons (.optional "phone_number" .string) <|
   .cons (.defaulted "is_active" .bool false) <|
   .cons (.defaulted "is_staff" .bool false) <|
   .cons (.defaulted "is_superuser" .bool false) <|
   .cons (.defaulted "groups" (.list AdminGroup.codec) []) <|
   .cons (.optional "created_at" .string) <|
   .cons (.optional "updated_at" .string) .nil)
  (fun x => (x.id, x.email, x.firstName, x.lastName, x.position, x.phoneNumber, x.isActive,
    x.isStaff, x.isSuperuser, x.groups, x.createdAt, x.updatedAt, ()))
  (fun (id, email, firstName, lastName, position, phoneNumber, isActive, isStaff, isSuperuser,
    groups, createdAt, updatedAt, _) =>
    ⟨id, email, firstName, lastName, position, phoneNumber, isActive, isStaff, isSuperuser,
     groups, createdAt, updatedAt⟩)

/-- What is sent to create or change an administrator. A new one needs a password. -/
structure AdminUserInput where
  username : Option String := none
  email : Option String := none
  firstName : Option String := none
  lastName : Option String := none
  phoneNumber : Option String := none
  position : Option String := none
  isActive : Option Bool := none
  isStaff : Option Bool := none
  isSuperuser : Option Bool := none
  password : Option String := none
  deriving DecidableEq, Repr

/-- The members of a payload: values that are not given are left out. -/
def AdminUserInput.document (p : AdminUserInput) : Json := .given
  [("username", p.username.map Json.text),
   ("email", p.email.map Json.text),
   ("first_name", p.firstName.map Json.text),
   ("last_name", p.lastName.map Json.text),
   ("phone_number", p.phoneNumber.map Json.text),
   ("position", p.position.map Json.text),
   ("is_active", p.isActive.map Json.bool),
   ("is_staff", p.isStaff.map Json.bool),
   ("is_superuser", p.isSuperuser.map Json.bool),
   ("password", p.password.map Json.text)]

/-- What is sent to create or change a group of administrators. -/
structure AdminGroupInput where
  name : Option String := none
  description : Option String := none
  deriving DecidableEq, Repr

/-- The members of a payload: values that are not given are left out. -/
def AdminGroupInput.document (p : AdminGroupInput) : Json := .given
  [("name", p.name.map Json.text),
   ("description", p.description.map Json.text)]

/-- What is sent to change the password of the signed-in administrator. -/
structure PasswordChange where
  oldPassword : String
  newPassword : String
  deriving DecidableEq, Repr

/-- The members of a payload: all values are given. -/
def PasswordChange.document (p : PasswordChange) : Json := .given
  [("old_password", some (Json.text p.oldPassword)),
   ("new_password", some (Json.text p.newPassword))]

/-- What is sent to put an administrator into a group. -/
structure Membership where
  userId : Int64
  deriving DecidableEq, Repr

/-- The members of a payload: all values are given. -/
def Membership.document (p : Membership) : Json := .given
  [("user_id", some (Json.int p.userId.toInt))]

/-! ## Operations -/

/-- One page of administrators. -/
def Admin.list (page : PageParams) : Operation (Page AdminUser) :=
  .fetch (.admin (.list page)) (Page.codec AdminUser.codec)

/-- The administrator with an id. -/
def Admin.get (id : Int64) : Operation AdminUser := .fetch (.admin (.get id)) AdminUser.codec

/-- A new administrator, who needs a password. -/
def Admin.create (input : AdminUserInput) : Except InvalidInput (Operation AdminUser) :=
  if input.password.getD "" = "" then .error .newAdminWithoutPassword
  else .ok (.fetch (.admin .create) AdminUser.codec input.document)

/-- Values of the administrator are changed. -/
def Admin.update (id : Int64) (input : AdminUserInput) : Operation AdminUser :=
  .fetch (.admin (.update id)) AdminUser.codec input.document

/-- The administrator is deleted. -/
def Admin.delete (id : Int64) : Operation Unit := .execute (.admin (.delete id))

/-- The administrator may sign in from now on. -/
def Admin.activate (id : Int64) : Operation AdminUser :=
  .fetch (.admin (.activate id)) AdminUser.codec Operation.emptyBody

/-- The administrator may no longer sign in. -/
def Admin.deactivate (id : Int64) : Operation AdminUser :=
  .fetch (.admin (.deactivate id)) AdminUser.codec Operation.emptyBody

/-- The administrator is sent an invitation. -/
def Admin.sendInvitation (id : Int64) : Operation Unit :=
  .execute (.admin (.sendInvitation id)) Operation.emptyBody

/-- The administrator is sent a link to choose a new password. -/
def Admin.sendPasswordReset (id : Int64) : Operation Unit :=
  .execute (.admin (.sendPasswordReset id)) Operation.emptyBody

/-- The signed-in administrator. -/
def Admin.me : Operation AdminUser := .fetch (.admin .me) AdminUser.codec

/-- Values of the signed-in administrator are changed. -/
def Admin.updateMe (input : AdminUserInput) : Operation AdminUser :=
  .fetch (.admin .updateMe) AdminUser.codec input.document

/-- The signed-in administrator chooses a new password, which must not be empty. -/
def Admin.changePassword (old new : String) : Except InvalidInput (Operation Unit) :=
  if new = "" then .error .emptyNewPassword
  else .ok (.execute (.admin .changePassword) (PasswordChange.document ⟨old, new⟩))

/-- One page of groups. -/
def Admin.listGroups (page : PageParams) : Operation (Page AdminGroup) :=
  .fetch (.admin (.listGroups page)) (Page.codec AdminGroup.codec)

/-- The group with an id. -/
def Admin.getGroup (id : Int64) : Operation AdminGroup :=
  .fetch (.admin (.getGroup id)) AdminGroup.codec

/-- A new group. -/
def Admin.createGroup (input : AdminGroupInput) : Operation AdminGroup :=
  .fetch (.admin .createGroup) AdminGroup.codec input.document

/-- Values of the group are changed. -/
def Admin.updateGroup (id : Int64) (input : AdminGroupInput) : Operation AdminGroup :=
  .fetch (.admin (.updateGroup id)) AdminGroup.codec input.document

/-- The group is deleted. -/
def Admin.deleteGroup (id : Int64) : Operation Unit := .execute (.admin (.deleteGroup id))

/-- The administrators in a group. -/
def Admin.members (group : Int64) : Operation (List AdminUser) :=
  .fetch (.admin (.members group)) AdminUser.codec.list

/-- An administrator is put into a group. -/
def Admin.addMember (group user : Int64) : Operation Unit :=
  .execute (.admin (.addMember group)) (Membership.document ⟨user⟩)

/-- An administrator is taken out of a group. -/
def Admin.removeMember (group user : Int64) : Operation Unit :=
  .execute (.admin (.removeMember group user))

end AccessConsole
