import AccessConsole.Json.Codec

/-!
# Who is signed in

* `CurrentUser` — what is kept of the signed-in administrator, and its document.
* `CurrentUser.displayName` — the name to greet them with.
-/

namespace AccessConsole

/-- The signed-in administrator (`CurrentUser`). -/
structure CurrentUser where
  /-- The id that the server knows them by; zero until it has been looked up. -/
  id : Int64 := 0
  email : String
  username : Option String := none
  firstName : Option String := none
  lastName : Option String := none
  deriving DecidableEq, Repr

namespace CurrentUser

/-- The document of a user. Names that are not known are left out. -/
def codec : Codec CurrentUser := .record
  (.cons (.defaulted "id" .int64 0) <|
   .cons (.required "email" .string) <|
   .cons (.sparse "username" .string) <|
   .cons (.sparse "first_name" .string) <|
   .cons (.sparse "last_name" .string) .nil)
  (fun u => (u.id, u.email, u.username, u.firstName, u.lastName, ()))
  (fun (id, email, username, firstName, lastName, _) =>
    ⟨id, email, username, firstName, lastName⟩)

/-- A user of whom nothing but the email is known (`from_email`). -/
def ofEmail (email : String) : CurrentUser := { email }

/-- First and last name as far as they are known and not empty, otherwise the email
(`display_name`). -/
def displayName (u : CurrentUser) : String :=
  let names := ([u.firstName, u.lastName].filterMap fun n => n).filter (· ≠ "")
  if names.isEmpty then u.email else " ".intercalate names

end CurrentUser

end AccessConsole
