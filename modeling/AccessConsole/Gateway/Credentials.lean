import AccessConsole.Gateway.Config
import AccessConsole.Gateway.Error
import AccessConsole.Session.User

/-!
# Documents of the sign-in endpoints

* `TokenPair`, `RefreshedTokens` — what signing in and refreshing answer.
* `Profile` — what looking up the signed-in administrator answers.
* `rejectionDetail?` — why a sign-in was turned down.
* `loginRequest`, `refreshRequest`, `profileRequest?` — the calls that ask for them.
-/

namespace AccessConsole

/-- The tokens of a new session (`TokenPair`). -/
structure TokenPair where
  access : String
  refresh : String
  deriving DecidableEq, Repr

/-- The document of a token pair. -/
def TokenPair.codec : Codec TokenPair := .record
  (.cons (.required "access" .string) <| .cons (.required "refresh" .string) .nil)
  (fun t => (t.access, t.refresh, ()))
  (fun (access, refresh, _) => ⟨access, refresh⟩)

/-- A new access token, and a new refresh token where the server changes it (the answer read by
`refresh_access_token`). -/
structure RefreshedTokens where
  access : String
  refresh : Option String
  deriving DecidableEq, Repr

/-- The document of refreshed tokens. -/
def RefreshedTokens.codec : Codec RefreshedTokens := .record
  (.cons (.required "access" .string) <| .cons (.optional "refresh" .string) .nil)
  (fun t => (t.access, t.refresh, ()))
  (fun (access, refresh, _) => ⟨access, refresh⟩)

/-- What the server knows of the signed-in administrator (`Profile`). -/
structure Profile where
  id : Int64
  email : Option String
  username : Option String
  firstName : Option String
  lastName : Option String
  deriving DecidableEq, Repr

namespace Profile

/-- The document of a profile. -/
def codec : Codec Profile := .record
  (.cons (.defaulted "id" .int64 0) <|
   .cons (.optional "email" .string) <|
   .cons (.optional "username" .string) <|
   .cons (.optional "first_name" .string) <|
   .cons (.optional "last_name" .string) .nil)
  (fun p => (p.id, p.email, p.username, p.firstName, p.lastName, ()))
  (fun (id, email, username, firstName, lastName, _) =>
    ⟨id, email, username, firstName, lastName⟩)

/-- The user of a profile (`into_user`). Without an email it is the one that was signed in with. -/
def user (p : Profile) (loginEmail : String) : CurrentUser :=
  ⟨p.id, p.email.getD loginEmail, p.username, p.firstName, p.lastName⟩

end Profile

/-- The document of a rejection: its wording under `detail` (`Rejection`). -/
def rejectionCodec : Codec String := .record
  (.cons (.required "detail" .string) .nil) (fun s => (s, ())) (fun (s, _) => s)

/-- The wording of a rejection, if its body is one (`rejection_reason`). -/
def rejectionDetail? (body : String) : Option String := rejectionCodec.decode? body

/-- The call that signs in (the request of `login`). It carries no credentials but its body. -/
def loginRequest (c : Config) (email password : String) : Request :=
  (Request.new .post c.loginUrl).withJson
    (.record [("email", Json.text email), ("password", Json.text password)])

/-- The call that gets a new access token (the request of `refresh_access_token`). It carries no
credentials but its body. -/
def refreshRequest (c : Config) (refresh : String) : Request :=
  (Request.new .post c.refreshUrl).withJson (.record [("refresh", Json.text refresh)])

/-- The call that looks up the signed-in administrator, if there is to be one (the request of
`load_profile`). -/
def profileRequest? (c : Config) : Option Request := c.profileUrl?.map (Request.new .get)

end AccessConsole
