import AccessConsole.Session.User
import AccessConsole.Store.Basic

/-!
# Sessions

A session is a pair of tokens and the user they belong to. What is held in memory counts; a store
follows it, so that a later process can take the session up again.

The names in parentheses are those that the program has for what is defined here.

* `Session`, `AuthStatus` — what is held, and what is told about it.
* `SessionContext` — the session of a process, with its store.
* `SessionContext.restore` — the session that a store holds.
* `Change` — the ways in which a session changes, each with the writes that follow it to the
  store: `Change.session`, `Change.status`, `Change.writes`.
* `SessionContext.apply` — a change made in memory first, then in the store.
-/

namespace AccessConsole

/-- Tokens, and the user they belong to (`Session`). -/
structure Session where
  access : Option String := none
  refresh : Option String := none
  user : Option CurrentUser := none
  deriving DecidableEq, Repr

/-- Nothing is held (`is_empty`). -/
def Session.isEmpty (s : Session) : Bool :=
  s.access.isNone && s.refresh.isNone && s.user.isNone

/-- What is told about a session (`AuthStatus`). -/
inductive AuthStatus
  | signedOut
  | authenticated
  /-- The session ended because it could not be refreshed: somebody has to sign in again. -/
  | reauthRequired
  deriving DecidableEq, Repr

/-- The name of a status. -/
def AuthStatus.name : AuthStatus → String
  | .signedOut => "SignedOut"
  | .authenticated => "Authenticated"
  | .reauthRequired => "ReauthRequired"

/-! ## Keys -/

/-- The key of the access token (`ACCESS_TOKEN_KEY`). -/
def accessKey : String := "jwt_token"

/-- The key of the refresh token (`REFRESH_TOKEN_KEY`). -/
def refreshKey : String := "refresh_token"

/-- The key of the document of the user (`CURRENT_USER_KEY`). -/
def userKey : String := "current_user"

/-! ## Changes -/

/-- A write to a store. -/
inductive Write
  | set (key value : String)
  | remove (key : String)
  deriving DecidableEq, Repr

/-- A change of a session (`establish`, `set_tokens`, `set_user`, `clear` and `expire`). -/
inductive Change
  /-- A sign-in: new tokens and a new user. -/
  | establish (access refresh : String) (user : CurrentUser)
  /-- A refresh: a new access token, and perhaps a new refresh token. -/
  | setTokens (access : String) (refresh : Option String)
  /-- More is known about the user. -/
  | setUser (user : CurrentUser)
  /-- A sign-out. -/
  | clear
  /-- The session can no longer be refreshed. -/
  | expire
  deriving DecidableEq, Repr

namespace Change

/-- The session after a change. -/
def session : Change → Session → Session
  | .establish access refresh user, _ => ⟨some access, some refresh, some user⟩
  | .setTokens access refresh, s =>
    { s with access := some access, refresh := refresh.or s.refresh }
  | .setUser user, s => { s with user := some user }
  | .clear, _ => {}
  | .expire, _ => {}

/-- The status that a change announces; a change of the user announces none. -/
def status? : Change → Option AuthStatus
  | .establish .. => some .authenticated
  | .setTokens .. => some .authenticated
  | .setUser _ => none
  | .clear => some .signedOut
  | .expire => some .reauthRequired

/-- The writes that follow a change to the store, in order. -/
def writes : Change → List Write
  | .establish access refresh user =>
    [.set accessKey access, .set refreshKey refresh, .set userKey (CurrentUser.codec.encode user)]
  | .setTokens access refresh =>
    .set accessKey access :: (refresh.map (Write.set refreshKey)).toList
  | .setUser user => [.set userKey (CurrentUser.codec.encode user)]
  | .clear => [.remove accessKey, .remove refreshKey, .remove userKey]
  | .expire => [.remove accessKey, .remove refreshKey, .remove userKey]

/-- A change that ends the session always succeeds: failures of its writes are passed over, and the
writes after them are made (`teardown`). All other changes stop at the first failure. -/
def ends : Change → Bool
  | .clear => true
  | .expire => true
  | _ => false

end Change

section

variable {σ : Type} [KeyStore σ]

/-- One write made to a store. -/
def Write.run (w : Write) (store : σ) : Except StoreError Unit × σ :=
  match w with
  | .set key value => KeyStore.set store key value
  | .remove key => KeyStore.remove store key

/-- Writes made in order up to the first failure. -/
def runUntilFailure : List Write → σ → Except StoreError Unit × σ
  | [], store => (.ok (), store)
  | w :: ws, store =>
    match w.run store with
    | (.ok _, store) => runUntilFailure ws store
    | (.error e, store) => (.error e, store)

/-- Writes made in order, whether they fail or not. -/
def runAll (ws : List Write) (store : σ) : σ := ws.foldl (fun store w => (w.run store).2) store

/-! ## Contexts -/

/-- The session of a process with its store (`SessionContext`). `announcements` counts how often a
status has been announced. -/
structure SessionContext (σ : Type) where
  store : σ
  session : Session
  status : AuthStatus
  announcements : Nat := 0

namespace SessionContext

omit [KeyStore σ] in
/-- There is an access token (`is_authenticated`). -/
def isAuthenticated (c : SessionContext σ) : Bool := c.session.access.isSome

/-- The session that a store holds (`restore`). A user that cannot be read is taken as unknown. -/
def restore (store : σ) : Except StoreError (SessionContext σ) := do
  let access ← KeyStore.get store accessKey
  let refresh ← KeyStore.get store refreshKey
  let user ← KeyStore.get store userKey
  return {
    store
    session := ⟨access, refresh, user.bind CurrentUser.codec.decode?⟩
    status := if access.isSome then .authenticated else .signedOut }

omit [KeyStore σ] in
/-- A change made in memory. -/
def remember (c : SessionContext σ) (change : Change) : SessionContext σ :=
  { c with
    session := change.session c.session
    status := change.status?.getD c.status
    announcements := c.announcements + if change.status?.isSome then 1 else 0 }

/-- A change made in memory first, then in the store. -/
def apply (c : SessionContext σ) (change : Change) : Except StoreError Unit × SessionContext σ :=
  let c := c.remember change
  if change.ends then (.ok (), { c with store := runAll change.writes c.store })
  else
    let (result, store) := runUntilFailure change.writes c.store
    (result, { c with store })

/-- The context after a change, whether or not the store took it. -/
def after (c : SessionContext σ) (change : Change) : SessionContext σ := (c.apply change).2

end SessionContext

end

end AccessConsole
