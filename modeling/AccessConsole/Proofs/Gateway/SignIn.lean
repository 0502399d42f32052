import AccessConsole.Proofs.Gateway.Failure
import AccessConsole.Proofs.Gateway.Origin
import AccessConsole.Proofs.Gateway.SendContract
import AccessConsole.Proofs.Gateway.Settling
import AccessConsole.Proofs.Store.TextMap
import AccessConsole.Rehearsal.Script

/-!
# The contract of a sign-in

What a sign-in comes to, whatever is answered to its requests and whatever the store refuses, while
no other call is going on.

* `removedKeys`, `IsFallibleTextMap.removed` — the texts that are gone when a session ends over a
  store that may refuse.
* `SessionContext.SignedIn` — tokens and user are there, and this has been told.
* `lookupSession`, `refreshAt` — the session after a lookup, and the outcome of the refresh in it,
  both read off the answers.
* `settles_begin` — what the lookup of the administrator comes to.
* `SignInTraffic`, `SignInEnd` — what is sent for a sign-in, and how it ends.
* `SignInVerdict` — the result and the session that the answers give.
* `sign_in_keeps_contract` — every sign-in ends so after four requests at most.
-/

namespace AccessConsole

variable {σ : Type} [KeyStore σ]

/-! ## Stores that may refuse -/

/-- The keys whose removal succeeds, where they are removed one after the other. -/
def removedKeys : List String → σ → List String
  | [], _ => []
  | key :: keys, store =>
    match KeyStore.remove store key with
    | (.ok _, store) => key :: removedKeys keys store
    | (.error _, store) => removedKeys keys store

/-- The keys of a session. -/
def sessionKeys : List String := [accessKey, refreshKey, userKey]

namespace IsFallibleTextMap

variable {Shows : σ → TextMap → Prop}

theorem write (hmap : IsFallibleTextMap Shows) {store : σ} (h : ∃ map, Shows store map)
    (w : Write) :
    ∃ map, Shows (w.run store).2 map := by
  obtain ⟨map, h⟩ := h
  cases w with
  | set key value =>
    obtain ⟨text, hset, -⟩ := hmap.set h key value
    exact ⟨_, hset⟩
  | remove key =>
    obtain ⟨text, hremove, -⟩ := hmap.remove h key
    exact ⟨_, hremove⟩

theorem runUntilFailure (hmap : IsFallibleTextMap Shows) {store : σ} (h : ∃ map, Shows store map)
    (ws : List Write) : ∃ map, Shows (runUntilFailure ws store).2 map := by
  induction ws generalizing store with
  | nil => exact h
  | cons w ws ih =>
    have hw := hmap.write h w
    unfold AccessConsole.runUntilFailure
    rcases hr : w.run store with ⟨result, store'⟩
    rw [hr] at hw
    cases result with
    | error e => exact hw
    | ok _ => exact ih hw

/-- What is removed is gone, whatever is refused before and after. -/
theorem removed (hmap : IsFallibleTextMap Shows) {keys : List String} (hkeys : keys.Nodup)
    {store : σ} {map : TextMap} (h : Shows store map) :
    ∃ map', Shows (runAll (keys.map .remove) store) map' ∧ (∀ k ∉ keys, map' k = map k) ∧
      ∀ k ∈ removedKeys keys store, map' k = none := by
  induction keys generalizing store map with
  | nil => exact ⟨map, h, fun _ _ => rfl, by simp [removedKeys]⟩
  | cons key keys ih =>
    obtain ⟨hfresh, hrest⟩ := List.nodup_cons.1 hkeys
    obtain ⟨text, hremove, hok⟩ := hmap.remove h key
    obtain ⟨map', hshows, hkept, hgone⟩ := ih hrest hremove
    refine ⟨map', hshows, ?_, ?_⟩
    · intro k hk
      obtain ⟨hne, hnot⟩ := not_or.1 (mt List.mem_cons.2 hk)
      rw [hkept k hnot, Function.update_of_ne hne]
    · intro k hk
      unfold removedKeys at hk
      rcases hr : KeyStore.remove store key with ⟨result, store'⟩
      rw [hr] at hk hok hgone
      cases result with
      | error e => exact hgone k hk
      | ok _ =>
        obtain rfl | hin := List.mem_cons.1 hk
        · rw [hkept k hfresh, Function.update_self, hok rfl]
        · exact hgone k hin

end IsFallibleTextMap

/-- A store that refuses some operations shows its entries. -/
def Rehearsal.RefusingStore.Shows (store : RefusingStore) (map : TextMap) : Prop :=
  store.entries.get? = map

theorem Rehearsal.RefusingStore.isFallibleTextMap : IsFallibleTextMap RefusingStore.Shows where
  get {store map key text} h hok := by
    have hget : (if key ∈ store.get then .error (refusal "get" key)
        else .ok (store.entries.get? key)) = (.ok text : Except StoreError (Option String)) := hok
    split_ifs at hget
    cases hget
    exact congrFun h key
  set {store map} h key value := by
    by_cases hrefused : key ∈ store.set
    · have hset : KeyStore.set store key value = (.error (refusal "set" key), store) :=
        if_pos hrefused
      rw [hset]
      refine ⟨map key, ?_, fun hok => nomatch hok⟩
      rwa [Function.update_eq_self]
    · have hset : KeyStore.set store key value =
          (.ok (), { store with entries := store.entries.insert key value }) := if_neg hrefused
      rw [hset]
      exact ⟨some value, h ▸ store.entries.get?_insert key value, fun _ => rfl⟩
  remove {store map} h key := by
    by_cases hrefused : key ∈ store.remove
    · have hremove : KeyStore.remove store key = (.error (refusal "remove" key), store) :=
        if_pos hrefused
      rw [hremove]
      refine ⟨map key, ?_, fun hok => nomatch hok⟩
      rwa [Function.update_eq_self]
    · have hremove : KeyStore.remove store key =
          (.ok (), { store with entries := store.entries.erase key }) := if_neg hrefused
      rw [hremove]
      exact ⟨none, h ▸ store.entries.get?_erase key, fun _ => rfl⟩

/-! ## Contexts -/

namespace SessionContext

/-- Whatever map the store of the one context shows, that of the other still shows one. -/
def StillShows (origin context : SessionContext σ) : Prop :=
  ∀ Shows : σ → TextMap → Prop, IsFallibleTextMap Shows →
    (∃ map, Shows origin.store map) → ∃ map, Shows context.store map

theorem StillShows.after {origin context : SessionContext σ} (h : origin.StillShows context)
    {change : Change} (hends : change.ends = false) : origin.StillShows (context.after change) := by
  intro Shows hmap horigin
  have hstore : (context.after change).store =
      (runUntilFailure change.writes context.store).2 := by
    unfold SessionContext.after apply
    rw [hends]
    rfl
  rw [hstore]
  exact hmap.runUntilFailure (h Shows hmap horigin) _

/-- Tokens and user are there, and this has been told; the store may have refused what it liked
since the given context. -/
structure SignedIn (origin context : SessionContext σ) : Prop where
  access : context.session.access ≠ none
  refresh : context.session.refresh ≠ none
  user : context.session.user ≠ none
  status : context.status = .authenticated
  shows : origin.StillShows context

theorem signedIn_establish (context : SessionContext σ) (access refresh : String)
    (user : CurrentUser) : context.SignedIn (context.after (.establish access refresh user)) where
  access := by simp [after_session, Change.session]
  refresh := by simp [after_session, Change.session]
  user := by simp [after_session, Change.session]
  status := by simp [after_status, Change.status?]
  shows := StillShows.after (fun _ _ h => h) rfl

theorem SignedIn.setUser {origin context : SessionContext σ} (h : origin.SignedIn context)
    (user : CurrentUser) : origin.SignedIn (context.after (.setUser user)) where
  access := by simpa [after_session, Change.session] using h.access
  refresh := by simpa [after_session, Change.session] using h.refresh
  user := by simp [after_session, Change.session]
  status := by simpa [after_status, Change.status?] using h.status
  shows := h.shows.after rfl

theorem SignedIn.setTokens {origin context : SessionContext σ} (h : origin.SignedIn context)
    (access : String) (refresh : Option String) :
    origin.SignedIn (context.after (.setTokens access refresh)) where
  access := by simp [after_session, Change.session]
  refresh := by
    rw [after_session]
    cases refresh with
    | none => exact h.refresh
    | some r => simp [Change.session]
  user := by simpa [after_session, Change.session] using h.user
  status := by simp [after_status, Change.status?]
  shows := h.shows.after rfl

end SessionContext

namespace Gateway

/-! ## What the answers give -/

/-- A session once the lookup has its result: what was found replaces the user. -/
def identified (email : String) (s : Session) : CallResult → Session
  | .ok response =>
    match Profile.codec.decode? response.body with
    | some profile => { s with user := some (profile.user email) }
    | none => s
  | .error _ => s

/-- A session after the second request of a lookup, if that is sent. -/
def replaySession (email : String) (s : Session) : Exchanges → Session
  | [] => s
  | second :: _ => identified email s (finalResult second.2)

/-- A session after a lookup. It is the first answer that counts, or that to the refresh and then
that to the second request. -/
def lookupSession (email : String) (s : Session) : Exchanges → Session
  | [] => s
  | [first] => identified email s (finalResult first.2)
  | _ :: refresh :: rest => replaySession email ((refreshChange refresh.2).session s) rest

/-- The outcome of the refresh that is the exchange at an index. -/
def refreshAt (i : ℕ) (exchanges : Exchanges) : Option Outcome :=
  exchanges[i]?.map fun x => refreshOutcome x.2

/-! ## Looking up the administrator -/

/-- How the lookup of an administrator ends: they are signed in, or the refresh in it has just
failed. -/
inductive LookupEnd (origin before : SessionContext σ) (refresh : Option Outcome) :
    Except GatewayError Reply → SessionContext σ → Prop
  | signedIn {context : SessionContext σ} :
    (∀ reason, refresh ≠ some (.failed reason)) → origin.SignedIn context →
    LookupEnd origin before refresh (.ok (.session context.session)) context
  | expired {reason : AuthFailure} : refresh = some (.failed reason) → origin.StillShows before →
    LookupEnd origin before refresh (.error (.authenticationFailed reason)) (before.after .expire)

/-- The lookup has ended after exchanges that pass a test, and no call is going on any more. The
outcome of the refresh and the session that is left can be told from these exchanges. -/
structure LookedUp (origin : SessionContext σ) (config : Config) (test : Exchanges → Prop)
    (refresh : Exchanges → Option Outcome) (session : Exchanges → Session)
    (exchanges : Exchanges) (result : Except GatewayError Reply) (before : SessionContext σ)
    (g : Gateway σ) : Prop where
  traffic : test exchanges
  ends : LookupEnd origin before (refresh exchanges) result g.context
  leaves : g.context.session = session exchanges
  idle : g = start config g.context

section

variable {config : Config} {origin context before : SessionContext σ} {call held : Call}
  {email : String}

/-- A result that is no failure of the session leaves the administrator signed in. -/
theorem conclude_signedIn (h : origin.SignedIn context)
    (hid : held.id = call.id) (hp : call.purpose = .login email) {result : CallResult}
    (hr : ∀ reason, result ≠ .error (.authenticationFailed reason)) {refresh : Option Outcome}
    (hrefresh : ∀ reason, refresh ≠ some (.failed reason)) :
    Settles call.id
      (LookedUp origin config (· = []) (fun _ => refresh)
        fun _ => identified email context.session result) before
      ((single config context .idle held).conclude call result) := by
  have hfinish : ∀ {context : SessionContext σ} {s : Session}, origin.SignedIn context →
      context.session = s →
      Settles call.id (LookedUp origin config (· = []) (fun _ => refresh) fun _ => s) before
        ((single config context .idle held).finishLogin call.id) := by
    intro context s h hs
    have hauth : (single config context .idle held).context.isAuthenticated = true :=
      Option.isSome_iff_ne_none.2 h.access
    unfold finishLogin
    rw [if_pos hauth, single_finish hid]
    exact .ended ⟨rfl, .signedIn hrefresh h, hs, rfl⟩
  unfold conclude
  rw [hp]
  cases result with
  | error e =>
    cases e with
    | authenticationFailed reason => exact absurd rfl (hr reason)
    | _ => exact hfinish h rfl
  | ok response =>
    cases hd : Profile.codec.decode? response.body with
    | none =>
      simp only [hd, identified]
      exact hfinish h rfl
    | some profile =>
      simp only [hd, identified]
      exact hfinish (h.setUser _) (context.after_session _)

/-- The answer to a request is final. -/
theorem settles_final (config : Config) (h : origin.SignedIn context) (held : Call)
    (hp : held.purpose = .login email) (hs : held.stage = .bare ∨ held.stage = .second)
    (answer : Except String Response) {refresh : Option Outcome}
    (hrefresh : ∀ reason, refresh ≠ some (.failed reason)) :
    Settles held.id
      (LookedUp origin config (· = []) (fun _ => refresh)
        fun _ => identified email context.session (finalResult answer)) context
      ((single config context .idle held).step (.answer held.id answer)) := by
  have hstep : (single config context .idle held).step (.answer held.id answer) =
      (single config context .idle held).conclude held (finalResult answer) := by
    obtain hs | hs := hs <;> simp only [step, single_call?, answered, hs]
  rw [hstep]
  exact conclude_signedIn h rfl hp (finalResult_ne_failed answer) hrefresh

/-- At most one more request is sent, a copy of the given one. -/
def OnceMore (request : Request) (exchanges : Exchanges) : Prop :=
  exchanges = [] ∨ ∃ copy answer, copy.IsCopy request ∧ exchanges = [(copy, answer)]

theorem settles_replay (h : origin.SignedIn context)
    (hid : held.id = call.id) (hp : call.purpose = .login email) (token : String)
    {refresh : Option Outcome} (hrefresh : ∀ reason, refresh ≠ some (.failed reason)) :
    Settles call.id
      (LookedUp origin config (OnceMore call.request) (fun _ => refresh)
        (replaySession email context.session)) before
      ((single config context .idle held).replay call token) := by
  unfold replay
  cases hr : call.request.withBearer? token with
  | none =>
    refine (conclude_signedIn h hid hp (by simp) hrefresh).mono ?_
    rintro _ _ _ _ ⟨rfl, hends, hsession, hidle⟩
    exact ⟨.inl rfl, hends, hsession, hidle⟩
  | some request =>
    simp only [single_dispatching hid]
    refine .sent fun answer => ?_
    refine (settles_final config h { call with stage := .second } hp (.inr rfl) answer
      hrefresh).mono ?_
    rintro _ _ _ _ ⟨rfl, hends, hsession, hidle⟩
    exact ⟨.inr ⟨request, answer, (Request.copy_of_withBearer hr).1, rfl⟩, hends, hsession, hidle⟩

/-- The refresh that the lookup leads is answered. -/
theorem settles_leading (config : Config) (h : origin.SignedIn context) (held : Call)
    (hp : held.purpose = .login email) (hs : held.stage = .leading)
    (answer : Except String Response) :
    Settles held.id
      (LookedUp origin config (OnceMore held.request) (fun _ => some (refreshOutcome answer))
        (replaySession email ((refreshChange answer).session context.session))) context
      ((single config context .refreshing held).step (.answer held.id answer)) := by
  have hstep : (single config context .refreshing held).step (.answer held.id answer) =
      (single config (context.after (refreshChange answer)) .idle held).proceed held
        (refreshOutcome answer) := by
    simp only [step, single_call?, answered, hs]
    rw [refreshAnswered_eq, single_changed, single_settleLeader]
  rw [hstep, ← context.after_session]
  cases ho : refreshOutcome answer with
  | refreshed token =>
    obtain ⟨refresh, hchange⟩ := refreshChange_of_refreshed ho
    rw [hchange]
    exact settles_replay (h.setTokens token refresh) rfl hp token (by simp)
  | failed reason =>
    rw [refreshChange_of_failed ho]
    show Settles held.id _ context (conclude _ held _)
    rw [conclude_failed, single_finish rfl]
    exact .ended ⟨.inl rfl, .expired rfl h.shows, rfl, rfl⟩

/-- After the first request, a refresh and a second one may follow. -/
def RefreshAndReplay (config : Config) (refresh : String) (request : Request)
    (exchanges : Exchanges) : Prop :=
  ∃ second, second.IsCopy request ∧
    exchanges.map (·.1) <+: [refreshRequest config refresh, second]

theorem refreshAndReplay_nil (config : Config) (refresh : String) (request : Request) :
    RefreshAndReplay config refresh request [] :=
  ⟨request, Request.isCopy_refl request, List.nil_prefix⟩

theorem refreshAndReplay_cons {request : Request} {exchanges : Exchanges}
    (h : OnceMore request exchanges) (config : Config) (refresh : String)
    (answer : Except String Response) :
    RefreshAndReplay config refresh request
      ((refreshRequest config refresh, answer) :: exchanges) := by
  obtain rfl | ⟨copy, answer', hcopy, rfl⟩ := h
  · exact ⟨request, Request.isCopy_refl request, List.prefix_append _ _⟩
  · exact ⟨copy, hcopy, List.prefix_rfl⟩

/-- The request is answered that went out with the access token of the session. -/
theorem settles_first (config : Config) (h : origin.SignedIn context) (held : Call)
    (hp : held.purpose = .login email) {refresh : String}
    (hrefresh : context.session.refresh = some refresh)
    (hs : held.stage = .first context.session.access) (first : Request)
    (answer : Except String Response) :
    Settles held.id
      (LookedUp origin config (RefreshAndReplay config refresh held.request) (refreshAt 0)
        fun rest => lookupSession email context.session ((first, answer) :: rest)) context
      ((single config context .idle held).step (.answer held.id answer)) := by
  have hconclude : (single config context .idle held).step (.answer held.id answer) =
      (single config context .idle held).conclude held (finalResult answer) →
      Settles held.id
        (LookedUp origin config (RefreshAndReplay config refresh held.request) (refreshAt 0)
          fun rest => lookupSession email context.session ((first, answer) :: rest)) context
        ((single config context .idle held).step (.answer held.id answer)) := by
    intro hstep
    rw [hstep]
    have hnone : ∀ reason, (none : Option Outcome) ≠ some (.failed reason) := by simp
    refine (conclude_signedIn h rfl hp (finalResult_ne_failed answer) hnone).mono ?_
    rintro _ _ _ _ ⟨rfl, hends, hsession, hidle⟩
    exact ⟨refreshAndReplay_nil _ _ _, hends, hsession, hidle⟩
  cases answer with
  | error text =>
    refine hconclude ?_
    simp only [step, single_call?, answered, hs, finalResult]
  | ok response =>
    by_cases h401 : response.status = 401
    · -- The token is still that of the session, so the call leads a refresh.
      have hstep : (single config context .idle held).step (.answer held.id (.ok response)) =
          (single config context .refreshing held).dispatching held .leading
            (refreshRequest config refresh) := by
        have hidle : (single config context .idle held).phase ≠ .refreshing := by simp [single]
        exact (step_rejected single_call? hs h401).trans
          ((recover_of_current hidle (.inr rfl)).trans (lead_of_some hrefresh))
      rw [hstep, single_dispatching rfl]
      refine .sent fun answer => ?_
      refine (settles_leading config h { held with stage := .leading } hp rfl answer).mono ?_
      rintro _ _ _ _ ⟨honce, hends, hsession, hidle⟩
      exact ⟨refreshAndReplay_cons honce config refresh answer, hends, hsession, hidle⟩
    · refine hconclude ?_
      simp only [step, single_call?, answered, hs, h401, if_false, finalResult]

/-- What is sent to look up an administrator: the request, and perhaps a refresh and the request
once more. -/
def LookupTraffic (config : Config) (refresh : String) (request : Request)
    (exchanges : Exchanges) : Prop :=
  ∃ first second, first.IsCopy request ∧ second.IsCopy request ∧
    exchanges.map (·.1) <+: [first, refreshRequest config refresh, second]

theorem lookupTraffic_cons {refresh : String} {request first : Request} {exchanges : Exchanges}
    (hcopy : first.IsCopy request) (h : RefreshAndReplay config refresh request exchanges)
    (answer : Except String Response) :
    LookupTraffic config refresh request ((first, answer) :: exchanges) := by
  obtain ⟨second, hsecond, hprefix⟩ := h
  exact ⟨first, second, hcopy, hsecond, List.cons_prefix_cons.2 ⟨rfl, hprefix⟩⟩

/-- The administrator is looked up, whatever is answered. -/
theorem settles_begin (h : origin.SignedIn context) (held call : Call)
    (hid : held.id = call.id) (hp : call.purpose = .login email) {refresh : String}
    (hrefresh : context.session.refresh = some refresh) :
    Settles call.id
      (LookedUp origin config (LookupTraffic config refresh call.request) (refreshAt 1)
        (lookupSession email context.session)) before
      ((single config context .idle held).begin call) := by
  have hcopy := Request.isCopy_refl call.request
  have hnone : ∀ reason, (none : Option Outcome) ≠ some (.failed reason) := by simp
  unfold begin
  split_ifs
  · rw [single_dispatching hid]
    refine .sent fun answer => ?_
    refine (settles_final config h { call with stage := .bare } hp (.inl rfl) answer hnone).mono ?_
    rintro _ _ _ _ ⟨rfl, hends, hsession, hidle⟩
    exact ⟨lookupTraffic_cons hcopy (refreshAndReplay_nil _ _ _) answer, hends, hsession, hidle⟩
  · cases ha : context.session.access with
    | none => exact absurd ha h.access
    | some token =>
      have haccess : (single config context .idle held).context.session.access = some token := ha
      simp only [haccess]
      cases hr : call.request.withBearer? token with
      | none =>
        refine (conclude_signedIn h hid hp (by simp) hnone).mono ?_
        rintro _ _ _ _ ⟨rfl, hends, hsession, hidle⟩
        exact ⟨⟨_, _, hcopy, hcopy, List.nil_prefix⟩, hends, hsession, hidle⟩
      | some request =>
        simp only [single_dispatching hid]
        refine .sent fun answer => ?_
        refine (settles_first config h { call with stage := .first (some token) } hp hrefresh
          (by rw [ha]) request answer).mono ?_
        rintro rest _ _ _ ⟨hmore, hends, hsession, hidle⟩
        exact ⟨lookupTraffic_cons (Request.copy_of_withBearer hr).1 hmore answer, hends, hsession,
          hidle⟩

end

/-! ## The whole sign-in -/

/-- What is sent for a sign-in: its own request, and what it takes to look up the administrator. -/
def SignInTraffic (config : Config) (email password : String) (exchanges : Exchanges) : Prop :=
  ∃ answer lookup, exchanges = (loginRequest config email password, answer) :: lookup ∧
    (lookup = [] ∨ ∃ tokens request, tokenPair? answer = some tokens ∧
      profileRequest? config = some request ∧ LookupTraffic config tokens.refresh request lookup)

/-- How a sign-in ends, by its result: given what was sent and answered, from the context it began
with, the one before its last answer, and the one it has led to. -/
def SignInEnd (context : SessionContext σ) (email : String) (exchanges : Exchanges)
    (before now : SessionContext σ) : Except GatewayError Reply → Prop
  | .ok reply => reply = .session now.session ∧ now.session.access ≠ none ∧
      now.session.refresh ≠ none ∧ now.session.user ≠ none ∧ now.status = .authenticated
  | .error (.authenticationFailed _) => now.session = {} ∧ now.status = .reauthRequired ∧
      now = before.after .expire ∧
      ∀ (Shows : σ → TextMap → Prop) (map : TextMap), IsFallibleTextMap Shows →
        Shows context.store map → ∃ map', Shows now.store map' ∧
          ∀ key ∈ removedKeys sessionKeys before.store, map' key = none
  | .error (.storage _) => ∃ exchange tokens, exchanges = [exchange] ∧
      tokenPair? exchange.2 = some tokens ∧
      now.session = ⟨some tokens.access, some tokens.refresh, some (.ofEmail email)⟩ ∧
      now.status = .authenticated
  | .error error =>
    ∃ exchange, exchanges = [exchange] ∧ SignInFault exchange.2 error ∧ now = context

/-- What the answers make of a sign-in: its result, and the session that it leaves. The lookup is
all that is exchanged after the answer to its own request. -/
inductive SignInVerdict (context : SessionContext σ) (email : String)
    (answer : Except String Response) (lookup : Exchanges) :
    Except GatewayError Reply → Session → Prop
  /-- The sign-in is turned down. -/
  | turnedDown {response : Response} :
    answer = .ok response → response.status = 400 ∨ response.status = 401 → lookup = [] →
    SignInVerdict context email answer lookup
      (.error (.authenticationFailed (.rejected (rejectionDetail? response.body)))) {}
  /-- The answer brings no tokens. -/
  | fault {error : GatewayError} :
    SignInFault answer error → lookup = [] →
    SignInVerdict context email answer lookup (.error error) context.session
  /-- The store does not take the new session. -/
  | unstored {tokens : TokenPair} {error : StoreError} :
    tokenPair? answer = some tokens →
    (context.apply (.establish tokens.access tokens.refresh (.ofEmail email))).1 = .error error →
    lookup = [] →
    SignInVerdict context email answer lookup (.error (.storage error))
      ⟨some tokens.access, some tokens.refresh, some (.ofEmail email)⟩
  /-- The store takes it, and no refresh fails during the lookup. -/
  | signedIn {tokens : TokenPair} {session : Session} :
    tokenPair? answer = some tokens →
    (context.apply (.establish tokens.access tokens.refresh (.ofEmail email))).1 = .ok () →
    (∀ reason, refreshAt 1 lookup ≠ some (.failed reason)) →
    session = lookupSession email
      ⟨some tokens.access, some tokens.refresh, some (.ofEmail email)⟩ lookup →
    SignInVerdict context email answer lookup (.ok (.session session)) session
  /-- The store takes it, and a refresh fails during the lookup. -/
  | expired {tokens : TokenPair} {reason : AuthFailure} :
    tokenPair? answer = some tokens →
    (context.apply (.establish tokens.access tokens.refresh (.ofEmail email))).1 = .ok () →
    refreshAt 1 lookup = some (.failed reason) →
    SignInVerdict context email answer lookup (.error (.authenticationFailed reason)) {}

theorem signInEnd_expired {context before : SessionContext σ} (h : context.StillShows before)
    (email : String) (exchanges : Exchanges) (reason : AuthFailure) :
    SignInEnd context email exchanges before (before.after .expire)
      (.error (.authenticationFailed reason)) := by
  refine ⟨before.after_session .expire, before.after_status .expire, rfl, ?_⟩
  intro Shows map hmap hshows
  obtain ⟨texts, htexts⟩ := h Shows hmap ⟨map, hshows⟩
  have hkeys : sessionKeys.Nodup := by decide
  obtain ⟨map', hnow, -, hgone⟩ := hmap.removed hkeys htexts
  exact ⟨map', hnow, hgone⟩

theorem signInEnd_of_lookup {context before now : SessionContext σ} {refresh : Option Outcome}
    {result : Except GatewayError Reply} (h : LookupEnd context before refresh result now)
    (email : String) (exchanges : Exchanges) :
    SignInEnd context email exchanges before now result := by
  cases h with
  | signedIn _ h => exact ⟨rfl, h.access, h.refresh, h.user, h.status⟩
  | expired _ h => exact signInEnd_expired h email exchanges _

theorem signInEnd_fault (context before : SessionContext σ) (email : String) (request : Request)
    {answer : Except String Response} {error : GatewayError} (h : SignInFault answer error) :
    SignInEnd context email [(request, answer)] before context (.error error) := by
  cases h with
  | transport text => exact ⟨_, rfl, .transport text, rfl⟩
  | http hs h400 h401 => exact ⟨_, rfl, .http hs h400 h401, rfl⟩
  | decode hs hd => exact ⟨_, rfl, .decode hs hd, rfl⟩

/-- The store has taken the session, and the lookup has ended. -/
theorem signInVerdict_of_lookup {context origin before now : SessionContext σ} {email : String}
    {answer : Except String Response} {tokens : TokenPair} {lookup : Exchanges}
    {result : Except GatewayError Reply} (htokens : tokenPair? answer = some tokens)
    (hstored :
      (context.apply (.establish tokens.access tokens.refresh (.ofEmail email))).1 = .ok ())
    (h : LookupEnd origin before (refreshAt 1 lookup) result now)
    (hsession : now.session = lookupSession email
      ⟨some tokens.access, some tokens.refresh, some (.ofEmail email)⟩ lookup) :
    SignInVerdict context email answer lookup result now.session := by
  cases h with
  | signedIn hrefresh _ => exact .signedIn htokens hstored hrefresh hsession
  | expired hrefresh _ =>
    rw [SessionContext.after_session]
    exact .expired htokens hstored hrefresh

/-- What holds at the end of a sign-in: no call is going on any more. -/
structure SignInContract (config : Config) (context : SessionContext σ) (email password : String)
    (exchanges : Exchanges) (result : Except GatewayError Reply) (before : SessionContext σ)
    (g : Gateway σ) : Prop where
  idle : g = start config g.context
  traffic : SignInTraffic config email password exchanges
  ends : SignInEnd context email exchanges before g.context result
  verdict : ∃ exchange lookup, exchanges = exchange :: lookup ∧
    SignInVerdict context email exchange.2 lookup result g.context.session

/-- The request for a token pair is answered. -/
theorem settles_exchange (config : Config) (context : SessionContext σ) (id : CallId)
    (email password : String) (answer : Except String Response) :
    let request := loginRequest config email password
    Settles id
      (fun rest => SignInContract config context email password ((request, answer) :: rest)) context
      ((single config context .idle ⟨id, .login email, request, .exchange⟩).step
        (.answer id answer)) := by
  intro request
  let call : Call := ⟨id, .login email, request, .exchange⟩
  have hstep : (single config context .idle call).step (.answer id answer) =
      (single config context .idle call).exchangeAnswered call email answer := by
    have hcall : (single config context .idle call).call? id = some call := single_call?
    simp only [step, hcall, answered, call]
  have hx := exchangeAnswered_exchanged (single config context .idle call) call email answer
  have halone : ∀ lookup, lookup = [] → SignInTraffic config email password
      ((request, answer) :: lookup) := fun lookup h => ⟨answer, lookup, rfl, .inl h⟩
  rw [hstep]
  generalize (single config context .idle call).exchangeAnswered call email answer = moved at hx
  cases hx with
  | turnedDown _ hanswer hs =>
    unfold rejected
    rw [single_changed, single_finish rfl]
    refine .ended ⟨rfl, halone _ rfl, signInEnd_expired (fun _ _ h => h) email _ _, _, [], rfl, ?_⟩
    rw [SessionContext.after_session]
    exact .turnedDown hanswer hs rfl
  | failed _ _ hfault =>
    rw [single_finish rfl]
    exact .ended ⟨rfl, halone _ rfl, signInEnd_fault context context email request hfault, _, [],
      rfl, .fault hfault rfl⟩
  | unstored tokens error htokens hstored =>
    rw [single_changed, single_finish rfl]
    refine .ended ⟨rfl, halone _ rfl, ⟨_, tokens, rfl, htokens, ?_, ?_⟩, _, [], rfl, ?_⟩
    · exact context.after_session _
    · exact context.after_status _
    · rw [SessionContext.after_session]
      exact .unstored htokens hstored rfl
  | signedIn tokens htokens hstored _ =>
    have hin := context.signedIn_establish tokens.access tokens.refresh (.ofEmail email)
    have hauth : (single config (context.after (.establish tokens.access tokens.refresh
        (.ofEmail email))) .idle call).context.isAuthenticated = true :=
      Option.isSome_iff_ne_none.2 hin.access
    have hend : LookupEnd context context (refreshAt 1 []) _ _ :=
      .signedIn (by simp [refreshAt]) hin
    rw [single_changed]
    unfold finishLogin
    rw [if_pos hauth, single_finish rfl]
    exact .ended ⟨rfl, halone _ rfl, signInEnd_of_lookup hend email _, _, [], rfl,
      signInVerdict_of_lookup htokens hstored hend (context.after_session _)⟩
  | @lookedUp tokens profile htokens hstored hprofile =>
    have hin := context.signedIn_establish tokens.access tokens.refresh (.ofEmail email)
    have hrefresh : (context.after (.establish tokens.access tokens.refresh
        (.ofEmail email))).session.refresh = some tokens.refresh := by
      rw [SessionContext.after_session]
      rfl
    rw [single_changed]
    refine (settles_begin hin call { call with request := profile } rfl rfl hrefresh).mono ?_
    rintro lookup result before g ⟨htraffic, hends, hsession, hidle⟩
    rw [SessionContext.after_session] at hsession
    exact ⟨hidle, ⟨answer, lookup, rfl, .inr ⟨tokens, profile, htokens, hprofile, htraffic⟩⟩,
      signInEnd_of_lookup hends email _, _, lookup, rfl,
      signInVerdict_of_lookup htokens hstored hends hsession⟩

theorem SignInTraffic.length_le {config : Config} {email password : String} {exchanges : Exchanges}
    (h : SignInTraffic config email password exchanges) : exchanges.length ≤ 4 := by
  obtain ⟨answer, lookup, rfl, rfl | ⟨tokens, request, -, -, first, second, -, -, hprefix⟩⟩ := h
  · simp
  · have := hprefix.length_le
    simp only [List.length_map, List.length_cons, List.length_nil] at this ⊢
    omega

/-- Somebody signs in while no other call is going on. Whatever is answered to the requests, and
whatever the store refuses, the sign-in ends: at most four requests are sent, one after the other,
and then the result is given, which tells what has become of session, status and store. The result
and the session are those that the answers give. -/
theorem sign_in_keeps_contract (config : Config) (context : SessionContext σ) (id : CallId)
    (email password : String) (answers : ℕ → Except String Response) :
    ∃ (exchanges : Exchanges) (result : Except GatewayError Reply),
      let es := .login id email password :: exchanges.map fun x => .answer id x.2
      let before := ((start config context).run es.dropLast).context
      let g := (start config context).run es
      exchanges.map (·.2) = (List.range exchanges.length).map answers ∧
        ((start config context).history es).flatMap Moment.effects =
          (exchanges.map fun x => .dispatch id x.1) ++ [.finish id result] ∧
        exchanges.length ≤ 4 ∧ SignInTraffic config email password exchanges ∧
        g = start config g.context ∧ SignInEnd context email exchanges before g.context result ∧
        ∃ exchange lookup, exchanges = exchange :: lookup ∧
          SignInVerdict context email exchange.2 lookup result g.context.session := by
  have hstep : (start config context).step (.login id email password) =
      (single config context .idle
        ⟨id, .login email, loginRequest config email password, .exchange⟩,
        [.dispatch id (loginRequest config email password)]) := rfl
  have hsettles : Settles id (SignInContract config context email password)
      (start config context).context ((start config context).step (.login id email password)) := by
    rw [hstep]
    exact .sent fun answer => settles_exchange config context id email password answer
  obtain ⟨exchanges, result, hanswers, heffects, hcontract⟩ := hsettles.run answers
  exact ⟨exchanges, result, hanswers, heffects, hcontract.traffic.length_le, hcontract.traffic,
    hcontract.idle, hcontract.ends, hcontract.verdict⟩

/-! Two sign-ins over a store that keeps what it should forget. -/

/-- A store that does not let go of its refresh token. -/
def clingingStore : Rehearsal.RefusingStore :=
  { entries := [("jwt_token", "a"), ("refresh_token", "r")], remove := [refreshKey] }

/-- The session of that store. -/
def clingingContext : SessionContext Rehearsal.RefusingStore :=
  ⟨clingingStore, ⟨some "a", some "r", none⟩, .authenticated, 0⟩

/-- Where nobody is looked up, the request for a token pair is the only one. -/
theorem SignInTraffic.alone {config : Config} {email password : String}
    {exchange : Request × Except String Response} {lookup : Exchanges}
    (h : SignInTraffic config email password (exchange :: lookup))
    (hnone : profileRequest? config = none) : lookup = [] := by
  obtain ⟨answer, lookup', heq, rfl | ⟨_, _, -, hsome, -⟩⟩ := h
  · exact (List.cons.inj heq).2
  · rw [hnone] at hsome
    cases hsome

/-- Turned down: nothing is left of the session in memory, and the store has lost the access token.
Taken: the session holds what the answer has brought. -/
theorem sign_ins_over_clinging_store :
    (let g := (start sampleConfig clingingContext).run
      [.login 0 "c@x" "p", .answer 0 (.ok ⟨401, ""⟩)]
    g.context.session = {} ∧ g.context.status = .reauthRequired ∧
      ∃ map, Rehearsal.RefusingStore.Shows g.context.store map ∧ map accessKey = none) ∧
    (let g := (start sampleConfig clingingContext).run
      [.login 0 "c@x" "p", .answer 0 (tokensAnswer "c" "s")]
    g.context.session = ⟨some "c", some "s", some (.ofEmail "c@x")⟩ ∧
      g.context.status = .authenticated) := by
  constructor
  · obtain ⟨_, result, hanswers, -, -, htraffic, -, hends, exchange, lookup, rfl, hverdict⟩ :=
      sign_in_keeps_contract sampleConfig clingingContext 0 "c@x" "p" fun _ => .ok ⟨401, ""⟩
    obtain rfl := htraffic.alone rfl
    have hanswer : exchange.2 = .ok ⟨401, ""⟩ := (List.cons.inj hanswers).1
    simp only [List.map_cons, List.map_nil, hanswer] at hends hverdict
    generalize (Gateway.context _).session = left at hverdict
    cases hverdict with
    | turnedDown _ _ _ =>
      obtain ⟨hsession, hstatus, -, hgone⟩ := hends
      obtain ⟨map, hshows, hnone⟩ := hgone _ _ Rehearsal.RefusingStore.isFallibleTextMap rfl
      exact ⟨hsession, hstatus, map, hshows, hnone accessKey (by decide +kernel)⟩
    | fault hfault _ =>
      cases hfault with
      | http _ _ h401 => exact absurd rfl h401
      | decode hs _ => cases hs
    | unstored htokens _ _ => cases htokens
    | signedIn htokens _ _ _ => cases htokens
    | expired htokens _ _ => cases htokens
  · obtain ⟨_, result, hanswers, -, -, htraffic, -, hends, exchange, lookup, rfl, hverdict⟩ :=
      sign_in_keeps_contract sampleConfig clingingContext 0 "c@x" "p" fun _ => tokensAnswer "c" "s"
    obtain rfl := htraffic.alone rfl
    have hanswer : exchange.2 = tokensAnswer "c" "s" := (List.cons.inj hanswers).1
    have htaken : tokenPair? (tokensAnswer "c" "s") = some ⟨"c", "s"⟩ := by decide +kernel
    simp only [List.map_cons, List.map_nil, hanswer] at hends hverdict
    generalize hleft : (Gateway.context _).session = left at hverdict
    cases hverdict with
    | turnedDown h hs _ =>
      cases h
      revert hs
      decide
    | fault hfault _ => cases htaken.symm.trans hfault.tokenPair?_eq_none
    | unstored _ hrefused _ => cases hrefused
    | signedIn htokens _ _ hsession =>
      obtain rfl := Option.some.inj (htaken.symm.trans htokens)
      obtain ⟨-, -, -, -, hstatus⟩ := hends
      exact ⟨hleft.trans hsession, hstatus⟩
    | expired _ _ hfailed => cases hfailed

end Gateway

end AccessConsole
