import AccessConsole.Proofs.Gateway.Origin
import AccessConsole.Proofs.Gateway.Twin

/-!
# Secrets go nowhere but the calls that exchange them

Passwords and refresh tokens are sent in the bodies of the requests for token pairs and new tokens.
Nothing else that a gateway does depends on them.

* `plainPost` — a request that carries nothing but texts in its body.
* `Event.Alike`, `Effect.Alike`, `Moment.Alike` — what may differ in two runs with different
  secrets.
* `Moment.SendsPlainly` — what the requests look like that carry secrets.
* `Twin.step`, `Twin.run` — twins stay twins.
* `secrets_never_show` — two runs that differ in secrets only look alike.
-/

namespace AccessConsole

/-- A `POST` that carries nothing but texts in its body. -/
def plainPost (url : String) (texts : List (String × String)) : Request :=
  { method := .post, url, headers := [], query := [],
    body := some (.record (texts.map fun t => (t.1, Json.text t.2))) }

/-- Two events differ at most in the password of a sign-in. -/
inductive Event.Alike : Event → Event → Prop
  | same (e : Event) : Alike e e
  | login (id : CallId) (email password password' : String) :
    Alike (.login id email password) (.login id email password')

variable {σ τ : Type} [KeyStore σ] [KeyStore τ]

/-- Two effects differ at most in a secret that a request carries in its body: the password of the
sign-in that begins, or the refresh token of the session, which is sent for a call that takes the
lead. -/
inductive Effect.Alike (config : Config) (m : Moment σ) (m' : Moment τ) : Effect → Effect → Prop
  | same (effect : Effect) : Alike config m m' effect effect
  | login {id : CallId} {email password password' : String} :
    m.event = .login id email password → m'.event = .login id email password' →
    Alike config m m'
      (.dispatch id (plainPost config.loginUrl [("email", email), ("password", password)]))
      (.dispatch id (plainPost config.loginUrl [("email", email), ("password", password')]))
  | refresh {id : CallId} {token token' : String} :
    m.before.context.session.refresh = some token →
    m'.before.context.session.refresh = some token' →
    (id, plainPost config.refreshUrl [("refresh", token)]) ∈ m.refreshCalls →
    (id, plainPost config.refreshUrl [("refresh", token')]) ∈ m'.refreshCalls →
    Alike config m m'
      (.dispatch id (plainPost config.refreshUrl [("refresh", token)]))
      (.dispatch id (plainPost config.refreshUrl [("refresh", token')]))

namespace Moment

/-- The requests that carry secrets carry nothing else: what a sign-in sends, unless its number is
taken, and what is sent for a new token. -/
structure SendsPlainly (config : Config) (m : Moment σ) : Prop where
  login (id : CallId) (email password : String) : m.event = .login id email password →
    m.effects = if (m.before.call? id).isSome then [] else [.dispatch id
      (plainPost config.loginUrl [("email", email), ("password", password)])]
  refresh (id : CallId) (request : Request) : (id, request) ∈ m.refreshCalls →
    ∃ token, m.before.context.session.refresh = some token ∧
      request = plainPost config.refreshUrl [("refresh", token)]

/-- The same happens in two moments but for secrets, which are sent plainly. -/
structure Alike (config : Config) (m : Moment σ) (m' : Moment τ) : Prop where
  event : m.event.Alike m'.event
  effects : List.Forall₂ (Effect.Alike config m m') m.effects m'.effects
  shows : m.after.ShowsAlike m'.after
  plain : m.SendsPlainly config
  plain' : m'.SendsPlainly config

theorem sendsPlainly {config : Config} (m : Moment σ) (hconfig : m.before.config = config) :
    m.SendsPlainly config where
  login id email password he := by
    have heffects : m.effects = (m.before.step (.login id email password)).2 := by
      rw [← he]
      rfl
    rw [heffects, Gateway.step, ← hconfig]
    split_ifs <;> rfl
  refresh id request hm := by
    obtain ⟨_, _, _, token, -, -, -, -, -, hheld, hrequest, -⟩ :=
      (Gateway.step_control m.before m.event).refreshCalls hm
    rw [hconfig] at hrequest
    exact ⟨token, hheld, hrequest⟩

end Moment

namespace Gateway

/-! ## Steps -/

/-- Two moves are in lockstep, or each asks for a new token with the refresh token that is held. -/
inductive Abreast (config : Config) (R : σ → τ → Prop) (g : Gateway σ) (g' : Gateway τ) :
    Moved σ → Moved τ → Prop
  | lockstep {moved : Moved σ} {moved' : Moved τ} :
    Lockstep config R moved moved' → Abreast config R g g' moved moved'
  | asking {call : Call} {token token' : String} : Discreet g g' call →
    g.context.session.refresh = some token → g'.context.session.refresh = some token' →
    Abreast config R g g'
      ({ g with phase := .refreshing : Gateway σ }.dispatching call .leading
        (refreshRequest config token))
      ({ g' with phase := .refreshing : Gateway τ }.dispatching call .leading
        (refreshRequest config token'))

namespace Twin

variable {config : Config} {R : σ → τ → Prop} {g : Gateway σ} {g' : Gateway τ} {call : Call}

theorem lead (hR : TakeAlike R) (h : Twin config R g g') (hcall : Discreet g g' call)
    (hqueue : g.QueueIsPlain) : Abreast config R g g' (g.lead call) (g'.lead call) := by
  have hheld := h.context.held
  cases hr : g.context.session.refresh with
  | none =>
    rw [hr] at hheld
    have hr' := Option.not_isSome_iff_eq_none.1 (by rw [← hheld]; simp)
    rw [lead_of_none hr, lead_of_none hr']
    have hexpired := (h.setPhase .refreshing).changed hR .expire
    exact .lockstep (hexpired.settleLeader hR (hcall.imp_right fun _ => rfl) hqueue _)
  | some token =>
    rw [hr] at hheld
    obtain ⟨token', hr'⟩ := Option.isSome_iff_exists.1 hheld.symm
    have hask : refreshRequest g.config token = refreshRequest config token := by
      rw [h.config_left]
    have hask' : refreshRequest g'.config token' = refreshRequest config token' := by
      rw [h.config_right]
    rw [lead_of_some hr, lead_of_some hr', hask, hask']
    exact .asking hcall hr hr'

theorem recover (hR : TakeAlike R) (h : Twin config R g g') (hcall : Discreet g g' call)
    (hqueue : g.QueueIsPlain) (sent : Option String) :
    Abreast config R g g' (g.recover call sent) (g'.recover call sent) := by
  unfold Gateway.recover
  rw [h.phase, h.context.access]
  split_ifs
  · exact .lockstep (h.join hcall)
  · cases g'.context.session.access with
    | none => exact h.lead hR hcall hqueue
    | some current =>
      by_cases hsent : sent = some current
      · simp only [hsent, if_true]
        exact h.lead hR hcall hqueue
      · simp only [hsent, if_false]
        exact .lockstep (h.replay hR hcall current)

/-- Past the exchange, a call goes on without its secrets. -/
theorem answered (hR : TakeAlike R) (h : Twin config R g g') (hcall : Discreet g g' call)
    (hs : call.stage ≠ .exchange) (hqueue : g.QueueIsPlain) (answer : Except String Response) :
    Abreast config R g g' (g.answered call answer) (g'.answered call answer) := by
  unfold Gateway.answered
  cases hstage : call.stage with
  | exchange => exact absurd hstage hs
  | bare => exact .lockstep (h.conclude hR hcall _)
  | second => exact .lockstep (h.conclude hR hcall _)
  | leading => exact .lockstep (h.refreshAnswered hR hcall hqueue answer)
  | queued => exact .lockstep ⟨h, rfl⟩
  | released o => exact .lockstep ⟨h, rfl⟩
  | first token =>
    cases answer with
    | error text => exact .lockstep (h.conclude hR hcall _)
    | ok response =>
      by_cases h401 : response.status = 401
      · simp only [h401, if_true]
        exact h.recover hR hcall hqueue token
      · simp only [h401, if_false]
        exact .lockstep (h.conclude hR hcall _)

/-- The answer to a sign-in, whatever its password. -/
theorem answered_exchange (hR : TakeAlike R) (h : Twin config R g g') (hs : call.stage = .exchange)
    (request : Request) (answer : Except String Response) :
    Lockstep config R (g.answered call answer) (g'.answered { call with request } answer) := by
  rcases call with ⟨id, purpose, _, _⟩
  cases hs
  cases purpose with
  | login email => exact h.exchangeAnswered hR request email answer
  | send => exact h.finish id _

/-- The same event finds twins in the same state. -/
theorem step_same (hR : TakeAlike R) (h : Twin config R g g') (hg : Coherent g) (e : Event) :
    Abreast config R g g' (g.step e) (g'.step e) := by
  have hstay : Lockstep config R (g, []) (g', []) := ⟨h, rfl⟩
  have hqueue : g.QueueIsPlain := hg.queueIsPlain
  cases e with
  | change change => exact .lockstep ⟨h.changed hR change, rfl⟩
  | send id request =>
    unfold Gateway.step
    simp only [h.call?_isSome id]
    split_ifs
    · exact .lockstep hstay
    · exact .lockstep (h.begin hR (.inl rfl))
  | login id email password =>
    unfold Gateway.step
    simp only [h.call?_isSome id, h.config_left, h.config_right]
    split_ifs
    · exact .lockstep hstay
    · exact .lockstep ⟨h.suspend_redacted rfl rfl (.inr (.inr rfl)), rfl⟩
  | answer id answer =>
    unfold Gateway.step
    obtain ⟨hc, hc'⟩ | ⟨call, hc, hc', hs⟩ | ⟨call, request, hc, hs, hc'⟩ := h.call?_cases id
    · simp only [hc, hc']
      exact .lockstep hstay
    · simp only [hc, hc']
      exact h.answered hR (h.discreet hc hs) hs hqueue answer
    · simp only [hc, hc']
      exact .lockstep (h.answered_exchange hR hs request answer)
  | resume id =>
    unfold Gateway.step
    obtain ⟨hc, hc'⟩ | ⟨call, hc, hc', hs⟩ | ⟨call, request, hc, hs, hc'⟩ := h.call?_cases id
    · simp only [hc, hc']
      exact .lockstep hstay
    · simp only [hc, hc']
      cases hstage : call.stage with
      | released o => exact .lockstep (h.proceed hR (h.discreet hc hs) o)
      | _ => exact .lockstep hstay
    · simp only [hc, hc', hs]
      exact .lockstep hstay
  | cancel id =>
    unfold Gateway.step
    obtain ⟨hc, hc'⟩ | ⟨call, hc, hc', -⟩ | ⟨call, request, hc, -, hc'⟩ := h.call?_cases id
    · simp only [hc, hc']
      exact .lockstep hstay
    · simp only [hc, hc']
      exact .lockstep (h.cancelled hqueue call call.request)
    · simp only [hc, hc']
      exact .lockstep (h.cancelled hqueue call request)

/-- Twins stay twins, and what is done differs in secrets only. -/
theorem step (hR : TakeAlike R) (h : Twin config R g g') (hg : Coherent g) {e e' : Event}
    (he : e.Alike e') :
    Twin config R (g.step e).1 (g'.step e').1 ∧
      List.Forall₂ (Effect.Alike config ⟨g, e⟩ ⟨g', e'⟩) (g.step e).2 (g'.step e').2 := by
  have hequal : ∀ effects, List.Forall₂ (Effect.Alike config ⟨g, e⟩ ⟨g', e'⟩) effects effects :=
    fun effects => List.forall₂_same.2 fun effect _ => .same effect
  cases he with
  | same =>
    have hstep := h.step_same hR hg e
    generalize hm : g.step e = moved at hstep
    generalize hm' : g'.step e = moved' at hstep
    cases hstep with
    | lockstep hl => exact ⟨hl.twin, hl.effects ▸ hequal _⟩
    | asking hcall hr hr' =>
      refine ⟨(h.setPhase .refreshing).suspend hcall .leading, .cons (.refresh hr hr' ?_ ?_) .nil⟩
      · show _ ∈ refreshCalls (g.step e)
        rw [hm, refreshCalls_lead]
        exact List.mem_singleton_self _
      · show _ ∈ refreshCalls (g'.step e)
        rw [hm', refreshCalls_lead]
        exact List.mem_singleton_self _
  | login id email password password' =>
    unfold Gateway.step
    simp only [h.call?_isSome id, h.config_left, h.config_right]
    split_ifs
    · exact ⟨h, .nil⟩
    · exact ⟨h.suspend_redacted rfl rfl (.inr (.inr rfl)), .cons (.login rfl rfl) .nil⟩

/-! ## Runs -/

theorem moment (hR : TakeAlike R) (h : Twin config R g g') (hg : Coherent g) {e e' : Event}
    (he : e.Alike e') : Moment.Alike config ⟨g, e⟩ ⟨g', e'⟩ :=
  ⟨he, (h.step hR hg he).2, (h.step hR hg he).1.showsAlike, Moment.sendsPlainly _ h.config_left,
    Moment.sendsPlainly _ h.config_right⟩

theorem run (hR : TakeAlike R) (h : Twin config R g g') (hg : Coherent g) {es es' : List Event}
    (hes : List.Forall₂ Event.Alike es es') :
    List.Forall₂ (Moment.Alike config) (g.history es) (g'.history es') ∧
      Twin config R (g.run es) (g'.run es') := by
  induction hes generalizing g g' with
  | nil => exact ⟨.nil, h⟩
  | @cons e e' es es' he _ ih =>
    obtain ⟨hhistory, hrun⟩ := ih (h.step hR hg he).1 (hg.step e)
    exact ⟨.cons (h.moment hR hg he) hhistory, hrun⟩

end Twin

/-- A call ends alike in two moments that differ in secrets only. -/
theorem resultsFor_alike {config : Config} {m : Moment σ} {m' : Moment τ} (id : CallId)
    {effects effects' : List Effect}
    (h : List.Forall₂ (Effect.Alike config m m') effects effects') :
    resultsFor id effects = resultsFor id effects' := by
  induction h with
  | nil => rfl
  | @cons x y xs ys hx _ ih =>
    unfold resultsFor at ih ⊢
    cases hx with
    | same => simp only [List.filterMap_cons, ih]
    | login _ _ => simpa using ih
    | refresh _ _ _ _ => simpa using ih

theorem resultsOf_alike {config : Config} {history : List (Moment σ)} {history' : List (Moment τ)}
    (id : CallId) (h : List.Forall₂ (Moment.Alike config) history history') :
    resultsOf id history = resultsOf id history' := by
  induction h with
  | nil => rfl
  | cons hm _ ih =>
    unfold resultsOf at ih ⊢
    rw [List.flatMap_cons, List.flatMap_cons, ih, resultsFor_alike id hm.effects]

/-- Two sessions are restored from stores that take the same writes. They hold the same access token
and the same user, and each holds a refresh token or neither does. The same happens to both, but for
the passwords of the sign-ins. Then the same is done at each moment, in the same order: the same
requests are sent, but for the passwords and the refresh tokens in the bodies of the requests of
sign-ins and refreshes, which carry nothing else; each call gives the same results; and the access
token, the user, the status, the phase and the queue are the same. -/
theorem secrets_never_show {R : σ → τ → Prop} (hR : TakeAlike R) {store : σ} {store' : τ}
    {context : SessionContext σ} {context' : SessionContext τ} (hstores : R store store')
    (hrestored : SessionContext.restore store = .ok context)
    (hrestored' : SessionContext.restore store' = .ok context')
    (haccess : KeyStore.get store accessKey = KeyStore.get store' accessKey)
    (huser : KeyStore.get store userKey = KeyStore.get store' userKey)
    (hrefresh : context.session.refresh.isSome = context'.session.refresh.isSome)
    (config : Config) {es es' : List Event} (hes : List.Forall₂ Event.Alike es es') :
    let history := (start config context).history es
    let history' := (start config context').history es'
    List.Forall₂ (Moment.Alike config) history history' ∧
      (∀ id, resultsOf id history = resultsOf id history') ∧
      ((start config context).run es).ShowsAlike ((start config context').run es') := by
  intro history history'
  have hcontext : ContextAlike R context context' := by
    obtain ⟨access, refresh, user, ha, -, hu, rfl⟩ := SessionContext.restore_ok hrestored
    obtain ⟨access', refresh', user', ha', -, hu', rfl⟩ := SessionContext.restore_ok hrestored'
    rw [ha, ha'] at haccess
    rw [hu, hu'] at huser
    cases haccess
    cases huser
    exact ⟨hstores, rfl, rfl, hrefresh, rfl⟩
  have htwin : Twin config R (start config context) (start config context') :=
    ⟨rfl, rfl, hcontext, rfl, rfl, rfl, .inr fun _ hc => absurd hc List.not_mem_nil⟩
  obtain ⟨hhistory, hrun⟩ := htwin.run hR (coherent_start config context) hes
  exact ⟨hhistory, fun id => resultsOf_alike id hhistory, hrun.showsAlike⟩

/-- A store in memory with an access token and a refresh token. -/
def storeWith (refresh : String) : MemoryStore :=
  ⟨[("jwt_token", "a"), ("refresh_token", refresh)]⟩

/-- Somebody signs in while a call is refreshed, and is looked up. -/
def signInAmidRefresh (password : String) : List Event := [
  .send 0 (.new .get "u/0"), .login 1 "c@x" password, .answer 0 (.ok ⟨401, ""⟩),
  .answer 0 (.ok ⟨200, "\x7b\"access\":\"b\"\x7d"⟩), .answer 1 (tokensAnswer "c" "s"),
  .answer 0 (.ok ⟨200, ""⟩), .answer 1 (.ok ⟨200, "\x7b\"id\":7\x7d"⟩)]

/-- The bodies of requests, as they are sent. -/
def bodies (requests : List Request) : List (Option String) :=
  requests.map fun r => r.body.map Json.compact

/-- Two refresh tokens and two passwords are sent where they are to be sent, and show nowhere
else. -/
theorem two_secrets_never_show :
    ∃ context context',
      SessionContext.restore (storeWith "r") = .ok context ∧
      SessionContext.restore (storeWith "z") = .ok context' ∧
      let history := (start lookupConfig context).history (signInAmidRefresh "p")
      let history' := (start lookupConfig context').history (signInAmidRefresh "q")
      bodies (sentFor 0 history) = [none, some "\x7b\"refresh\":\"r\"\x7d", none] ∧
      bodies (sentFor 0 history') = [none, some "\x7b\"refresh\":\"z\"\x7d", none] ∧
      bodies (sentFor 1 history) =
        [some "\x7b\"email\":\"c@x\",\"password\":\"p\"\x7d", none] ∧
      bodies (sentFor 1 history') =
        [some "\x7b\"email\":\"c@x\",\"password\":\"q\"\x7d", none] ∧
      List.Forall₂ (Moment.Alike lookupConfig) history history' ∧
      (∀ id, resultsOf id history = resultsOf id history') ∧
      ((start lookupConfig context).run (signInAmidRefresh "p")).ShowsAlike
        ((start lookupConfig context').run (signInAmidRefresh "q")) := by
  have hrestored : SessionContext.restore (storeWith "r") =
      .ok ⟨storeWith "r", ⟨some "a", some "r", none⟩, .authenticated, 0⟩ := by rfl
  have hrestored' : SessionContext.restore (storeWith "z") =
      .ok ⟨storeWith "z", ⟨some "a", some "z", none⟩, .authenticated, 0⟩ := by rfl
  have hes : List.Forall₂ Event.Alike (signInAmidRefresh "p") (signInAmidRefresh "q") :=
    .cons (.same _) <| .cons (.login _ _ _ _) <| List.forall₂_same.2 fun e _ => .same e
  refine ⟨_, _, hrestored, hrestored', by decide +kernel, by decide +kernel, by decide +kernel,
    by decide +kernel, ?_⟩
  exact secrets_never_show (MemoryStore.isTextMap.takeAlike MemoryStore.isTextMap)
    ⟨⟨_, rfl⟩, ⟨_, rfl⟩⟩ hrestored hrestored' rfl rfl rfl lookupConfig hes

end Gateway

end AccessConsole
