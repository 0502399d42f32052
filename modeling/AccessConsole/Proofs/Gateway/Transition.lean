import AccessConsole.Proofs.Gateway.Run

/-!
# What a step can do

* `Onward` — how a call goes on when it is up to it alone: it is sent, or it is over.
* `tokenPair?`, `SignInFault`, `Exchanged` — the tokens that the answer to a sign-in brings, what
  can go wrong with it, and all that it can come to.
* `Transition`, `step_transition` — every step of a gateway is one of a few transitions.

The proofs about runs split a step by its transition and do not open the functions of the gateway.
-/

namespace AccessConsole

/-- The call's own request is on the way. -/
def Stage.isOwn : Stage → Bool
  | .leading => false
  | .queued => false
  | .released _ => false
  | _ => true

/-- A status of success gives the answer itself, 401 a want of credentials, and any other status
tells itself. -/
theorem Response.result_cases (r : Response) :
    r.result = .ok r ∨ (r.status = 401 ∧ r.result = .error (.unauthorized r.body)) ∨
      (r.status ≠ 401 ∧ r.result = .error (.http r.status r.body)) := by
  unfold Response.result
  split_ifs with hs h401
  · exact .inl rfl
  · exact .inr (.inl ⟨h401, rfl⟩)
  · exact .inr (.inr ⟨h401, rfl⟩)

/-- A request as it is sent with a token, or as it is without one. None if the token may not stand
in a header. -/
def Request.outbound? (r : Request) : Option String → Option Request
  | none => some r
  | some token => r.withBearer? token

/-- The tokens that the answer to a sign-in brings. -/
def tokenPair? (answer : Except String Response) : Option TokenPair :=
  match Gateway.finalResult answer with
  | .ok response => TokenPair.codec.decode? response.body
  | .error _ => none

/-- The sign-in was turned down. -/
def isRefusal : Except String Response → Bool
  | .ok response => response.status = 400 || response.status = 401
  | .error _ => false

theorem isSuccess_of_result_ok {response r : Response} (h : response.result = .ok r) :
    response.isSuccess = true := by
  unfold Response.result at h
  split_ifs at h with hs
  exact hs

theorem isSuccess_of_result_error {response : Response} {e : GatewayError}
    (h : response.result = .error e) : response.isSuccess = false := by
  unfold Response.result at h
  split_ifs at h with hs
  · simpa using hs
  · simpa using hs

theorem isRefusal_of_result_ok {response r : Response} (h : response.result = .ok r) :
    isRefusal (.ok response) = false := by
  have hs := isSuccess_of_result_ok h
  simp only [Response.isSuccess, Bool.and_eq_true, decide_eq_true_eq] at hs
  simp only [isRefusal, Bool.or_eq_false_iff, decide_eq_false_iff_not]
  omega

variable {σ : Type} [KeyStore σ]

namespace Gateway

/-! ## Calls that go on by themselves -/

/-- How a call goes on when it is up to it alone. -/
inductive Onward (g : Gateway σ) (call : Call) : Moved σ → Prop
  /-- Its own request is sent, for the first time with the token of the session. -/
  | sent {stage : Stage} {request : Request} :
    stage.isOwn = true →
    (∀ token, stage = .first token →
      token = g.context.session.access ∧ call.request.outbound? token = some request) →
    Onward g call (g.dispatching call stage request)
  /-- It is over. -/
  | ended (result : Except GatewayError Reply) : Onward g call (g.finish call.id result)
  /-- It is over, and more is known about the user that it signed in. -/
  | named (user : CurrentUser) (result : Except GatewayError Reply) :
    Onward g call ((g.changed (.setUser user)).finish call.id result)

omit [KeyStore σ] in
theorem finishLogin_eq (g : Gateway σ) (id : CallId) :
    ∃ result, g.finishLogin id = g.finish id result := by
  unfold finishLogin
  split_ifs
  · exact ⟨_, rfl⟩
  · exact ⟨_, rfl⟩

theorem conclude_failed (g : Gateway σ) (call : Call) (reason : AuthFailure) :
    g.conclude call (.error (.authenticationFailed reason)) =
      g.finish call.id (.error (.authenticationFailed reason)) := by
  unfold conclude
  cases call.purpose <;> rfl

theorem conclude_onward (g : Gateway σ) (call : Call) (result : CallResult) :
    Onward g call (g.conclude call result) := by
  unfold conclude
  split
  · exact .ended _
  · split
    · rename_i email _ _ _ profile _
      obtain ⟨r, hr⟩ := finishLogin_eq (g.changed (.setUser (profile.user email))) call.id
      rw [hr]
      exact .named _ r
    · obtain ⟨r, hr⟩ := finishLogin_eq g call.id
      rw [hr]
      exact .ended r
  · exact .ended _
  · obtain ⟨r, hr⟩ := finishLogin_eq g call.id
    rw [hr]
    exact .ended r

theorem begin_onward (g : Gateway σ) (call : Call) : Onward g call (g.begin call) := by
  unfold begin
  split_ifs
  · exact .sent rfl (by rintro _ ⟨⟩)
  · cases ha : g.context.session.access with
    | none =>
      refine .sent rfl ?_
      rintro _ ⟨⟩
      exact ⟨ha.symm, rfl⟩
    | some token =>
      simp only
      cases hr : call.request.withBearer? token with
      | some request =>
        refine .sent rfl ?_
        rintro _ ⟨⟩
        exact ⟨ha.symm, hr⟩
      | none => exact conclude_onward g call _

theorem replay_onward (g : Gateway σ) (call : Call) (token : String) :
    Onward g call (g.replay call token) := by
  unfold replay
  split
  · exact .sent rfl (by rintro _ ⟨⟩)
  · exact conclude_onward g call _

theorem proceed_onward (g : Gateway σ) (call : Call) (o : Outcome) :
    Onward g call (g.proceed call o) := by
  cases o with
  | refreshed token => exact replay_onward g call token
  | failed reason => exact conclude_onward g call _

/-! What a call does by itself leaves phase, queue and the other calls alone. -/

section

variable {g : Gateway σ} {call : Call} {moved : Moved σ}

theorem Onward.phase (h : Onward g call moved) : moved.1.phase = g.phase := by
  cases h <;> rfl

theorem Onward.queue (h : Onward g call moved) : moved.1.queue = g.queue := by
  cases h <;> rfl

theorem Onward.woken (h : Onward g call moved) : wokenBy moved.2 = [] := by
  cases h <;> rfl

/-- A call that is still going on has been sent. -/
theorem Onward.of_live (h : Onward g call moved) (hlive : moved.1.call? call.id ≠ none) :
    ∃ stage request, stage.isOwn = true ∧ moved = g.dispatching call stage request ∧
      ∀ token, stage = .first token →
        token = g.context.session.access ∧ call.request.outbound? token = some request := by
  cases h with
  | @sent stage request hs hfirst => exact ⟨stage, request, hs, rfl, hfirst⟩
  | ended result => exact absurd (call?_without_self g call.id) hlive
  | named user result => exact absurd (call?_without_self _ call.id) hlive

theorem Onward.call?_of_ne (h : Onward g call moved) {id : CallId} (hid : id ≠ call.id) :
    moved.1.call? id = g.call? id := by
  cases h with
  | @sent stage request _ _ => exact call?_suspend_of_ne g call stage hid
  | ended result => exact call?_without_of_ne g hid
  | named user result => exact call?_without_of_ne (g.changed (.setUser user)) hid

theorem Onward.requestsFor_of_ne (h : Onward g call moved) {id : CallId} (hid : id ≠ call.id) :
    requestsFor id moved.2 = [] := by
  cases h with
  | sent _ _ => simp [requestsFor, dispatching, Ne.symm hid]
  | ended result => rfl
  | named user result => rfl

theorem Onward.resultsFor_of_ne (h : Onward g call moved) {id : CallId} (hid : id ≠ call.id) :
    resultsFor id moved.2 = [] := by
  cases h with
  | sent _ _ => rfl
  | ended result => simp [resultsFor, finish, Ne.symm hid]
  | named user result => simp [resultsFor, finish, Ne.symm hid]

theorem Onward.idsAt (h : Onward g call moved) {p : Stage → Bool}
    (hp : ∀ stage : Stage, stage.isOwn = true → p stage = false) :
    moved.1.idsAt p = (g.without call.id).idsAt p := by
  cases h with
  | sent hs _ =>
    show (g.suspend call _).idsAt p = _
    rw [idsAt_suspend, if_neg (by rw [hp _ hs]; simp), List.append_nil]
  | ended result => rfl
  | named user result => rfl

theorem Onward.leaders (h : Onward g call moved) :
    moved.1.leaders = (g.without call.id).leaders := by
  refine h.idsAt ?_
  intro stage hs
  cases stage <;> simp_all [Stage.isOwn]

theorem Onward.waiting (h : Onward g call moved) :
    moved.1.waiting = (g.without call.id).waiting := by
  refine h.idsAt ?_
  intro stage hs
  cases stage <;> simp_all [Stage.isOwn]

/-- It sends no request for a new token. -/
theorem Onward.refreshCalls (h : Onward g call moved) : Gateway.refreshCalls moved = [] := by
  cases h with
  | @sent stage request hs _ =>
    have hl : (g.suspend call stage).leads call.id = false := by
      unfold leads
      rw [call?_suspend_self]
      cases stage <;> simp_all [Stage.isOwn]
    simp [Gateway.refreshCalls, dispatching, hl]
  | ended result => rfl
  | named user result => rfl

end

/-! ## Refreshes -/

/-- The change that the answer to a request for a new token makes. -/
def refreshChange (answer : Except String Response) : Change :=
  match refreshedTokens answer with
  | .ok tokens => .setTokens tokens.access tokens.refresh
  | .error _ => .expire

/-- The outcome that the answer to a request for a new token gives. -/
def refreshOutcome (answer : Except String Response) : Outcome :=
  match refreshedTokens answer with
  | .ok tokens => .refreshed tokens.access
  | .error reason => .failed reason

theorem refreshAnswered_eq (g : Gateway σ) (call : Call) (answer : Except String Response) :
    g.refreshAnswered call answer =
      (g.changed (refreshChange answer)).settleLeader call (refreshOutcome answer) := by
  unfold refreshAnswered refreshChange refreshOutcome
  cases refreshedTokens answer <;> rfl

/-- A refresh that is over leaves the gateway idle, with its queue released, and the leading call
goes on. -/
theorem settleLeader_eq (g : Gateway σ) (call : Call) (o : Outcome) :
    g.settleLeader call o =
      (let rest := ({ g with phase := .idle : Gateway σ }.release o).1.proceed call o
       (rest.1, g.queue.map .wake ++ rest.2)) := rfl

section

variable {g : Gateway σ} {call : Call} {token : Option String}

theorem recover_of_refreshing (hp : g.phase = .refreshing) :
    g.recover call token = g.join call := by
  unfold recover
  exact if_pos hp

theorem recover_of_current (hp : g.phase ≠ .refreshing)
    (ht : g.context.session.access = none ∨ token = g.context.session.access) :
    g.recover call token = g.lead call := by
  unfold recover
  rw [if_neg hp]
  cases ha : g.context.session.access with
  | none => rfl
  | some current =>
    obtain hnone | heq := ht
    · rw [ha] at hnone
      cases hnone
    · exact if_pos (heq.trans ha)

theorem recover_of_other {current : String} (hp : g.phase ≠ .refreshing)
    (ha : g.context.session.access = some current) (ht : token ≠ some current) :
    g.recover call token = g.replay call current := by
  unfold recover
  rw [if_neg hp, ha]
  exact if_neg ht

theorem lead_of_some {refresh : String} (hr : g.context.session.refresh = some refresh) :
    g.lead call = { g with phase := .refreshing : Gateway σ }.dispatching call .leading
      (refreshRequest g.config refresh) := by
  unfold Gateway.lead
  simp only [hr]

theorem lead_of_none (hr : g.context.session.refresh = none) :
    g.lead call = ({ g with phase := .refreshing : Gateway σ }.changed .expire).settleLeader call
      (.failed .noRefreshToken) := by
  unfold Gateway.lead
  simp only [hr]

/-- A call that is turned down at its first attempt tries to recover. -/
theorem step_rejected {id : CallId} {response : Response} (hc : g.call? id = some call)
    (hs : call.stage = .first token) (h401 : response.status = 401) :
    g.step (.answer id (.ok response)) = g.recover call token := by
  simp only [step, hc, answered, hs, h401, if_true]

end

/-- A failed call changes nothing but that it is over. -/
theorem conclude_error_context (g : Gateway σ) (call : Call) (e : GatewayError) :
    (g.conclude call (.error e)).1.context = g.context := by
  have hl : (g.finishLogin call.id).1.context = g.context := by
    obtain ⟨r, hr⟩ := finishLogin_eq g call.id
    rw [hr]
    rfl
  unfold conclude
  cases call.purpose with
  | send => rfl
  | login email => cases e <;> first | rfl | exact hl

theorem replay_context (g : Gateway σ) (call : Call) (token : String) :
    (g.replay call token).1.context = g.context := by
  unfold replay
  split
  · rfl
  · exact conclude_error_context g call _

theorem proceed_context (g : Gateway σ) (call : Call) (o : Outcome) :
    (g.proceed call o).1.context = g.context := by
  cases o with
  | refreshed token => exact replay_context g call token
  | failed reason => exact conclude_error_context g call _

theorem settleLeader_context (g : Gateway σ) (call : Call) (o : Outcome) :
    (g.settleLeader call o).1.context = g.context := by
  rw [settleLeader_eq]
  exact proceed_context _ call o

theorem settleLeader_queue (g : Gateway σ) (call : Call) (o : Outcome) :
    (g.settleLeader call o).1.queue = [] := by
  rw [settleLeader_eq]
  exact (proceed_onward _ call o).queue

omit [KeyStore σ] in
theorem wokenBy_wakes (ids : List CallId) (effects : List Effect) :
    wokenBy (ids.map .wake ++ effects) = ids ++ wokenBy effects := by
  unfold wokenBy
  rw [List.filterMap_append]
  simp [List.filterMap_map]

theorem settleLeader_woken (g : Gateway σ) (call : Call) (o : Outcome) :
    wokenBy (g.settleLeader call o).2 = g.queue := by
  rw [settleLeader_eq]
  simp only [wokenBy_wakes, (proceed_onward _ call o).woken, List.append_nil]

/-! ## Signing in -/

/-- What goes wrong with a sign-in that is not turned down, by the answer to it. -/
inductive SignInFault : Except String Response → GatewayError → Prop
  /-- No answer arrived. -/
  | transport (text : String) : SignInFault (.error text) (.transport text)
  /-- The answer is neither a success nor a refusal. -/
  | http {response : Response} :
    response.isSuccess = false → response.status ≠ 400 → response.status ≠ 401 →
    SignInFault (.ok response) (.http response.status response.body)
  /-- The answer is a success that holds no token pair. -/
  | decode {response : Response} :
    response.isSuccess = true → TokenPair.codec.decode? response.body = none →
    SignInFault (.ok response) .decode

theorem SignInFault.tokenPair?_eq_none {answer : Except String Response} {error : GatewayError}
    (h : SignInFault answer error) : tokenPair? answer = none := by
  cases h with
  | transport text => rfl
  | http hs _ h401 => simp [tokenPair?, finalResult, Response.result, hs, h401]
  | decode hs hd => simp [tokenPair?, finalResult, Response.result, hs, hd]

/-- What the answer to the request for a token pair comes to. -/
inductive Exchanged (g : Gateway σ) (call : Call) (email : String)
    (answer : Except String Response) : Moved σ → Prop
  /-- The sign-in is turned down. -/
  | turnedDown {response : Response} :
    tokenPair? answer = none → answer = .ok response →
    response.status = 400 ∨ response.status = 401 →
    Exchanged g call email answer (g.rejected call response.body)
  /-- There is no token pair. -/
  | failed {error : GatewayError} :
    tokenPair? answer = none → isRefusal answer = false → SignInFault answer error →
    Exchanged g call email answer (g.finish call.id (.error error))
  /-- The session stands, but the store has not taken it. -/
  | unstored (tokens : TokenPair) (error : StoreError) :
    tokenPair? answer = some tokens →
    (g.context.apply (.establish tokens.access tokens.refresh (.ofEmail email))).1 = .error error →
    Exchanged g call email answer
      ((g.changed (.establish tokens.access tokens.refresh (.ofEmail email))).finish call.id
        (.error (.storage error)))
  /-- The session stands, and nobody is to be looked up. -/
  | signedIn (tokens : TokenPair) :
    tokenPair? answer = some tokens →
    (g.context.apply (.establish tokens.access tokens.refresh (.ofEmail email))).1 = .ok () →
    profileRequest? g.config = none →
    Exchanged g call email answer
      ((g.changed (.establish tokens.access tokens.refresh (.ofEmail email))).finishLogin call.id)
  /-- The session stands, and the administrator is looked up. -/
  | lookedUp (tokens : TokenPair) {request : Request} :
    tokenPair? answer = some tokens →
    (g.context.apply (.establish tokens.access tokens.refresh (.ofEmail email))).1 = .ok () →
    profileRequest? g.config = some request →
    Exchanged g call email answer
      ((g.changed (.establish tokens.access tokens.refresh (.ofEmail email))).begin
        { call with request })

/-- A change is made whether or not the store takes it. -/
theorem changed_eq (g : Gateway σ) (change : Change) :
    { g with context := (g.context.apply change).2 } = g.changed change := rfl

/-- A sign-in has its token pair. The session stands from then on, even if the store does not take
it. -/
theorem exchangeAnswered_of_tokens (g : Gateway σ) (call : Call) (email : String)
    {response : Response} {tokens : TokenPair} (h : response.result = .ok response)
    (hd : TokenPair.codec.decode? response.body = some tokens) :
    g.exchangeAnswered call email (.ok response) =
      (let change : Change := .establish tokens.access tokens.refresh (.ofEmail email)
       match (g.context.apply change).1 with
       | .error e => (g.changed change).finish call.id (.error (.storage e))
       | .ok _ =>
         match profileRequest? g.config with
         | none => (g.changed change).finishLogin call.id
         | some request => (g.changed change).begin { call with request }) := by
  unfold exchangeAnswered
  simp only [h, hd, ← changed_eq]
  rcases g.context.apply (.establish tokens.access tokens.refresh (.ofEmail email)) with
    ⟨result, context⟩
  cases result <;> rfl

/-- A sign-in is turned down by 401 and by 400. -/
theorem exchangeAnswered_of_refusal (g : Gateway σ) (call : Call) (email : String)
    {response : Response} {body : String}
    (h : response.result = .error (.unauthorized body) ∨
      response.result = .error (.http 400 body)) :
    g.exchangeAnswered call email (.ok response) = g.rejected call body := by
  unfold exchangeAnswered
  obtain h | h := h <;> simp only [h]

/-- Any other status that is no success is the failure of the sign-in. -/
theorem exchangeAnswered_of_fault (g : Gateway σ) (call : Call) (email : String)
    {response : Response} {status : Nat} {body : String}
    (h : response.result = .error (.http status body)) (h400 : status ≠ 400) :
    g.exchangeAnswered call email (.ok response) =
      g.finish call.id (.error (.http status body)) := by
  unfold exchangeAnswered
  simp only [h]
  split
  · rename_i heq
    cases heq
  · rename_i heq
    cases heq
    exact absurd rfl h400
  · rename_i heq
    cases heq
    rfl
  · rename_i heq
    cases heq

theorem exchangeAnswered_exchanged (g : Gateway σ) (call : Call) (email : String)
    (answer : Except String Response) :
    Exchanged g call email answer (g.exchangeAnswered call email answer) := by
  cases answer with
  | error text => exact .failed rfl rfl (.transport text)
  | ok response =>
    have hnone : ∀ {error}, response.result = .error error → tokenPair? (.ok response) = none := by
      intro error h
      simp only [tokenPair?, finalResult, h]
    obtain h | ⟨hs, h⟩ | ⟨hs, h⟩ := response.result_cases
    · cases hd : TokenPair.codec.decode? response.body with
      | none =>
        unfold exchangeAnswered
        simp only [h, hd]
        refine .failed ?_ (isRefusal_of_result_ok h) (.decode (isSuccess_of_result_ok h) hd)
        simp only [tokenPair?, finalResult, h, hd]
      | some tokens =>
        have ht : tokenPair? (.ok response) = some tokens := by
          simp only [tokenPair?, finalResult, h, hd]
        rw [exchangeAnswered_of_tokens g call email h hd]
        simp only
        split
        · exact .unstored tokens _ ht ‹_›
        · split
          · exact .signedIn tokens ht ‹_› ‹_›
          · exact .lookedUp tokens ht ‹_› ‹_›
    · rw [exchangeAnswered_of_refusal g call email (.inl h)]
      exact .turnedDown (hnone h) rfl (.inr hs)
    · by_cases h400 : response.status = 400
      · rw [exchangeAnswered_of_refusal g call email (.inr (h400 ▸ h))]
        exact .turnedDown (hnone h) rfl (.inl h400)
      · rw [exchangeAnswered_of_fault g call email h h400]
        exact .failed (hnone h) (by simp [isRefusal, h400, hs])
          (.http (isSuccess_of_result_error h) h400 hs)

/-! ## Steps -/

omit [KeyStore σ] in
/-- There is no call that the event can happen to. -/
def Ignores (g : Gateway σ) : Event → Prop
  | .send id _ => g.call? id ≠ none
  | .login id _ _ => g.call? id ≠ none
  | .answer id _ => ∀ call, g.call? id = some call →
    call.stage = .queued ∨ ∃ o, call.stage = .released o
  | .resume id => ∀ call o, g.call? id = some call → call.stage ≠ .released o
  | .cancel id => g.call? id = none
  | .change _ => False

omit [KeyStore σ] in
/-- No event that is about a leading call is ignored. -/
theorem Ignores.not_leading {g : Gateway σ} {e : Event} (h : g.Ignores e) {id : CallId} {c : Call}
    (he : e.ended? = some id) (hc : g.call? id = some c) : c.stage ≠ .leading := by
  intro hs
  cases e with
  | answer _ _ =>
    cases he
    obtain hq | ⟨o, hr⟩ := h c hc
    · rw [hs] at hq
      cases hq
    · rw [hs] at hr
      cases hr
  | cancel _ =>
    cases he
    rw [h] at hc
    cases hc
  | _ => cases he

omit [KeyStore σ] in
/-- Nobody goes away who is going on. -/
theorem Ignores.gone {g : Gateway σ} {e : Event} (h : g.Ignores e) {id : CallId}
    (he : e.cancelled? = some id) : g.call? id = none := by
  cases e with
  | cancel _ =>
    cases he
    exact h
  | _ => cases he

/-- The transitions of a gateway: what an event comes to, and when. -/
inductive Transition (g : Gateway σ) : Event → Moved σ → Prop
  /-- The event is about no call that it can happen to. -/
  | ignored {e : Event} : g.Ignores e → Transition g e (g, [])
  /-- A call begins. -/
  | began {id : CallId} {request : Request} :
    g.call? id = none → Transition g (.send id request) (g.begin ⟨id, .send, request, .bare⟩)
  /-- A sign-in begins. -/
  | signingIn {id : CallId} {email password : String} :
    g.call? id = none →
    Transition g (.login id email password)
      (g.dispatching ⟨id, .login email, loginRequest g.config email password, .exchange⟩ .exchange
        (loginRequest g.config email password))
  /-- The request for a token pair is answered. -/
  | exchanged {id : CallId} {call : Call} {email : String} {answer : Except String Response} :
    g.call? id = some call → call.stage = .exchange → call.purpose = .login email →
    Transition g (.answer id answer) (g.exchangeAnswered call email answer)
  /-- The answer is final. -/
  | concluded {id : CallId} {call : Call} {answer : Except String Response} :
    g.call? id = some call → call.stage.isOwn = true →
    (∀ token, call.stage = .first token → ∀ response, answer = .ok response →
      response.status ≠ 401) →
    Transition g (.answer id answer) (g.conclude call (finalResult answer))
  /-- The call is turned down while a refresh is going on. -/
  | joined {id : CallId} {call : Call} {token : Option String} {response : Response} :
    g.call? id = some call → call.stage = .first token → response.status = 401 →
    g.phase = .refreshing →
    Transition g (.answer id (.ok response)) (g.join call)
  /-- The call is turned down, and the session holds another token by now. -/
  | overtaken {id : CallId} {call : Call} {token : Option String} {response : Response}
      {current : String} :
    g.call? id = some call → call.stage = .first token → response.status = 401 →
    g.phase ≠ .refreshing → g.context.session.access = some current → token ≠ some current →
    Transition g (.answer id (.ok response)) (g.replay call current)
  /-- The call is turned down and leads a refresh. -/
  | led {id : CallId} {call : Call} {token : Option String} {response : Response}
      {refresh : String} :
    g.call? id = some call → call.stage = .first token → response.status = 401 →
    g.phase ≠ .refreshing →
    g.context.session.access = none ∨ token = g.context.session.access →
    g.context.session.refresh = some refresh →
    Transition g (.answer id (.ok response))
      ({ g with phase := .refreshing : Gateway σ }.dispatching call .leading
        (refreshRequest g.config refresh))
  /-- The call is turned down and there is no refresh token. -/
  | stranded {id : CallId} {call : Call} {token : Option String} {response : Response} :
    g.call? id = some call → call.stage = .first token → response.status = 401 →
    g.phase ≠ .refreshing →
    g.context.session.access = none ∨ token = g.context.session.access →
    g.context.session.refresh = none →
    Transition g (.answer id (.ok response))
      (({ g with phase := .refreshing : Gateway σ }.changed .expire).settleLeader call
        (.failed .noRefreshToken))
  /-- The request for a new token is answered. -/
  | settled {id : CallId} {call : Call} {answer : Except String Response} :
    g.call? id = some call → call.stage = .leading →
    Transition g (.answer id answer)
      ((g.changed (refreshChange answer)).settleLeader call (refreshOutcome answer))
  /-- A call of the queue goes on with the outcome that it was told. -/
  | resumed {id : CallId} {call : Call} {outcome : Outcome} :
    g.call? id = some call → call.stage = .released outcome →
    Transition g (.resume id) (g.proceed call outcome)
  /-- The leading call goes away. -/
  | abandoned {id : CallId} {call : Call} :
    g.call? id = some call → call.stage = .leading →
    Transition g (.cancel id)
      ({ g.without id with phase := .idle : Gateway σ }.release (.failed .abandoned))
  /-- A waiting call goes away. -/
  | left {id : CallId} {call : Call} :
    g.call? id = some call → call.stage = .queued →
    Transition g (.cancel id)
      ({ g.without id with queue := g.queue.filter (· ≠ id) : Gateway σ }, [])
  /-- Any other call goes away. -/
  | dropped {id : CallId} {call : Call} :
    g.call? id = some call → call.stage ≠ .leading → call.stage ≠ .queued →
    Transition g (.cancel id) (g.without id, [])
  /-- The session is changed from outside. -/
  | changed (change : Change) : Transition g (.change change) (g.changed change, [])

theorem recover_transition {g : Gateway σ} {id : CallId} {call : Call} {token : Option String}
    {response : Response} (hc : g.call? id = some call) (hs : call.stage = .first token)
    (h401 : response.status = 401) :
    Transition g (.answer id (.ok response)) (g.recover call token) := by
  by_cases hp : g.phase = .refreshing
  · rw [recover_of_refreshing hp]
    exact .joined hc hs h401 hp
  · by_cases ht : g.context.session.access = none ∨ token = g.context.session.access
    · rw [recover_of_current hp ht]
      cases hr : g.context.session.refresh with
      | some refresh =>
        rw [lead_of_some hr]
        exact .led hc hs h401 hp ht hr
      | none =>
        rw [lead_of_none hr]
        exact .stranded hc hs h401 hp ht hr
    · obtain ⟨hsome, hne⟩ := not_or.1 ht
      obtain ⟨current, ha⟩ := Option.ne_none_iff_exists'.1 hsome
      rw [ha] at hne
      rw [recover_of_other hp ha hne]
      exact .overtaken hc hs h401 hp ha hne

theorem answered_transition {g : Gateway σ} {id : CallId} {call : Call}
    (hc : g.call? id = some call) (answer : Except String Response) :
    Transition g (.answer id answer) (g.answered call answer) := by
  unfold answered
  cases hs : call.stage with
  | exchange =>
    simp only
    cases hp : call.purpose with
    | login email => exact .exchanged hc hs hp
    | send => exact .concluded hc (by rw [hs]; rfl) (by simp [hs])
  | bare => exact .concluded hc (by rw [hs]; rfl) (by simp [hs])
  | second => exact .concluded hc (by rw [hs]; rfl) (by simp [hs])
  | first token =>
    cases answer with
    | error text => exact .concluded hc (by rw [hs]; rfl) (by simp)
    | ok response =>
      simp only
      split_ifs with h401
      · exact recover_transition hc hs h401
      · refine .concluded hc (by rw [hs]; rfl) ?_
        rintro _ _ _ ⟨⟩
        exact h401
  | leading =>
    simp only [refreshAnswered_eq]
    exact .settled hc hs
  | queued =>
    refine .ignored ?_
    intro c h
    rw [hc] at h
    cases h
    exact .inl hs
  | released o =>
    refine .ignored ?_
    intro c h
    rw [hc] at h
    cases h
    exact .inr ⟨o, hs⟩

theorem cancelled_transition {g : Gateway σ} {id : CallId} {call : Call}
    (hc : g.call? id = some call) : Transition g (.cancel id) (g.cancelled call) := by
  have hid : call.id = id := call?_id hc
  unfold cancelled
  rw [hid]
  cases hs : call.stage with
  | leading => exact .abandoned hc hs
  | queued => exact .left hc hs
  | exchange => exact .dropped hc (by rw [hs]; simp) (by rw [hs]; simp)
  | bare => exact .dropped hc (by rw [hs]; simp) (by rw [hs]; simp)
  | first token => exact .dropped hc (by rw [hs]; simp) (by rw [hs]; simp)
  | released o => exact .dropped hc (by rw [hs]; simp) (by rw [hs]; simp)
  | second => exact .dropped hc (by rw [hs]; simp) (by rw [hs]; simp)

/-- Every step is one of the transitions. -/
theorem step_transition (g : Gateway σ) (e : Event) : Transition g e (g.step e) := by
  cases e with
  | send id request =>
    simp only [step]
    split_ifs with h
    · exact .ignored (by simpa [Ignores, Option.isSome_iff_ne_none] using h)
    · exact .began (by simpa using h)
  | login id email password =>
    simp only [step]
    split_ifs with h
    · exact .ignored (by simpa [Ignores, Option.isSome_iff_ne_none] using h)
    · exact .signingIn (by simpa using h)
  | answer id answer =>
    simp only [step]
    cases hc : g.call? id with
    | none => exact .ignored (by simp [Ignores, hc])
    | some call => exact answered_transition hc answer
  | resume id =>
    simp only [step]
    cases hc : g.call? id with
    | none => exact .ignored (by simp [Ignores, hc])
    | some call =>
      simp only
      split
      · rename_i outcome hs
        exact .resumed hc hs
      · rename_i hs
        refine .ignored ?_
        intro c o h
        rw [hc] at h
        cases h
        exact hs o
  | cancel id =>
    simp only [step]
    cases hc : g.call? id with
    | none => exact .ignored hc
    | some call => exact cancelled_transition hc
  | change change => exact .changed change

end Gateway

end AccessConsole
