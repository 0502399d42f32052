import AccessConsole.Gateway.Credentials
import AccessConsole.Session.Context

/-!
# The gateway

The gateway sends API calls with the access token of the session. When a token has expired, one
call gets a new one while the others wait, and then each is sent once more.

The gateway is a machine that moves in steps. Between two steps each call that is going on is
suspended at a `Stage`: its request is on the way, or it waits for the refresh of another call.

The names in parentheses are those that the program has for what is defined here.

* `Gateway` — configuration, session, the phase of the refresh, its queue, and the calls.
* `Event`, `Effect` — what can happen to the gateway, and what it wants done.
* `Gateway.step` — the gateway after an event, and the effects in order.

Rules of the refresh:

* A call that is answered 401 takes the lead if no refresh is going on and the session still holds
  the token that the call went out with, or none. It joins the queue while a refresh is going on.
  If the session holds another token by now, the call is sent again with that one.
* When the refresh is over, the queue is released in order, all with the same outcome.
* A call is sent again once at most. A second 401 is the result of the call.
* If the leading call goes away, the queue is released with `AuthFailure.abandoned`.
-/

namespace AccessConsole

/-- The number of a call. -/
abbrev CallId := Nat

/-- The phase of the refresh (`RefreshPhase`). -/
inductive Phase
  | idle
  | refreshing
  /-- The refresh is over and its queue is being released. -/
  | draining
  deriving DecidableEq, Repr

/-- How a refresh ended (`RefreshOutcome`). -/
inductive Outcome
  | refreshed (token : String)
  | failed (reason : AuthFailure)
  deriving DecidableEq, Repr

/-- What a call is for. -/
inductive Purpose
  /-- The answer goes to the caller. -/
  | send
  /-- Somebody signs in with this email. -/
  | login (email : String)
  deriving DecidableEq, Repr

/-- Where a call is suspended. -/
inductive Stage
  /-- The request for a token pair is on the way. -/
  | exchange
  /-- The request is on the way without credentials, and its answer is final. -/
  | bare
  /-- The request is on the way for the first time, with the token given. -/
  | first (token : Option String)
  /-- The call leads a refresh, and the request for a new token is on the way. -/
  | leading
  /-- The call waits for a refresh. -/
  | queued
  /-- The refresh is over and the call may go on. -/
  | released (outcome : Outcome)
  /-- The request is on the way for the second time. -/
  | second
  deriving DecidableEq, Repr

/-- A call that is going on. Its request is kept as it was given. -/
structure Call where
  id : CallId
  purpose : Purpose
  request : Request
  stage : Stage
  deriving Repr

/-- What a call gives when it succeeds: an answer, or the session of a sign-in. -/
inductive Reply
  | response (r : Response)
  | session (s : Session)
  deriving DecidableEq, Repr

/-- What the gateway wants done. -/
inductive Effect
  /-- A request is to be sent for a call. -/
  | dispatch (id : CallId) (request : Request)
  /-- A call of the queue may go on. -/
  | wake (id : CallId)
  /-- A call is over. -/
  | finish (id : CallId) (result : Except GatewayError Reply)

/-- What can happen to the gateway. -/
inductive Event
  /-- A call begins. -/
  | send (id : CallId) (request : Request)
  /-- A sign-in begins. -/
  | login (id : CallId) (email password : String)
  /-- The request of a call was answered, or no answer arrived. -/
  | answer (id : CallId) (result : Except String Response)
  /-- A call of the queue goes on. -/
  | resume (id : CallId)
  /-- A call goes away. -/
  | cancel (id : CallId)
  /-- The session is changed from outside; a sign-out is the change `Change.clear`. -/
  | change (change : Change)

/-- A gateway with its session (`Gateway` with its `RefreshState`). The queue and the calls are in
order of their arrival. -/
structure Gateway (σ : Type) where
  config : Config
  context : SessionContext σ
  phase : Phase := .idle
  queue : List CallId := []
  calls : List Call := []

namespace Gateway

variable {σ : Type}

/-- A gateway after a move, and what it wants done. -/
abbrev Moved (σ : Type) := Gateway σ × List Effect

/-- The call with a number. -/
def call? (g : Gateway σ) (id : CallId) : Option Call := g.calls.find? (·.id = id)

/-- The gateway without a call. -/
def without (g : Gateway σ) (id : CallId) : Gateway σ :=
  { g with calls := g.calls.filter (·.id ≠ id) }

/-- The gateway with a call suspended at a stage. -/
def suspend (g : Gateway σ) (call : Call) (stage : Stage) : Gateway σ :=
  { g with calls := (g.without call.id).calls ++ [{ call with stage }] }

/-- A call is suspended while a request is sent for it. -/
def dispatching (g : Gateway σ) (call : Call) (stage : Stage) (request : Request) : Moved σ :=
  (g.suspend call stage, [.dispatch call.id request])

/-- A call is over. -/
def finish (g : Gateway σ) (id : CallId) (result : Except GatewayError Reply) : Moved σ :=
  (g.without id, [.finish id result])

/-- A sign-in is over (the end of `login`). It has failed if the session ended meanwhile. -/
def finishLogin (g : Gateway σ) (id : CallId) : Moved σ :=
  if g.context.isAuthenticated then g.finish id (.ok (.session g.context.session))
  else g.finish id (.error (.authenticationFailed .endedDuringLogin))

section

variable [KeyStore σ]

/-- The gateway after a change of its session. -/
def changed (g : Gateway σ) (change : Change) : Gateway σ :=
  { g with context := g.context.after change }

/-- A call has its result (`send`, or `load_profile` and what `login` makes of it). Of a sign-in
this is the lookup of the administrator: if it fails, the email is all that is known of them, unless
the lookup ended the session. -/
def conclude (g : Gateway σ) (call : Call) (result : CallResult) : Moved σ :=
  match call.purpose, result with
  | .send, result => g.finish call.id (result.map .response)
  | .login email, .ok response =>
    match Profile.codec.decode? response.body with
    | some profile => (g.changed (.setUser (profile.user email))).finishLogin call.id
    | none => g.finishLogin call.id
  | .login _, .error (.authenticationFailed reason) =>
    g.finish call.id (.error (.authenticationFailed reason))
  | .login _, .error _ => g.finishLogin call.id

/-! ## Sending -/

/-- A call is sent for the first time, with the token of the session if there is one (`send`). A
call to a sign-in endpoint goes out as it is. -/
def begin (g : Gateway σ) (call : Call) : Moved σ :=
  if g.config.isAuthEndpoint call.request.url then g.dispatching call .bare call.request
  else
    match g.context.session.access with
    | none => g.dispatching call (.first none) call.request
    | some token =>
      match call.request.withBearer? token with
      | some request => g.dispatching call (.first (some token)) request
      | none => g.conclude call (.error .invalidHeader)

/-- A call is sent once more, with a new token (`replay`). -/
def replay (g : Gateway σ) (call : Call) (token : String) : Moved σ :=
  match call.request.withBearer? token with
  | some request => g.dispatching call .second request
  | none => g.conclude call (.error .invalidHeader)

/-- A call goes on with the outcome of a refresh (the end of `lead_refresh` and of
`await_refresh`). -/
def proceed (g : Gateway σ) (call : Call) : Outcome → Moved σ
  | .refreshed token => g.replay call token
  | .failed reason => g.conclude call (.error (.authenticationFailed reason))

/-! ## Refreshing -/

omit [KeyStore σ] in
/-- The calls of the queue are released with an outcome, in order (the loop over the queue in
`settle` of `Episode`). -/
def release (g : Gateway σ) (outcome : Outcome) : Moved σ :=
  let calls := g.calls.map fun c =>
    if c.id ∈ g.queue then { c with stage := .released outcome } else c
  ({ g with queue := [], calls }, g.queue.map .wake)

omit [KeyStore σ] in
/-- A refresh is over: the queue is drained and the gateway is idle again (`settle` of
`Episode`). -/
def settle (g : Gateway σ) (outcome : Outcome) : Moved σ :=
  let (g, effects) := release { g with phase := .draining } outcome
  ({ g with phase := if g.phase = .draining then .idle else g.phase }, effects)

/-- The leading call settles its refresh and goes on itself (`lead_refresh` from its `settle`
on). -/
def settleLeader (g : Gateway σ) (call : Call) (outcome : Outcome) : Moved σ :=
  let (g, released) := g.settle outcome
  let (g, effects) := g.proceed call outcome
  (g, released ++ effects)

/-- A call takes the lead (`lead_refresh` and `refresh_access_token` up to the request). Without a
refresh token the session ends at once. -/
def lead (g : Gateway σ) (call : Call) : Moved σ :=
  let g := { g with phase := .refreshing }
  match g.context.session.refresh with
  | some token => g.dispatching call .leading (refreshRequest g.config token)
  | none => (g.changed .expire).settleLeader call (.failed .noRefreshToken)

omit [KeyStore σ] in
/-- A call joins the queue (`recover`, where it pushes a `Waiter`, and `await_refresh`). -/
def join (g : Gateway σ) (call : Call) : Moved σ :=
  ({ g.suspend call .queued with queue := g.queue ++ [call.id] }, [])

/-- A call that went out with the token `sent` was answered 401 (`recover`). -/
def recover (g : Gateway σ) (call : Call) (sent : Option String) : Moved σ :=
  if g.phase = .refreshing then g.join call
  else
    match g.context.session.access with
    | some current => if sent = some current then g.lead call else g.replay call current
    | none => g.lead call

/-- What the answer to a request for a new token comes to (`refresh_access_token`, its reading of
the answer). -/
def refreshedTokens : Except String Response → Except AuthFailure RefreshedTokens
  | .error text => .error (.refreshFailed text)
  | .ok response =>
    if response.isSuccess then
      match RefreshedTokens.codec.decode? response.body with
      | some tokens => .ok tokens
      | none => .error .refreshUnreadable
    else .error (.refreshRejected response.status)

/-- The request for a new token was answered (`refresh_access_token` from the answer on). New tokens
are used even if the store does not take them; a failure ends the session. -/
def refreshAnswered (g : Gateway σ) (call : Call) (answer : Except String Response) : Moved σ :=
  match refreshedTokens answer with
  | .ok tokens =>
    (g.changed (.setTokens tokens.access tokens.refresh)).settleLeader call
      (.refreshed tokens.access)
  | .error reason => (g.changed .expire).settleLeader call (.failed reason)

/-! ## Signing in -/

/-- A sign-in was turned down (the first branch of `login`). This ends whatever session there
was. -/
def rejected (g : Gateway σ) (call : Call) (body : String) : Moved σ :=
  (g.changed .expire).finish call.id
    (.error (.authenticationFailed (.rejected (rejectionDetail? body))))

/-- The request for a token pair was answered (`login` from the first answer on). The administrator
is looked up once the session stands and the store has taken it. -/
def exchangeAnswered (g : Gateway σ) (call : Call) (email : String)
    (answer : Except String Response) : Moved σ :=
  match answer with
  | .error text => g.finish call.id (.error (.transport text))
  | .ok response =>
    match response.result with
    | .error (.unauthorized body) => g.rejected call body
    | .error (.http 400 body) => g.rejected call body
    | .error e => g.finish call.id (.error e)
    | .ok response =>
      match TokenPair.codec.decode? response.body with
      | none => g.finish call.id (.error .decode)
      | some tokens =>
        match g.context.apply (.establish tokens.access tokens.refresh (.ofEmail email)) with
        | (.error e, context) => { g with context }.finish call.id (.error (.storage e))
        | (.ok _, context) =>
          let g := { g with context }
          match profileRequest? g.config with
          | none => g.finishLogin call.id
          | some request => g.begin { call with request }

/-! ## Steps -/

/-- The result of an answer that is final (`dispatch` and `into_result`). -/
def finalResult : Except String Response → CallResult
  | .error text => .error (.transport text)
  | .ok response => response.result

/-- The request of a call was answered. -/
def answered (g : Gateway σ) (call : Call) (answer : Except String Response) : Moved σ :=
  match call.stage with
  | .exchange =>
    match call.purpose with
    | .login email => g.exchangeAnswered call email answer
    | .send => g.conclude call (finalResult answer)
  | .first token =>
    match answer with
    | .error text => g.conclude call (.error (.transport text))
    | .ok response =>
      if response.status = 401 then g.recover call token else g.conclude call response.result
  | .leading => g.refreshAnswered call answer
  | .bare => g.conclude call (finalResult answer)
  | .second => g.conclude call (finalResult answer)
  | .queued => (g, [])
  | .released _ => (g, [])

omit [KeyStore σ] in
/-- A call goes away (`drop` of `Episode` and of `QueuedEntry`). One that waits leaves the queue;
one that leads releases it. -/
def cancelled (g : Gateway σ) (call : Call) : Moved σ :=
  let g := g.without call.id
  match call.stage with
  | .leading => { g with phase := .idle }.release (.failed .abandoned)
  | .queued => ({ g with queue := g.queue.filter (· ≠ call.id) }, [])
  | _ => (g, [])

/-- The gateway after an event, and what it wants done, in order. The number of a call that is
going on cannot be given to another one, and a call that is over is not heard of again. -/
def step (g : Gateway σ) : Event → Moved σ
  | .send id request =>
    if (g.call? id).isSome then (g, []) else g.begin ⟨id, .send, request, .bare⟩
  | .login id email password =>
    if (g.call? id).isSome then (g, [])
    else
      let request := loginRequest g.config email password
      g.dispatching ⟨id, .login email, request, .exchange⟩ .exchange request
  | .answer id result =>
    match g.call? id with
    | some call => g.answered call result
    | none => (g, [])
  | .resume id =>
    match g.call? id with
    | some call =>
      match call.stage with
      | .released outcome => g.proceed call outcome
      | _ => (g, [])
    | none => (g, [])
  | .cancel id =>
    match g.call? id with
    | some call => g.cancelled call
    | none => (g, [])
  | .change change => (g.changed change, [])

end

end Gateway

end AccessConsole
