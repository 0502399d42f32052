import AccessConsole.Proofs.Gateway.Transition

/-!
# What a step does to the session

A step changes the session once at most, and which change it makes depends only on the event, the
call that it is about, and whether a refresh could begin.

* `lookedUp?` — the change that the lookup of an administrator makes.
* `Gateway.change?` — the change that an event makes.
* `Writes`, `change?_cases` — where a change comes from.
* `step_context` — the session after a step is the session before it with that change.
-/

namespace AccessConsole

/-! ## Contexts after a change -/

/-- Nothing is left of a session that a change ends. -/
theorem Change.session_of_ends {change : Change} (h : change.ends = true) (s : Session) :
    change.session s = {} := by
  cases change <;> first | rfl | cases h

section

variable {σ : Type} [KeyStore σ]

namespace SessionContext

theorem after_session (context : SessionContext σ) (change : Change) :
    (context.after change).session = change.session context.session := by
  unfold after apply
  split_ifs <;> rfl

theorem after_status (context : SessionContext σ) (change : Change) :
    (context.after change).status = change.status?.getD context.status := by
  unfold after apply
  split_ifs <;> rfl

/-- The context after a change, or as it was where there is none. -/
def edited (context : SessionContext σ) : Option Change → SessionContext σ
  | some change => context.after change
  | none => context

end SessionContext

theorem Gateway.changed_session (g : Gateway σ) (change : Change) :
    (g.changed change).context.session = change.session g.context.session :=
  g.context.after_session change

end

/-! ## Answers -/

/-- The request was turned down for want of credentials. -/
def isRejection : Except String Response → Bool
  | .ok response => response.status = 401
  | .error _ => false

/-- The change that the answer to a sign-in makes. -/
def exchangeChange? (email : String) (answer : Except String Response) : Option Change :=
  match tokenPair? answer with
  | some tokens => some (.establish tokens.access tokens.refresh (.ofEmail email))
  | none => if isRefusal answer then some .expire else none

/-- The change that the result of a request makes. Only looking up the administrator makes one. -/
def lookedUp? : Purpose → CallResult → Option Change
  | .login email, .ok response =>
    (Profile.codec.decode? response.body).map fun profile => .setUser (profile.user email)
  | _, _ => none

namespace Gateway

variable {σ : Type}

/-- A call that went out with a token and is turned down leads a refresh that cannot begin. -/
def Strands (g : Gateway σ) (token : Option String) (answer : Except String Response) : Prop :=
  isRejection answer = true ∧ g.phase ≠ .refreshing ∧
    (g.context.session.access = none ∨ token = g.context.session.access) ∧
    g.context.session.refresh = none

instance (g : Gateway σ) (token : Option String) (answer : Except String Response) :
    Decidable (g.Strands token answer) := by
  unfold Strands
  infer_instance

/-- The change that the answer to a request of a call makes. -/
def answerChange? (g : Gateway σ) (call : Call) (answer : Except String Response) : Option Change :=
  match call.stage with
  | .exchange =>
    match call.purpose with
    | .login email => exchangeChange? email answer
    | .send => none
  | .first token =>
    if g.Strands token answer then some .expire else lookedUp? call.purpose (finalResult answer)
  | .leading => some (refreshChange answer)
  | .bare => lookedUp? call.purpose (finalResult answer)
  | .second => lookedUp? call.purpose (finalResult answer)
  | .queued => none
  | .released _ => none

/-- The change that an event makes to the session. -/
def change? (g : Gateway σ) : Event → Option Change
  | .answer id answer => (g.call? id).bind fun call => g.answerChange? call answer
  | .change change => some change
  | _ => none

theorem change?_answer {g : Gateway σ} {id : CallId} {call : Call} (hc : g.call? id = some call)
    (answer : Except String Response) :
    g.change? (.answer id answer) = g.answerChange? call answer := by
  simp only [change?, hc, Option.bind_some]

/-- How the answer to a request of a call makes a change. -/
inductive Writes (call : Call) (answer : Except String Response) : Change → Prop
  /-- The refresh that the call leads is over. -/
  | refreshed : call.stage = .leading → Writes call answer (refreshChange answer)
  /-- The sign-in is turned down, or a refresh could not begin. -/
  | ended : Writes call answer .expire
  /-- The sign-in has its tokens. -/
  | signedIn {email : String} {tokens : TokenPair} :
    call.stage = .exchange → call.purpose = .login email → tokenPair? answer = some tokens →
    Writes call answer (.establish tokens.access tokens.refresh (.ofEmail email))
  /-- The administrator who signed in is known. -/
  | named {email : String} (user : CurrentUser) :
    call.stage ≠ .exchange → call.purpose = .login email → Writes call answer (.setUser user)

/-- A refresh sets tokens or ends the session. -/
theorem refreshChange_cases (answer : Except String Response) :
    (∃ access refresh, refreshChange answer = .setTokens access refresh) ∨
      refreshChange answer = .expire := by
  unfold refreshChange
  cases refreshedTokens answer with
  | ok tokens => exact .inl ⟨_, _, rfl⟩
  | error _ => exact .inr rfl

/-- A refresh that hands out a token sets it. -/
theorem refreshChange_of_refreshed {answer : Except String Response} {token : String}
    (h : refreshOutcome answer = .refreshed token) :
    ∃ refresh, refreshChange answer = .setTokens token refresh := by
  unfold refreshOutcome at h
  unfold refreshChange
  cases ht : refreshedTokens answer with
  | ok tokens =>
    simp only [ht, Outcome.refreshed.injEq] at h
    exact ⟨tokens.refresh, by rw [← h]⟩
  | error _ => simp [ht] at h

/-- A refresh that fails ends the session. -/
theorem refreshChange_of_failed {answer : Except String Response} {reason : AuthFailure}
    (h : refreshOutcome answer = .failed reason) : refreshChange answer = .expire := by
  unfold refreshOutcome at h
  unfold refreshChange
  cases ht : refreshedTokens answer with
  | ok tokens => simp [ht] at h
  | error _ => rfl

/-- No answer signs anybody out. -/
theorem Writes.ne_clear {call : Call} {answer : Except String Response} {change : Change}
    (h : Writes call answer change) : change ≠ .clear := by
  cases h with
  | refreshed _ =>
    obtain ⟨_, _, hr⟩ | hr := refreshChange_cases answer <;> simp [hr]
  | _ => simp

/-- Only a refresh sets tokens. -/
theorem Writes.stage_of_setTokens {call : Call} {answer : Except String Response} {change : Change}
    (h : Writes call answer change) {access : String} {refresh : Option String}
    (hchange : change = .setTokens access refresh) : call.stage = .leading := by
  cases h with
  | refreshed hs => exact hs
  | _ => cases hchange

/-- Only a sign-in that has its tokens tells who signed in. -/
theorem Writes.login_of_setUser {call : Call} {answer : Except String Response} {change : Change}
    (h : Writes call answer change) {user : CurrentUser} (hchange : change = .setUser user) :
    (∃ email, call.purpose = .login email) ∧ call.stage ≠ .exchange := by
  cases h with
  | refreshed _ => obtain ⟨_, _, hr⟩ | hr := refreshChange_cases answer <;> simp [hr] at hchange
  | named _ hs hp => exact ⟨⟨_, hp⟩, hs⟩
  | _ => cases hchange

theorem lookedUp?_writes {call : Call} {answer : Except String Response} {result : CallResult}
    {change : Change} (hs : call.stage ≠ .exchange)
    (h : lookedUp? call.purpose result = some change) : Writes call answer change := by
  cases hp : call.purpose with
  | send =>
    rw [hp] at h
    cases h
  | login email =>
    rw [hp] at h
    cases result with
    | error e => cases h
    | ok response =>
      obtain ⟨profile, -, rfl⟩ := Option.map_eq_some_iff.1 h
      exact .named _ hs hp

theorem exchangeChange?_writes {call : Call} {email : String} {answer : Except String Response}
    {change : Change} (hs : call.stage = .exchange) (hp : call.purpose = .login email)
    (h : exchangeChange? email answer = some change) : Writes call answer change := by
  unfold exchangeChange? at h
  split at h
  · rename_i tokens htokens
    cases h
    exact .signedIn hs hp htokens
  · split_ifs at h
    cases h
    exact .ended

theorem answerChange?_writes {g : Gateway σ} {call : Call} {answer : Except String Response}
    {change : Change} (h : g.answerChange? call answer = some change) :
    Writes call answer change := by
  unfold answerChange? at h
  cases hs : call.stage with
  | exchange =>
    simp only [hs] at h
    cases hp : call.purpose with
    | login email =>
      simp only [hp] at h
      exact exchangeChange?_writes hs hp h
    | send =>
      simp only [hp] at h
      cases h
  | first token =>
    simp only [hs] at h
    split_ifs at h
    · cases h
      exact .ended
    · exact lookedUp?_writes (by rw [hs]; simp) h
  | leading =>
    simp only [hs] at h
    cases h
    exact .refreshed hs
  | bare =>
    simp only [hs] at h
    exact lookedUp?_writes (by rw [hs]; simp) h
  | second =>
    simp only [hs] at h
    exact lookedUp?_writes (by rw [hs]; simp) h
  | queued =>
    simp only [hs] at h
    cases h
  | released o =>
    simp only [hs] at h
    cases h

/-- A change comes from outside, or it is made by the answer to a request of a call. -/
theorem change?_cases {g : Gateway σ} {e : Event} {change : Change}
    (h : g.change? e = some change) :
    e = .change change ∨ ∃ id answer call, e = .answer id answer ∧ g.call? id = some call ∧
      Writes call answer change := by
  cases e with
  | answer id answer =>
    obtain ⟨call, hc, hw⟩ := Option.bind_eq_some_iff.1 h
    exact .inr ⟨id, answer, call, rfl, hc, answerChange?_writes hw⟩
  | change c =>
    cases h
    exact .inl rfl
  | _ => cases h

theorem lookedUp?_error (purpose : Purpose) (e : GatewayError) :
    lookedUp? purpose (.error e) = none := by
  cases purpose <;> rfl

theorem finalResult_of_rejection {response : Response} (h401 : response.status = 401) :
    finalResult (.ok response) = .error (.unauthorized response.body) := by
  simp [finalResult, Response.result, Response.isSuccess, h401]

/-! ## Steps -/

variable [KeyStore σ]

omit [KeyStore σ] in
theorem finishLogin_context (g : Gateway σ) (id : CallId) :
    (g.finishLogin id).1.context = g.context := by
  obtain ⟨r, hr⟩ := finishLogin_eq g id
  rw [hr]
  rfl

theorem conclude_context (g : Gateway σ) (call : Call) (result : CallResult) :
    (g.conclude call result).1.context = g.context.edited (lookedUp? call.purpose result) := by
  cases result with
  | error e =>
    rw [conclude_error_context, lookedUp?_error]
    rfl
  | ok response =>
    unfold conclude
    cases call.purpose with
    | send => rfl
    | login email =>
      simp only [lookedUp?]
      cases Profile.codec.decode? response.body with
      | none => exact finishLogin_context g call.id
      | some profile => exact finishLogin_context _ call.id

theorem begin_context (g : Gateway σ) (call : Call) : (g.begin call).1.context = g.context := by
  unfold begin
  split_ifs
  · rfl
  · split
    · rfl
    · split
      · rfl
      · exact conclude_error_context g call _

theorem exchangeAnswered_context (g : Gateway σ) (call : Call) (email : String)
    (answer : Except String Response) :
    (g.exchangeAnswered call email answer).1.context =
      g.context.edited (exchangeChange? email answer) := by
  have hx := exchangeAnswered_exchanged g call email answer
  unfold exchangeChange?
  generalize g.exchangeAnswered call email answer = moved at hx ⊢
  cases hx with
  | turnedDown hnone hanswer hs =>
    have hrefusal : isRefusal answer = true := by simp [hanswer, isRefusal, hs]
    rw [hnone, hrefusal]
    rfl
  | failed hnone hrefusal _ =>
    rw [hnone, hrefusal]
    rfl
  | unstored tokens _ htokens _ =>
    rw [htokens]
    rfl
  | signedIn tokens htokens _ _ =>
    rw [htokens]
    exact finishLogin_context _ call.id
  | lookedUp tokens htokens _ _ =>
    rw [htokens]
    exact begin_context _ _

omit [KeyStore σ] in
theorem Ignores.change? {g : Gateway σ} {e : Event} (h : g.Ignores e) : g.change? e = none := by
  cases e with
  | answer id answer =>
    cases hc : g.call? id with
    | none => simp only [Gateway.change?, hc, Option.bind_none]
    | some call =>
      rw [change?_answer hc]
      obtain hs | ⟨o, hs⟩ := h call hc
      · simp only [answerChange?, hs]
      · simp only [answerChange?, hs]
  | change change => exact h.elim
  | _ => rfl

omit [KeyStore σ] in
/-- A call that is turned down makes no change, unless it leads a refresh that cannot begin. -/
theorem change?_rejected {g : Gateway σ} {id : CallId} {call : Call} {token : Option String}
    {response : Response} (hc : g.call? id = some call) (hs : call.stage = .first token)
    (h401 : response.status = 401) :
    g.change? (.answer id (.ok response)) =
      if g.Strands token (.ok response) then some .expire else none := by
  rw [change?_answer hc]
  simp only [answerChange?, hs, finalResult_of_rejection h401, lookedUp?_error]

/-- The session after the answer to a sign-in, which is given by its own function. -/
theorem step_exchange_context {g : Gateway σ} {id : CallId} {call : Call}
    (hc : g.call? id = some call) (hs : call.stage = .exchange) (answer : Except String Response) :
    (g.step (.answer id answer)).1.context = g.context.edited (g.change? (.answer id answer)) := by
  rw [change?_answer hc]
  simp only [step, hc, answered, answerChange?, hs]
  cases hp : call.purpose with
  | login email => exact exchangeAnswered_context g call email answer
  | send =>
    simp only [conclude_context, hp]
    rfl

/-- The session after a transition, but for the answer to a sign-in. -/
theorem Transition.context {g : Gateway σ} {e : Event} {moved : Moved σ} (h : Transition g e moved)
    (hx : ∀ id answer call, e = .answer id answer → g.call? id = some call →
      call.stage ≠ .exchange) :
    moved.1.context = g.context.edited (g.change? e) := by
  cases h with
  | ignored h =>
    rw [h.change?]
    rfl
  | began hc => exact begin_context _ _
  | signingIn hc => rfl
  | exchanged hc hs hp => exact absurd hs (hx _ _ _ rfl hc)
  | @concluded id call answer hc hs hr =>
    rw [change?_answer hc, conclude_context]
    congr 1
    cases hstage : call.stage with
    | exchange => exact absurd hstage (hx _ _ _ rfl hc)
    | first token =>
      have hno : ¬g.Strands token answer := by
        rintro ⟨hrej, -⟩
        cases answer with
        | error text => cases hrej
        | ok response => exact hr token hstage response rfl (by simpa [isRejection] using hrej)
      simp only [answerChange?, hstage, if_neg hno]
    | bare => simp only [answerChange?, hstage]
    | second => simp only [answerChange?, hstage]
    | leading =>
      rw [hstage] at hs
      cases hs
    | queued =>
      rw [hstage] at hs
      cases hs
    | released o =>
      rw [hstage] at hs
      cases hs
  | joined hc hs h401 hp =>
    rw [change?_rejected hc hs h401, if_neg fun h => h.2.1 hp]
    rfl
  | overtaken hc hs h401 hp ha ht =>
    rw [change?_rejected hc hs h401, replay_context, if_neg]
    · rfl
    · rintro ⟨-, -, hnone | heq, -⟩
      · rw [ha] at hnone
        cases hnone
      · exact ht (heq.trans ha)
  | led hc hs h401 hp ht hr =>
    rw [change?_rejected hc hs h401, if_neg]
    · rfl
    · rintro ⟨-, -, -, hnone⟩
      rw [hr] at hnone
      cases hnone
  | stranded hc hs h401 hp ht hr =>
    rw [change?_rejected hc hs h401, settleLeader_context,
      if_pos ⟨by simp [isRejection, h401], hp, ht, hr⟩]
    rfl
  | settled hc hs =>
    rw [change?_answer hc, settleLeader_context]
    simp only [answerChange?, hs]
    rfl
  | resumed hc hs => exact proceed_context _ _ _
  | abandoned hc hs => rfl
  | left hc hs => rfl
  | dropped hc hl hq => rfl
  | changed change => rfl

/-- The session after a step is the session before it with the change of the event. -/
theorem step_context (g : Gateway σ) (e : Event) :
    (g.step e).1.context = g.context.edited (g.change? e) := by
  by_cases hx : ∃ id answer call, e = .answer id answer ∧ g.call? id = some call ∧
      call.stage = .exchange
  · obtain ⟨id, answer, call, rfl, hc, hs⟩ := hx
    exact step_exchange_context hc hs answer
  · refine (step_transition g e).context ?_
    intro id answer call he hc hs
    exact hx ⟨id, answer, call, he, hc, hs⟩

/-- The session after a refresh. -/
theorem step_refreshed_context {g : Gateway σ} {id : CallId} {c : Call} (hc : g.call? id = some c)
    (hs : c.stage = .leading) (answer : Except String Response) :
    (g.step (.answer id answer)).1.context = g.context.after (refreshChange answer) := by
  rw [step_context, change?_answer hc]
  simp only [answerChange?, hs]
  rfl

end Gateway

end AccessConsole
