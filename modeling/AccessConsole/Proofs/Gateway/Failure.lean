import AccessConsole.Proofs.Gateway.Edits
import AccessConsole.Proofs.Gateway.Lifetime
import AccessConsole.Proofs.Gateway.SharedRefresh

/-!
# Why a call has failed

A call that fails with `GatewayError.authenticationFailed` has seen the session expire. Only
`AuthFailure.abandoned` is meant to be different: it leaves the session as it is. But a sign-in may
also fail because somebody has signed out during its lookup, and then nothing clears the session
after the lookup has written the administrator into it.

* `Moment.Expires`, `Moment.Abandons`, `Moment.SignsOutDuring` — what can stand behind such a
  failure.
* `Fails`, `Failing`, `step_fails` — the steps in which a call fails so.
* `Caused`, `Caused.step` — what a run has done to a call that will fail.
* `Caused.fails` — in every run, one of the three has happened while the call was going on.
* `failed_call_saw_session_end` — without a sign-out during the sign-in that fails, the session has
  expired or the refresh was abandoned.
* `failures_without_expiry` — runs in which the session does not expire. After the one with a
  sign-out an administrator is left in the session and in the store.
-/

namespace AccessConsole

variable {σ : Type} [KeyStore σ]

/-! ## Causes -/

/-- The session ends: tokens and user are gone, and somebody has to sign in again. -/
structure Moment.Expires (m : Moment σ) : Prop where
  context : m.after.context = m.before.context.after .expire
  session : m.after.context.session = {}
  status : m.after.context.status = .reauthRequired

omit [KeyStore σ] in
/-- The call that leads the refresh for which a call waits goes away. -/
def Moment.Abandons (id : CallId) (m : Moment σ) : Prop :=
  id ∈ m.before.queue ∧ ∃ leader c, m.event = .cancel leader ∧
    m.before.call? leader = some c ∧ c.stage = .leading

omit [KeyStore σ] in
/-- Somebody signs out while a sign-in has its tokens and looks up the administrator. -/
def Moment.SignsOutDuring (id : CallId) (m : Moment σ) : Prop :=
  m.event = .change .clear ∧ ∃ c email, m.before.call? id = some c ∧ c.purpose = .login email ∧
    c.stage ≠ .exchange

theorem Moment.expires_of_context {m : Moment σ}
    (h : m.after.context = m.before.context.after .expire) : m.Expires := by
  refine ⟨h, ?_, ?_⟩
  · rw [h, SessionContext.after_session]
    rfl
  · rw [h, SessionContext.after_status]
    rfl

namespace Gateway

/-- A session that loses its access token has expired, or somebody has signed out. -/
theorem expires_or_signsOut {g : Gateway σ} {e : Event} (hsome : g.context.session.access ≠ none)
    (hnone : (g.step e).1.context.session.access = none) :
    (Moment.mk g e).Expires ∨ e = .change .clear := by
  have hc : (Moment.mk g e).after.context = g.context.edited (g.change? e) := step_context g e
  cases hchange : g.change? e with
  | none =>
    rw [step_context, hchange] at hnone
    exact absurd hnone hsome
  | some change =>
    rw [hchange] at hc
    rw [step_context, hchange, SessionContext.edited, SessionContext.after_session] at hnone
    cases change with
    | establish access refresh user => cases hnone
    | setTokens access refresh => cases hnone
    | setUser user => exact absurd hnone hsome
    | expire => exact .inl (Moment.expires_of_context hc)
    | clear =>
      obtain he | ⟨_, _, _, -, -, hw⟩ := change?_cases hchange
      · exact .inr he
      · exact absurd rfl hw.ne_clear

/-! ## Steps in which a call fails -/

/-- A call fails for want of a session, for this reason. -/
def Fails (id : CallId) (reason : AuthFailure) (effects : List Effect) : Prop :=
  .finish id (.error (.authenticationFailed reason)) ∈ effects

/-- A sign-in fails because there is no session any more. -/
structure FindsNone (context : SessionContext σ) (call : Call) (reason : AuthFailure) : Prop where
  reason : reason = .endedDuringLogin
  login : ∃ email, call.purpose = .login email
  access : context.session.access = none

omit [KeyStore σ] in
theorem finish_fails {g : Gateway σ} {id i : CallId} {result : Except GatewayError Reply}
    {reason : AuthFailure} (h : Fails id reason (g.finish i result).2) :
    result = .error (.authenticationFailed reason) := by
  have heq := List.mem_singleton.1 h
  injection heq with _ hresult
  exact hresult.symm

omit [KeyStore σ] in
theorem finishLogin_fails {g : Gateway σ} {id i : CallId} {reason : AuthFailure}
    (h : Fails id reason (g.finishLogin i).2) :
    reason = .endedDuringLogin ∧ g.context.session.access = none := by
  unfold finishLogin at h
  split_ifs at h with ha
  · cases finish_fails h
  · cases finish_fails h
    refine ⟨rfl, ?_⟩
    simpa [SessionContext.isAuthenticated] using ha

theorem conclude_fails {g : Gateway σ} {call : Call} {result : CallResult} {id : CallId}
    {reason : AuthFailure} (h : Fails id reason (g.conclude call result).2) :
    result = .error (.authenticationFailed reason) ∨
      FindsNone (g.conclude call result).1.context call reason := by
  unfold conclude at h ⊢
  cases hp : call.purpose with
  | send =>
    simp only [hp] at h
    have hr := finish_fails h
    cases result with
    | ok response => cases hr
    | error e =>
      cases hr
      exact .inl rfl
  | login email =>
    have hlost : ∀ {g : Gateway σ}, Fails id reason (g.finishLogin call.id).2 →
        FindsNone (g.finishLogin call.id).1.context call reason := by
      intro g hf
      obtain ⟨hr, ha⟩ := finishLogin_fails hf
      refine ⟨hr, ⟨email, hp⟩, ?_⟩
      rw [finishLogin_context]
      exact ha
    simp only [hp] at h ⊢
    cases result with
    | ok response =>
      simp only at h ⊢
      cases hd : Profile.codec.decode? response.body with
      | some profile =>
        simp only [hd] at h
        exact .inr (hlost h)
      | none =>
        simp only [hd] at h
        exact .inr (hlost h)
    | error e =>
      cases e with
      | authenticationFailed r =>
        cases finish_fails h
        exact .inl rfl
      | _ => exact .inr (hlost h)

theorem begin_fails {g : Gateway σ} {call : Call} {id : CallId} {reason : AuthFailure}
    (h : Fails id reason (g.begin call).2) : FindsNone g.context call reason := by
  have hsent : ∀ stage request, ¬Fails id reason (g.dispatching call stage request).2 := by
    intro stage request hf
    cases List.mem_singleton.1 hf
  unfold begin at h
  split_ifs at h
  · exact absurd h (hsent _ _)
  · split at h
    · exact absurd h (hsent _ _)
    · split at h
      · exact absurd h (hsent _ _)
      · obtain hr | hf := conclude_fails h
        · cases hr
        · rw [conclude_error_context] at hf
          exact hf

theorem replay_fails {g : Gateway σ} {call : Call} {token : String} {id : CallId}
    {reason : AuthFailure} (h : Fails id reason (g.replay call token).2) :
    FindsNone g.context call reason := by
  unfold replay at h
  split at h
  · cases List.mem_singleton.1 h
  · obtain hr | hf := conclude_fails h
    · cases hr
    · rw [conclude_error_context] at hf
      exact hf

theorem proceed_fails {g : Gateway σ} {call : Call} {o : Outcome} {id : CallId}
    {reason : AuthFailure} (h : Fails id reason (g.proceed call o).2) :
    o = .failed reason ∨ FindsNone g.context call reason := by
  cases o with
  | refreshed token => exact .inr (replay_fails h)
  | failed r =>
    rw [proceed, conclude_failed] at h
    cases finish_fails h
    exact .inl rfl

theorem settleLeader_fails {g : Gateway σ} {call : Call} {o : Outcome} {id : CallId}
    {reason : AuthFailure} (h : Fails id reason (g.settleLeader call o).2) :
    o = .failed reason ∨ FindsNone g.context call reason := by
  rw [settleLeader_eq] at h
  obtain hwake | hf := List.mem_append.1 h
  · obtain ⟨_, -, hw⟩ := List.mem_map.1 hwake
    cases hw
  · obtain ho | hlost := proceed_fails hf
    · exact .inl ho
    · exact .inr ⟨hlost.reason, hlost.login, hlost.access⟩

/-- A sign-in that is answered fails for want of a session only where it is turned down. -/
theorem exchangeAnswered_fails {g : Gateway σ} {call : Call} {email : String}
    {answer : Except String Response} {id : CallId} {reason : AuthFailure}
    (h : Fails id reason (g.exchangeAnswered call email answer).2) :
    (g.exchangeAnswered call email answer).1.context = g.context.after .expire := by
  have hstands : ∀ (tokens : TokenPair),
      (g.changed
        (.establish tokens.access tokens.refresh (.ofEmail email))).context.session.access ≠
        none := by
    intro tokens
    rw [changed_session]
    simp [Change.session]
  generalize hm : g.exchangeAnswered call email answer = moved at h ⊢
  have hx : Exchanged g call email answer moved :=
    hm ▸ exchangeAnswered_exchanged g call email answer
  cases hx with
  | turnedDown _ _ _ => rfl
  | failed _ _ hfault =>
    cases finish_fails h
    cases hfault
  | unstored _ _ _ _ => cases finish_fails h
  | signedIn tokens _ _ _ => exact absurd (finishLogin_fails h).2 (hstands tokens)
  | lookedUp tokens _ _ _ => exact absurd (begin_fails h).access (hstands tokens)

theorem finalResult_ne_failed (answer : Except String Response) (reason : AuthFailure) :
    finalResult answer ≠ .error (.authenticationFailed reason) := by
  cases answer with
  | error text => simp [finalResult]
  | ok response =>
    show response.result ≠ _
    obtain h | ⟨-, h⟩ | ⟨-, h⟩ := response.result_cases <;> simp [h]

/-- What stands behind a failure in the step in which a call fails: the session expires, the call
has been told that its refresh failed, or a sign-in finds that there is no session. -/
inductive Failing (g g' : Gateway σ) (id : CallId) (reason : AuthFailure) : Prop
  | expires : g'.context = g.context.after .expire → Failing g g' id reason
  | told {c : Call} :
    g.call? id = some c → c.stage = .released (.failed reason) → Failing g g' id reason
  | lost {c : Call} :
    g.call? id = some c → c.stage ≠ .exchange → FindsNone g'.context c reason →
    Failing g g' id reason

theorem Transition.fails {g : Gateway σ} {e : Event} {moved : Moved σ} (h : Transition g e moved)
    (hx : ∀ id answer call, e = .answer id answer → g.call? id = some call →
      call.stage ≠ .exchange) {id : CallId} {reason : AuthFailure} (hid : e.subject? = some id)
    (hf : Fails id reason moved.2) : Failing g moved.1 id reason := by
  cases h with
  | began _ =>
    obtain ⟨-, ⟨email, hp⟩, -⟩ := begin_fails hf
    cases hp
  | signingIn _ => cases List.mem_singleton.1 hf
  | exchanged hc hs _ => exact absurd hs (hx _ _ _ rfl hc)
  | concluded hc hs _ =>
    cases hid
    obtain hr | hlost := conclude_fails hf
    · exact absurd hr (finalResult_ne_failed _ _)
    · exact .lost hc (hx _ _ _ rfl hc) hlost
  | overtaken hc hs _ _ ha _ =>
    have hnone := (replay_fails hf).access
    rw [ha] at hnone
    cases hnone
  | led _ _ _ _ _ _ => cases List.mem_singleton.1 hf
  | stranded _ _ _ _ _ _ => exact .expires (settleLeader_context _ _ _)
  | @settled _ call answer hc hs =>
    cases hid
    obtain ho | hlost := settleLeader_fails hf
    · refine .expires ?_
      rw [settleLeader_context, refreshChange_of_failed ho]
      rfl
    · refine .lost hc (by rw [hs]; simp) ?_
      rw [settleLeader_context]
      exact hlost
  | resumed hc hs =>
    cases hid
    obtain rfl | hlost := proceed_fails hf
    · exact .told hc hs
    · refine .lost hc (by rw [hs]; simp) ?_
      rw [proceed_context]
      exact hlost
  | abandoned _ _ =>
    obtain ⟨_, -, hw⟩ := List.mem_map.1 hf
    cases hw
  | _ => exact absurd hf List.not_mem_nil

omit [KeyStore σ] in
theorem mem_resultsFor {id : CallId} {result : Except GatewayError Reply} {effects : List Effect} :
    result ∈ resultsFor id effects ↔ .finish id result ∈ effects := by
  unfold resultsFor
  rw [List.mem_filterMap]
  constructor
  · rintro ⟨effect, hm, he⟩
    cases effect with
    | finish i r =>
      simp only [Option.ite_none_right_eq_some, Option.some.injEq] at he
      obtain ⟨rfl, rfl⟩ := he
      exact hm
    | _ => cases he
  · intro hm
    exact ⟨_, hm, if_pos rfl⟩

theorem step_fails {g : Gateway σ} {e : Event} {id : CallId} {reason : AuthFailure}
    (hf : Fails id reason (g.step e).2) : Failing g (g.step e).1 id reason := by
  have hid : e.subject? = some id := by
    by_contra hne
    have hnone := ((step_control g e).framed hne).results
    have hmem := mem_resultsFor.2 hf
    rw [hnone] at hmem
    exact absurd hmem List.not_mem_nil
  by_cases hx : ∃ id answer call, e = .answer id answer ∧ g.call? id = some call ∧
      call.stage = .exchange
  · obtain ⟨j, answer, call, rfl, hc, hs⟩ := hx
    simp only [step, hc, answered, hs] at hf ⊢
    cases hp : call.purpose with
    | login email =>
      simp only [hp] at hf
      exact .expires (exchangeAnswered_fails hf)
    | send =>
      simp only [hp] at hf
      obtain hr | ⟨-, ⟨email, hlogin⟩, -⟩ := conclude_fails hf
      · exact absurd hr (finalResult_ne_failed _ _)
      · rw [hp] at hlogin
        cases hlogin
  · refine (step_transition g e).fails ?_ hid hf
    intro j answer call he hc hs
    exact hx ⟨j, answer, call, he, hc, hs⟩

/-! ## Runs -/

/-- What a history has done to a call that is going on and may fail: the call is told of a failed
refresh only after the session has expired or its refresh was abandoned, and a sign-in that has its
tokens finds no session only after the session has expired or somebody has signed out meanwhile. -/
structure Caused (id : CallId) (g : Gateway σ) (history : List (Moment σ)) : Prop where
  told : ∀ c reason, g.call? id = some c → c.stage = .released (.failed reason) →
    (∃ m ∈ history, m.Expires) ∨ (reason = .abandoned ∧ ∃ m ∈ history, m.Abandons id)
  lost : ∀ c email, g.call? id = some c → c.purpose = .login email → c.stage ≠ .exchange →
    g.context.session.access = none → ∃ m ∈ history, m.Expires ∨ m.SignsOutDuring id

theorem caused_of_none {id : CallId} {g : Gateway σ} (hc : g.call? id = none) : Caused id g [] := by
  refine ⟨?_, ?_⟩
  · intro c reason h
    rw [hc] at h
    cases h
  · intro c email h
    rw [hc] at h
    cases h

/-- A refresh that is settled with a failure ends the session. -/
theorem expires_of_settled {g : Gateway σ} {leader : CallId} {c : Call}
    {answer : Except String Response} {reason : AuthFailure} (hc : g.call? leader = some c)
    (hs : c.stage = .leading) (ho : refreshOutcome answer = .failed reason) :
    (Moment.mk g (.answer leader answer)).Expires := by
  refine Moment.expires_of_context ((step_refreshed_context hc hs answer).trans ?_)
  rw [refreshChange_of_failed ho]

/-- A sign-in that has its tokens loses the session. -/
theorem lost_by_step {g : Gateway σ} {id : CallId} {c : Call} {email : String} {e : Event}
    (hc : g.call? id = some c) (hp : c.purpose = .login email) (hs : c.stage ≠ .exchange)
    (hsome : g.context.session.access ≠ none) (hnone : (g.step e).1.context.session.access = none) :
    (Moment.mk g e).Expires ∨ (Moment.mk g e).SignsOutDuring id := by
  obtain hexpires | hout := expires_or_signsOut hsome hnone
  · exact .inl hexpires
  · exact .inr ⟨hout, c, email, hc, hp, hs⟩

theorem Caused.step {id : CallId} {g : Gateway σ} {history : List (Moment σ)} (hg : Coherent g)
    (h : Caused id g history) (e : Event) : Caused id (g.step e).1 (history ++ [⟨g, e⟩]) := by
  refine ⟨?_, ?_⟩
  · intro c reason hc hs
    obtain hsame | ⟨hq, leader, cl, hcl, hsl, ⟨answer, rfl, ho⟩ | ⟨rfl, ho⟩⟩ := hg.told hc hs
    · exact (h.told c reason hsame hs).imp (happened_concat · _) fun ⟨hr, ha⟩ =>
        ⟨hr, happened_concat ha _⟩
    · exact .inl ⟨_, List.mem_concat_self, expires_of_settled hcl hsl ho.symm⟩
    · cases ho
      exact .inr ⟨rfl, _, List.mem_concat_self, hq, leader, cl, rfl, hcl, hsl⟩
  · intro c email hc hp hs hnone
    obtain ⟨d, hd, hdp, hds⟩ | ⟨answer, tokens, rfl, hchange⟩ := hg.past_exchange hc hp hs
    · by_cases hsome : g.context.session.access = none
      · exact happened_concat (h.lost d email hd hdp hds hsome) _
      · exact ⟨_, List.mem_concat_self, lost_by_step hd hdp hds hsome hnone⟩
    · -- The tokens have just arrived, so there is a session.
      rw [step_context, hchange, SessionContext.edited, SessionContext.after_session] at hnone
      cases hnone

theorem caused_run {id : CallId} {g : Gateway σ} (hg : Coherent g) (hc : g.call? id = none)
    (es : List Event) : Coherent (g.run es) ∧ Caused id (g.run es) (g.history es) := by
  induction es using List.reverseRecOn with
  | nil => exact ⟨hg, caused_of_none hc⟩
  | append_singleton es e ih =>
    rw [run_concat, history_concat]
    exact ⟨ih.1.step e, ih.2.step ih.1 e⟩

/-- A call that fails has seen the session expire, or its refresh was abandoned, or it is a sign-in
and somebody has signed out meanwhile. -/
theorem Caused.fails {id : CallId} {g : Gateway σ} {history : List (Moment σ)}
    (h : Caused id g history) {e : Event} {reason : AuthFailure}
    (hf : Fails id reason (g.step e).2) :
    ∃ m ∈ history ++ [⟨g, e⟩], m.Expires ∨ (reason = .abandoned ∧ m.Abandons id) ∨
      (reason = .endedDuringLogin ∧ m.SignsOutDuring id) := by
  cases step_fails hf with
  | expires hx => exact ⟨_, List.mem_concat_self, .inl (Moment.expires_of_context hx)⟩
  | told hc hs =>
    obtain ⟨m, hm, hx⟩ | ⟨rfl, m, hm, ha⟩ := h.told _ _ hc hs
    · exact ⟨m, List.mem_append_left _ hm, .inl hx⟩
    · exact ⟨m, List.mem_append_left _ hm, .inr (.inl ⟨rfl, ha⟩)⟩
  | @lost c hc hs hlost =>
    obtain ⟨rfl, ⟨email, hp⟩, hnone⟩ := hlost
    have hx : ∃ m ∈ history ++ [⟨g, e⟩], m.Expires ∨ m.SignsOutDuring id := by
      by_cases hsome : g.context.session.access = none
      · exact happened_concat (h.lost c email hc hp hs hsome) _
      · exact ⟨_, List.mem_concat_self, lost_by_step hc hp hs hsome hnone⟩
    obtain ⟨m, hm, hexp | hout⟩ := hx
    · exact ⟨m, hm, .inl hexp⟩
    · exact ⟨m, hm, .inr (.inr ⟨rfl, hout⟩)⟩

/-- A call that fails for want of a session has seen the session expire while it was going on, or it
waited for a refresh that was abandoned, which leaves the session as it was. The history begins
anywhere before the call does, and ends with the failure. Nobody signs out while the call, if it is
a sign-in that ends without a session, looks up the administrator. -/
theorem failed_call_saw_session_end (config : Config) (context : SessionContext σ)
    (before since : List Event) (e : Event) (id : CallId) (reason : AuthFailure)
    (hbefore : ((start config context).run before).call? id = none)
    (hfails : Fails id reason ((((start config context).run before).run since).step e).2)
    (hstays : reason = .endedDuringLogin →
      ∀ m ∈ ((start config context).run before).history (since ++ [e]), ¬m.SignsOutDuring id) :
    ∃ m ∈ ((start config context).run before).history (since ++ [e]),
      m.Expires ∨ (reason = .abandoned ∧ m.Abandons id) := by
  have hg : Coherent ((start config context).run before) := coherent_run config context before
  have hcaused : Caused id (((start config context).run before).run since)
      (((start config context).run before).history since) := (caused_run hg hbefore since).2
  obtain ⟨m, hm, hx⟩ := hcaused.fails hfails
  rw [← history_concat] at hm
  obtain hexpires | habandoned | ⟨hreason, hout⟩ := hx
  · exact ⟨m, hm, .inl hexpires⟩
  · exact ⟨m, hm, .inr habandoned⟩
  · exact absurd hout (hstays hreason m hm)

/-- The refresh of another call fails while somebody who has signed in is looked up. -/
def refreshFailsDuringLookup : List Event := [
  .login 0 "c@x" "p", .answer 0 (tokensAnswer "c" "s"), .send 1 (.new .get "u/1"),
  .answer 1 (.ok ⟨401, ""⟩), .answer 1 (.error "down")]

/-- The administrator is found. -/
def profileAnswer : Except String Response := .ok ⟨200, "\x7b\"id\":7\x7d"⟩

/-- The sign-in ends without a session, since the session expired with the refresh. -/
theorem sign_in_saw_session_end :
    ∃ m ∈ (start lookupConfig sampleContext).history
      (refreshFailsDuringLookup ++ [.answer 0 profileAnswer]), m.Expires ∨
        (AuthFailure.endedDuringLogin = .abandoned ∧ m.Abandons 0) := by
  refine failed_call_saw_session_end lookupConfig sampleContext [] refreshFailsDuringLookup _ 0 _
    rfl (mem_resultsFor.1 ?_) ?_
  · decide +kernel
  · intro _ m hm ⟨hout, _⟩
    have hevent : m.event ∈ refreshFailsDuringLookup ++ [.answer 0 profileAnswer] := by
      rw [← map_event_history (start lookupConfig sampleContext) (_ ++ _)]
      exact List.mem_map_of_mem hm
    rw [hout] at hevent
    simp [refreshFailsDuringLookup] at hevent

/-- Two calls are turned down. The first leads a refresh and the second waits for it. -/
def waitingBehind : List Event := [
  .send 0 (.new .get "u/0"), .send 1 (.new .get "u/1"),
  .answer 0 (.ok ⟨401, ""⟩), .answer 1 (.ok ⟨401, ""⟩)]

/-- Somebody signs in and signs out while the administrator is looked up. -/
def signOutDuringLookup : List Event := [
  .login 0 "c@x" "p", .answer 0 (tokensAnswer "c" "s"), .change .clear]

/-- The leading call goes away and the waiting one fails; a sign-in fails after a sign-out. Neither
sees the session expire. The sign-in leaves in the session and in the store an administrator who is
not signed in. -/
theorem failures_without_expiry :
    let g := start sampleConfig sampleContext
    let signedOut := (start lookupConfig sampleContext).run signOutDuringLookup
    (Fails 1 .abandoned ((g.run (waitingBehind ++ [.cancel 0])).step (.resume 1)).2 ∧
      ∀ m ∈ g.history (waitingBehind ++ [.cancel 0, .resume 1]), ¬m.Expires) ∧
    (Fails 0 .endedDuringLogin (signedOut.step (.answer 0 profileAnswer)).2 ∧
      ∀ m ∈ (start lookupConfig sampleContext).history
        (signOutDuringLookup ++ [.answer 0 profileAnswer]), ¬m.Expires) ∧
    let left := (signedOut.step (.answer 0 profileAnswer)).1.context
    left.status = .signedOut ∧ left.session = { user := some { id := 7, email := "c@x" } } ∧
      left.store.entries = [(userKey, "\x7b\"id\":7,\"email\":\"c@x\"\x7d")] := by
  intro g signedOut
  have hwaiting : ∀ m ∈ g.history (waitingBehind ++ [.cancel 0, .resume 1]),
      m.after.context.status ≠ .reauthRequired := by decide +kernel
  have hlogin : ∀ m ∈ (start lookupConfig sampleContext).history
      (signOutDuringLookup ++ [.answer 0 profileAnswer]),
      m.after.context.status ≠ .reauthRequired := by decide +kernel
  refine ⟨⟨mem_resultsFor.1 ?_, ?_⟩, ⟨mem_resultsFor.1 ?_, ?_⟩, ?_⟩
  · decide +kernel
  · exact fun m hm hx => hwaiting m hm hx.status
  · decide +kernel
  · exact fun m hm hx => hlogin m hm hx.status
  · decide +kernel

end Gateway

end AccessConsole
