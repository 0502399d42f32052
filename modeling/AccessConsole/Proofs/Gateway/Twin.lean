import AccessConsole.Proofs.Gateway.Coherence
import AccessConsole.Proofs.Gateway.Edits
import AccessConsole.Proofs.Session.Texts

/-!
# Gateways that differ in secrets

Two gateways that differ at most in the refresh token of the session, and in the passwords of the
sign-ins whose token pair is still to come, move in lockstep. A refresh token shows in the session
that a sign-in returns, so it has to be the same by then: it is, since it came with the token pair.

* `TakeAlike` — stores that take the same writes.
* `ContextAlike` — sessions that differ at most in the refresh token.
* `Call.redacted` — a call without the password that it may carry.
* `Gateway.Twin`, `Gateway.Lockstep` — two such gateways, and moves of theirs with the same effects.
* `Twin.begin`, `Twin.conclude`, `Twin.release`, `Twin.settleLeader`, … — each function of the
  gateway moves twins in lockstep.
* `Twin.lead` — but for the request for a new token.
-/

namespace AccessConsole

section

variable {σ τ : Type} [KeyStore σ] [KeyStore τ]

/-! ## Stores -/

/-- Two stores that are related take the same writes, and are related afterwards. -/
structure TakeAlike (R : σ → τ → Prop) : Prop where
  result {store : σ} {store' : τ} (h : R store store') (w : Write) :
    (w.run store).1 = (w.run store').1
  kept {store : σ} {store' : τ} (h : R store store') (w : Write) :
    R (w.run store).2 (w.run store').2

namespace TakeAlike

variable {R : σ → τ → Prop} {store : σ} {store' : τ}

theorem runAll (hR : TakeAlike R) (h : R store store') (ws : List Write) :
    R (runAll ws store) (runAll ws store') := by
  induction ws generalizing store store' with
  | nil => exact h
  | cons w ws ih => exact ih (hR.kept h w)

theorem runUntilFailure (hR : TakeAlike R) (h : R store store') (ws : List Write) :
    (runUntilFailure ws store).1 = (runUntilFailure ws store').1 ∧
      R (runUntilFailure ws store).2 (runUntilFailure ws store').2 := by
  induction ws generalizing store store' with
  | nil => exact ⟨rfl, h⟩
  | cons w ws ih =>
    have hresult := hR.result h w
    have hkept := hR.kept h w
    unfold AccessConsole.runUntilFailure
    rcases hw : w.run store with ⟨result, next⟩
    rcases hw' : w.run store' with ⟨result', next'⟩
    rw [hw, hw'] at hresult hkept
    cases hresult
    cases result with
    | error e => exact ⟨rfl, hkept⟩
    | ok _ => exact ih hkept

end TakeAlike

/-- Stores that never fail take the same writes, whatever they hold. -/
theorem IsTextMap.takeAlike {Shows : σ → TextMap → Prop} {Shows' : τ → TextMap → Prop}
    (hmap : IsTextMap Shows) (hmap' : IsTextMap Shows') :
    TakeAlike fun store store' => (∃ map, Shows store map) ∧ ∃ map, Shows' store' map where
  result := by
    rintro store store' ⟨⟨map, h⟩, map', h'⟩ w
    rw [(hmap.write h w).1, (hmap'.write h' w).1]
  kept := by
    rintro store store' ⟨⟨map, h⟩, map', h'⟩ w
    exact ⟨⟨_, (hmap.write h w).2⟩, _, (hmap'.write h' w).2⟩

/-! ## Sessions -/

omit [KeyStore σ] [KeyStore τ] in
/-- Two sessions differ at most in the refresh token, which both hold or neither. -/
structure ContextAlike (R : σ → τ → Prop) (c : SessionContext σ) (c' : SessionContext τ) :
    Prop where
  store : R c.store c'.store
  access : c.session.access = c'.session.access
  user : c.session.user = c'.session.user
  held : c.session.refresh.isSome = c'.session.refresh.isSome
  status : c.status = c'.status

namespace ContextAlike

variable {R : σ → τ → Prop} {c : SessionContext σ} {c' : SessionContext τ}

omit [KeyStore σ] [KeyStore τ] in
theorem session_eq (h : ContextAlike R c c') (hrefresh : c.session.refresh = c'.session.refresh) :
    c.session = c'.session := by
  have hfields : ∀ {s s' : Session}, s.access = s'.access → s.refresh = s'.refresh →
      s.user = s'.user → s = s' := by
    rintro ⟨_, _, _⟩ ⟨_, _, _⟩ ⟨⟩ ⟨⟩ ⟨⟩
    rfl
  exact hfields h.access hrefresh h.user

/-- A change is taken by both stores or by neither. -/
theorem apply_result (hR : TakeAlike R) (h : ContextAlike R c c') (change : Change) :
    (c.apply change).1 = (c'.apply change).1 := by
  unfold SessionContext.apply
  split_ifs
  · rfl
  · exact (hR.runUntilFailure h.store change.writes).1

theorem after (hR : TakeAlike R) (h : ContextAlike R c c') (change : Change) :
    ContextAlike R (c.after change) (c'.after change) := by
  refine ⟨?_, ?_, ?_, ?_, ?_⟩
  · unfold SessionContext.after SessionContext.apply
    split_ifs
    · exact hR.runAll h.store change.writes
    · exact (hR.runUntilFailure h.store change.writes).2
  · rw [c.after_session, c'.after_session]
    cases change <;> first | rfl | exact h.access
  · rw [c.after_session, c'.after_session]
    cases change <;> first | rfl | exact h.user
  · rw [c.after_session, c'.after_session]
    cases change with
    | setTokens access refresh => cases refresh <;> first | rfl | exact h.held
    | setUser user => exact h.held
    | _ => rfl
  · rw [c.after_status, c'.after_status, h.status]

end ContextAlike

end

/-- The same refresh token is the same after a change. -/
theorem Change.session_refresh {s s' : Session} (h : s.refresh = s'.refresh) (change : Change) :
    (change.session s).refresh = (change.session s').refresh := by
  cases change with
  | setTokens access refresh => exact congrArg refresh.or h
  | setUser user => exact h
  | _ => rfl

/-! ## Calls -/

/-- A call without the password that it may carry. -/
def Call.redacted (c : Call) : Call :=
  if c.stage = .exchange then { c with request := .new .post "" } else c

namespace Call

@[simp] theorem redacted_id (c : Call) : c.redacted.id = c.id := by
  unfold redacted
  split_ifs <;> rfl

@[simp] theorem redacted_purpose (c : Call) : c.redacted.purpose = c.purpose := by
  unfold redacted
  split_ifs <;> rfl

@[simp] theorem redacted_stage (c : Call) : c.redacted.stage = c.stage := by
  unfold redacted
  split_ifs <;> rfl

theorem redacted_of_ne {c : Call} (h : c.stage ≠ .exchange) : c.redacted = c := if_neg h

/-- What becomes of a call as the queue is released does not depend on what is hidden of it. -/
theorem redacted_released {c : Call} {queue : List CallId}
    (h : c.stage = .exchange → c.id ∉ queue) (o : Outcome) :
    (if c.id ∈ queue then { c with stage := .released o } else c).redacted =
      if c.redacted.id ∈ queue then { c.redacted with stage := .released o } else c.redacted := by
  rw [redacted_id]
  split_ifs with hmem
  · rw [redacted_of_ne fun he => h he hmem, redacted_of_ne (by simp)]
  · rfl

/-- Only the request of a sign-in whose token pair is still to come is hidden. -/
theorem eq_of_redacted {c d : Call} (h : c.redacted = d.redacted) :
    c = d ∨ c.stage = .exchange ∧ d = { c with request := d.request } := by
  have hid : c.id = d.id := by simpa using congrArg id h
  have hpurpose : c.purpose = d.purpose := by simpa using congrArg purpose h
  have hstage : c.stage = d.stage := by simpa using congrArg stage h
  by_cases he : c.stage = .exchange
  · refine .inr ⟨he, ?_⟩
    rcases d with ⟨_, _, _, _⟩
    cases hid
    cases hpurpose
    cases hstage
    rfl
  · rw [redacted_of_ne he, redacted_of_ne (by rwa [← hstage])] at h
    exact .inl h

end Call

namespace Gateway

variable {σ τ : Type}

/-! ## Twins -/

/-- Two gateways show the same to whoever looks at them. -/
structure ShowsAlike (g : Gateway σ) (g' : Gateway τ) : Prop where
  access : g.context.session.access = g'.context.session.access
  user : g.context.session.user = g'.context.session.user
  status : g.context.status = g'.context.status
  phase : g.phase = g'.phase
  queue : g.queue = g'.queue

/-- Two gateways differ at most in the refresh token of the session, and in the passwords of the
sign-ins whose token pair is still to come. The refresh token is the same once there is a sign-in
whose token pair has come. -/
structure Twin (config : Config) (R : σ → τ → Prop) (g : Gateway σ) (g' : Gateway τ) : Prop where
  config_left : g.config = config
  config_right : g'.config = config
  context : ContextAlike R g.context g'.context
  phase : g.phase = g'.phase
  queue : g.queue = g'.queue
  calls : g.calls.map Call.redacted = g'.calls.map Call.redacted
  known : g.context.session.refresh = g'.context.session.refresh ∨
    ∀ c ∈ g.calls, c.purpose = .send ∨ c.stage = .exchange

/-- Two moves have the same effects, and lead from twins to twins. -/
structure Lockstep (config : Config) (R : σ → τ → Prop) (moved : Moved σ) (moved' : Moved τ) :
    Prop where
  twin : Twin config R moved.1 moved'.1
  effects : moved.2 = moved'.2

/-- The refresh token is the same in two gateways, or a call does not show it: the call is no
sign-in. -/
def Discreet (g : Gateway σ) (g' : Gateway τ) (call : Call) : Prop :=
  call.purpose = .send ∨ g.context.session.refresh = g'.context.session.refresh

/-- No sign-in whose token pair is still to come waits for a refresh. -/
def QueueIsPlain (g : Gateway σ) : Prop :=
  ∀ c ∈ g.calls, c.stage = .exchange → c.id ∉ g.queue

theorem Coherent.queueIsPlain {g : Gateway σ} (h : Coherent g) : g.QueueIsPlain := fun c hc he =>
  h.not_mem_queue (call?_of_mem h.nodup hc) (by rw [he]; simp)

namespace Twin

variable {config : Config} {R : σ → τ → Prop} {g : Gateway σ} {g' : Gateway τ} {call : Call}

theorem showsAlike (h : Twin config R g g') : ShowsAlike g g' :=
  ⟨h.context.access, h.context.user, h.context.status, h.phase, h.queue⟩

/-- A number finds the same call in twins, but for a password. -/
theorem call?_redacted (h : Twin config R g g') (id : CallId) :
    (g.call? id).map Call.redacted = (g'.call? id).map Call.redacted := by
  have hfind : ∀ calls : List Call, (calls.find? (·.id = id)).map Call.redacted =
      (calls.map Call.redacted).find? (·.id = id) := by
    intro calls
    rw [List.find?_map]
    simp only [Function.comp_def, Call.redacted_id]
  unfold call?
  rw [hfind, hfind, h.calls]

theorem call?_isSome (h : Twin config R g g') (id : CallId) :
    (g.call? id).isSome = (g'.call? id).isSome := by
  simpa using congrArg Option.isSome (h.call?_redacted id)

theorem call?_cases (h : Twin config R g g') (id : CallId) :
    (g.call? id = none ∧ g'.call? id = none) ∨
      (∃ call, g.call? id = some call ∧ g'.call? id = some call ∧ call.stage ≠ .exchange) ∨
        ∃ call request, g.call? id = some call ∧ call.stage = .exchange ∧
          g'.call? id = some { call with request } := by
  have hid := h.call?_redacted id
  cases hc : g.call? id with
  | none =>
    rw [hc] at hid
    exact .inl ⟨rfl, Option.map_eq_none_iff.1 hid.symm⟩
  | some call =>
    rw [hc] at hid
    obtain ⟨call', hc', hredacted⟩ := Option.map_eq_some_iff.1 hid.symm
    by_cases he : call.stage = .exchange
    · obtain rfl | ⟨-, hcall'⟩ := Call.eq_of_redacted hredacted.symm
      · exact .inr (.inr ⟨call, call.request, rfl, he, hc'⟩)
      · exact .inr (.inr ⟨call, call'.request, rfl, he, hcall' ▸ hc'⟩)
    · obtain rfl | ⟨he', -⟩ := Call.eq_of_redacted hredacted.symm
      · exact .inr (.inl ⟨call, rfl, hc', he⟩)
      · exact absurd he' he

/-- A call whose token pair is not still to come shows no secret. -/
theorem discreet (h : Twin config R g g') {id : CallId} (hc : g.call? id = some call)
    (hs : call.stage ≠ .exchange) : Discreet g g' call := by
  obtain hrefresh | hcalls := h.known
  · exact .inr hrefresh
  · exact .inl ((hcalls call (call?_mem hc)).resolve_right hs)

/-! ## Edits -/

theorem setPhase (h : Twin config R g g') (phase : Phase) :
    Twin config R { g with phase } { g' with phase } :=
  { h with phase := rfl }

theorem setQueue (h : Twin config R g g') (queue : List CallId) :
    Twin config R { g with queue } { g' with queue } :=
  { h with queue := rfl }

theorem without (h : Twin config R g g') (id : CallId) :
    Twin config R (g.without id) (g'.without id) := by
  refine { h with calls := ?_, known := ?_ }
  · have hfilter : ∀ calls : List Call, (calls.filter (·.id ≠ id)).map Call.redacted =
        (calls.map Call.redacted).filter (·.id ≠ id) := by
      intro calls
      rw [List.filter_map]
      simp only [Function.comp_def, Call.redacted_id]
    show (g.calls.filter _).map _ = (g'.calls.filter _).map _
    rw [hfilter, hfilter, h.calls]
  · exact h.known.imp_right fun hcalls c hc => hcalls c (List.mem_of_mem_filter hc)

/-- A call is suspended; its password may still be on the way. -/
theorem suspend_redacted (h : Twin config R g g') {call' : Call} {stage : Stage}
    (hid : call.id = call'.id)
    (hcall : { call with stage }.redacted = { call' with stage }.redacted)
    (hknown : g.context.session.refresh = g'.context.session.refresh ∨
      call.purpose = .send ∨ stage = .exchange) :
    Twin config R (g.suspend call stage) (g'.suspend call' stage) := by
  have hw := h.without call.id
  refine { hw with calls := ?_, known := ?_ }
  · show ((g.without call.id).calls ++ [{ call with stage }]).map Call.redacted =
      ((g'.without call'.id).calls ++ [{ call' with stage }]).map Call.redacted
    rw [List.map_append, List.map_append, ← hid, hw.calls, List.map_singleton, hcall,
      List.map_singleton, hid]
  · obtain hrefresh | hcalls := hw.known
    · exact .inl hrefresh
    · refine hknown.imp_right fun hown c hc => ?_
      obtain hold | hnew := List.mem_append.1 hc
      · exact hcalls c hold
      · rw [List.mem_singleton.1 hnew]
        exact hown

theorem suspend (h : Twin config R g g') (hcall : Discreet g g' call) (stage : Stage) :
    Twin config R (g.suspend call stage) (g'.suspend call stage) :=
  h.suspend_redacted rfl rfl (hcall.symm.imp_right .inl)

theorem changed [KeyStore σ] [KeyStore τ] (hR : TakeAlike R) (h : Twin config R g g')
    (change : Change) : Twin config R (g.changed change) (g'.changed change) := by
  refine { h with context := h.context.after hR change, known := ?_ }
  refine h.known.imp_left fun hrefresh => ?_
  rw [changed_session, changed_session]
  exact change.session_refresh hrefresh

/-- The queue is released. No sign-in whose token pair is still to come is in it. -/
theorem release (h : Twin config R g g') (hqueue : g.QueueIsPlain) (o : Outcome) :
    Lockstep config R (g.release o) (g'.release o) := by
  have hcalls' : ∀ c ∈ g'.calls, c.stage = .exchange → c.id ∉ g.queue := by
    intro c hc he
    obtain ⟨d, hd, hdc⟩ := List.mem_map.1 (h.calls ▸ List.mem_map_of_mem hc)
    have hid : d.id = c.id := by simpa using congrArg Call.id hdc
    have hstage : d.stage = c.stage := by simpa using congrArg Call.stage hdc
    rw [← hid]
    exact hqueue d hd (hstage.trans he)
  have hrelease : ∀ calls : List Call, (∀ c ∈ calls, c.stage = .exchange → c.id ∉ g.queue) →
      (calls.map fun c => if c.id ∈ g.queue then { c with stage := .released o } else c).map
          Call.redacted =
        (calls.map Call.redacted).map fun c =>
          if c.id ∈ g.queue then { c with stage := .released o } else c := by
    intro calls hq
    rw [List.map_map, List.map_map]
    exact List.map_congr_left fun c hc => Call.redacted_released (hq c hc) o
  refine ⟨{ h with queue := rfl, calls := ?_, known := ?_ },
    congrArg (List.map Effect.wake) h.queue⟩
  · show (g.calls.map _).map _ = (g'.calls.map _).map _
    rw [← h.queue, hrelease _ hqueue, hrelease _ hcalls', h.calls]
  · refine h.known.imp_right fun hcalls c hc => ?_
    obtain ⟨d, hd, rfl⟩ := List.mem_map.1 hc
    split_ifs with hmem
    · exact .inl ((hcalls d hd).resolve_right fun he => hqueue d hd he hmem)
    · exact hcalls d hd

/-! ## Moves -/

theorem dispatching (h : Twin config R g g') (hcall : Discreet g g' call) (stage : Stage)
    (request : Request) :
    Lockstep config R (g.dispatching call stage request) (g'.dispatching call stage request) :=
  ⟨h.suspend hcall stage, rfl⟩

theorem finish (h : Twin config R g g') (id : CallId) (result : Except GatewayError Reply) :
    Lockstep config R (g.finish id result) (g'.finish id result) :=
  ⟨h.without id, rfl⟩

/-- A sign-in shows its refresh token. -/
theorem finishLogin (h : Twin config R g g')
    (hrefresh : g.context.session.refresh = g'.context.session.refresh) (id : CallId) :
    Lockstep config R (g.finishLogin id) (g'.finishLogin id) := by
  have hsession := h.context.session_eq hrefresh
  unfold Gateway.finishLogin SessionContext.isAuthenticated
  rw [hsession]
  split_ifs
  · exact h.finish id _
  · exact h.finish id _

theorem join (h : Twin config R g g') (hcall : Discreet g g' call) :
    Lockstep config R (g.join call) (g'.join call) := by
  refine ⟨?_, rfl⟩
  show Twin config R { g.suspend call .queued with queue := g.queue ++ [call.id] }
    { g'.suspend call .queued with queue := g'.queue ++ [call.id] }
  rw [h.queue]
  exact (h.suspend hcall .queued).setQueue _

variable [KeyStore σ] [KeyStore τ]

theorem conclude (hR : TakeAlike R) (h : Twin config R g g') (hcall : Discreet g g' call)
    (result : CallResult) :
    Lockstep config R (g.conclude call result) (g'.conclude call result) := by
  unfold Gateway.conclude
  cases hp : call.purpose with
  | send => exact h.finish call.id _
  | login email =>
    have hrefresh := hcall.resolve_left (by rw [hp]; simp)
    cases result with
    | error e => cases e <;> first | exact h.finish call.id _ | exact h.finishLogin hrefresh call.id
    | ok response =>
      cases hd : Profile.codec.decode? response.body with
      | none =>
        simp only [hd]
        exact h.finishLogin hrefresh call.id
      | some profile =>
        simp only [hd]
        refine (h.changed hR _).finishLogin ?_ call.id
        rw [changed_session, changed_session]
        exact Change.session_refresh hrefresh _

theorem begin (hR : TakeAlike R) (h : Twin config R g g') (hcall : Discreet g g' call) :
    Lockstep config R (g.begin call) (g'.begin call) := by
  unfold Gateway.begin
  rw [h.config_left, h.config_right, h.context.access]
  split_ifs with hauth
  · exact h.dispatching hcall .bare call.request
  · cases g'.context.session.access with
    | none => exact h.dispatching hcall (.first none) call.request
    | some token =>
      cases hr : call.request.withBearer? token with
      | none =>
        simp only [hr]
        exact h.conclude hR hcall _
      | some request =>
        simp only [hr]
        exact h.dispatching hcall (.first (some token)) request

theorem replay (hR : TakeAlike R) (h : Twin config R g g') (hcall : Discreet g g' call)
    (token : String) : Lockstep config R (g.replay call token) (g'.replay call token) := by
  unfold Gateway.replay
  cases call.request.withBearer? token with
  | none => exact h.conclude hR hcall _
  | some request => exact h.dispatching hcall .second request

theorem proceed (hR : TakeAlike R) (h : Twin config R g g') (hcall : Discreet g g' call)
    (o : Outcome) : Lockstep config R (g.proceed call o) (g'.proceed call o) := by
  cases o with
  | refreshed token => exact h.replay hR hcall token
  | failed reason => exact h.conclude hR hcall _

theorem settleLeader (hR : TakeAlike R) (h : Twin config R g g') (hcall : Discreet g g' call)
    (hqueue : g.QueueIsPlain) (o : Outcome) :
    Lockstep config R (g.settleLeader call o) (g'.settleLeader call o) := by
  have hreleased := (h.setPhase .idle).release hqueue o
  have hproceeded := hreleased.twin.proceed hR hcall o
  rw [settleLeader_eq, settleLeader_eq]
  exact ⟨hproceeded.twin, congrArg₂ (· ++ ·) hreleased.effects hproceeded.effects⟩

theorem refreshAnswered (hR : TakeAlike R) (h : Twin config R g g') (hcall : Discreet g g' call)
    (hqueue : g.QueueIsPlain) (answer : Except String Response) :
    Lockstep config R (g.refreshAnswered call answer) (g'.refreshAnswered call answer) := by
  rw [refreshAnswered_eq, refreshAnswered_eq]
  refine (h.changed hR _).settleLeader hR (hcall.imp_right fun hrefresh => ?_) hqueue _
  rw [changed_session, changed_session]
  exact Change.session_refresh hrefresh _

/-- A sign-in leaves nothing of its password: its call goes on with the lookup of the administrator,
and both sessions hold the refresh token that came with the answer. -/
theorem exchangeAnswered (hR : TakeAlike R) (h : Twin config R g g') (request : Request)
    (email : String) (answer : Except String Response) :
    Lockstep config R (g.exchangeAnswered call email answer)
      (g'.exchangeAnswered { call with request } email answer) := by
  have hrejected : ∀ body, Lockstep config R (g.rejected call body)
      (g'.rejected { call with request } body) :=
    fun body => (h.changed hR .expire).finish call.id _
  cases answer with
  | error text => exact h.finish call.id _
  | ok response =>
    obtain hr | ⟨-, hr⟩ | ⟨-, hr⟩ := response.result_cases
    · cases hd : TokenPair.codec.decode? response.body with
      | none =>
        unfold Gateway.exchangeAnswered
        simp only [hr, hd]
        exact h.finish call.id _
      | some tokens =>
        rw [exchangeAnswered_of_tokens g call email hr hd,
          exchangeAnswered_of_tokens g' { call with request } email hr hd]
        set change : Change := .establish tokens.access tokens.refresh (.ofEmail email)
        have htwin := h.changed hR change
        have hrefresh : (g.changed change).context.session.refresh =
            (g'.changed change).context.session.refresh := by
          rw [changed_session, changed_session]
          rfl
        have hlookup : profileRequest? g'.config = profileRequest? g.config := by
          rw [h.config_left, h.config_right]
        simp only [h.context.apply_result hR change, hlookup]
        split
        · exact htwin.finish call.id _
        · split
          · exact htwin.finishLogin hrefresh call.id
          · exact htwin.begin hR (.inr hrefresh)
    · rw [exchangeAnswered_of_refusal g call email (.inl hr),
        exchangeAnswered_of_refusal g' { call with request } email (.inl hr)]
      exact hrejected response.body
    · by_cases h400 : response.status = 400
      · rw [h400] at hr
        rw [exchangeAnswered_of_refusal g call email (.inr hr),
          exchangeAnswered_of_refusal g' { call with request } email (.inr hr)]
        exact hrejected response.body
      · rw [exchangeAnswered_of_fault g call email hr h400,
          exchangeAnswered_of_fault g' { call with request } email hr h400]
        exact h.finish call.id _

omit [KeyStore σ] [KeyStore τ] in
theorem cancelled (h : Twin config R g g')
    (hqueue : g.QueueIsPlain) (call : Call)
    (request : Request) :
    Lockstep config R (g.cancelled call) (g'.cancelled { call with request }) := by
  have hw := h.without call.id
  unfold Gateway.cancelled
  cases hs : call.stage with
  | leading =>
    refine (hw.setPhase .idle).release (fun c hc => ?_) _
    exact hqueue c (List.mem_of_mem_filter hc)
  | queued =>
    refine ⟨?_, rfl⟩
    show Twin config R { g.without call.id with queue := g.queue.filter _ }
      { g'.without call.id with queue := g'.queue.filter _ }
    rw [h.queue]
    exact hw.setQueue _
  | _ => exact ⟨hw, rfl⟩

end Twin

end Gateway

end AccessConsole
