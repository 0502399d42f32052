import AccessConsole.Proofs.Gateway.Account
import AccessConsole.Proofs.Gateway.Queue

/-!
# Calls that share an expired token

Any number of calls go out with one token and are all turned down.

* `TurnedDown`, `InTime` — the runs in question.
* `Progress` — how far the refresh has come.
* `Standing` — what that means for each of the calls: what was sent for it, what it was answered,
  how it ended, and where it is suspended.
* `proceed_standing`, `Standing.kept`, `Standing.led`, `Standing.settled` — how a call moves on.
* `Standing.served`, `Standing.turnedAway` — what was done for a call that is over.
-/

namespace AccessConsole

/-- A call begins, a request is answered, or a call of the queue goes on. -/
def Event.isPlain : Event → Bool
  | .send .. => true
  | .answer .. => true
  | .resume _ => true
  | _ => false

/-- The request is on the way for the first time, with a token or without one. -/
def Stage.isFirst : Stage → Bool
  | .first _ => true
  | _ => false

namespace Gateway

variable {σ : Type} [KeyStore σ]

/-! ## The runs -/

/-- Calls are sent, all with one token, and each is turned down with it. Nobody signs in, goes away
or changes the session. -/
structure TurnedDown (t : String) (history : List (Moment σ)) : Prop where
  plain : ∀ m ∈ history, m.event.isPlain = true
  /-- No number is given to two calls. -/
  distinct : ((begun history).map fun b => b.1).Nodup
  /-- Each call goes out with the token. -/
  sent : ∀ m ∈ history, ∀ id request, m.event.begun? = some (id, request) →
    m.after.call? id = some ⟨id, .send, request, .first (some t)⟩
  /-- Each call is turned down. -/
  rejected : ∀ m ∈ history, ∀ id answer, m.answer? Stage.isFirst = some (id, answer) →
    ∃ response, answer = .ok response ∧ response.status = 401

theorem TurnedDown.init {t : String} {history : List (Moment σ)} {m : Moment σ}
    (h : TurnedDown t (history ++ [m])) : TurnedDown t history := by
  refine ⟨?_, ?_, ?_, ?_⟩
  · intro n hn
    exact h.plain n (List.mem_append_left _ hn)
  · have hd := h.distinct
    rw [begun_concat, List.map_append] at hd
    exact hd.of_append_left
  · intro n hn
    exact h.sent n (List.mem_append_left _ hn)
  · intro n hn
    exact h.rejected n (List.mem_append_left _ hn)

omit [KeyStore σ] in
/-- A refresh hands out a token. -/
def HandsOut (t : String) (m : Moment σ) : Prop :=
  ∃ id answer, m.answer? (· = .leading) = some (id, answer) ∧ refreshOutcome answer = .refreshed t

omit [KeyStore σ] in
/-- No call is turned down for the first time once a refresh has handed out the token. -/
def InTime (t : String) (history : List (Moment σ)) : Prop :=
  history.Pairwise fun m n => HandsOut t m → n.answer? Stage.isFirst = none

omit [KeyStore σ] in
theorem InTime.init {t : String} {history : List (Moment σ)} {m : Moment σ}
    (h : InTime t (history ++ [m])) : InTime t history :=
  (List.pairwise_append.1 h).1

omit [KeyStore σ] in
theorem InTime.last {t : String} {history : List (Moment σ)} {m : Moment σ}
    (h : InTime t (history ++ [m])) {id : CallId} {answer : Except String Response}
    (ha : (id, answer) ∈ answersAt (· = .leading) history)
    (ho : refreshOutcome answer = .refreshed t) : m.answer? Stage.isFirst = none := by
  obtain ⟨n, hn, hna⟩ := List.mem_filterMap.1 ha
  exact (List.pairwise_append.1 h).2.2 n hn m (List.mem_singleton.2 rfl) ⟨id, answer, hna, ho⟩

/-! ## How far the refresh has come -/

/-- How far the refresh has come. -/
inductive Progress
  | ahead
  | going (leader : CallId)
  | settled (leader : CallId) (answer : Except String Response)

namespace Progress

/-- The call that led or leads the refresh. -/
def leader? : Progress → Option CallId
  | ahead => none
  | going leader => some leader
  | settled leader _ => some leader

/-- The answers that the refresh got. -/
def answers : Progress → List (CallId × Except String Response)
  | settled leader answer => [(leader, answer)]
  | _ => []

/-- The request for a new token, if it was sent for this call. -/
def asked (s : Progress) (ask : Request) (id : CallId) : List Request :=
  if s.leader? = some id then [ask] else []

/-- Phase and session are where the refresh leaves them. -/
def Holds (t : String) (ask : Request) (g : Gateway σ) : Progress → Prop
  | ahead => g.phase = .idle ∧ g.context.session.access = some t ∧
    ∃ refresh, g.context.session.refresh = some refresh ∧ ask = refreshRequest g.config refresh
  | going _ => g.phase = .refreshing
  | settled _ answer => g.phase = .idle ∧ g.context.AgreesWith (refreshOutcome answer)

end Progress

/-- Where a call stands that was sent with a token `t` and turned down, and what was done for it.
The request `ask` is the one for a new token, and `first` is the request with `t`. -/
inductive Standing (t : String) (ask : Request) (id : CallId) (request first : Request) :
    Progress → Account → Prop
  | first {s : Progress} : s.leader? ≠ some id →
    Standing t ask id request first s
      ⟨[first], [], [], some ⟨id, .send, request, .first (some t)⟩⟩
  | leading :
    Standing t ask id request first (.going id)
      ⟨[first, ask], [], [], some ⟨id, .send, request, .leading⟩⟩
  | queued {leader : CallId} : leader ≠ id →
    Standing t ask id request first (.going leader)
      ⟨[first], [], [], some ⟨id, .send, request, .queued⟩⟩
  | released {leader : CallId} {answer : Except String Response} : leader ≠ id →
    Standing t ask id request first (.settled leader answer)
      ⟨[first], [], [], some ⟨id, .send, request, .released (refreshOutcome answer)⟩⟩
  | second {leader : CallId} {answer : Except String Response} {token : String}
      {second : Request} :
    refreshOutcome answer = .refreshed token → request.withBearer? token = some second →
    Standing t ask id request first (.settled leader answer)
      ⟨first :: (Progress.settled leader answer).asked ask id ++ [second], [], [],
        some ⟨id, .send, request, .second⟩⟩
  /-- It has its result, which is that of the second request. -/
  | returned {leader : CallId} {answer last : Except String Response} {token : String}
      {second : Request} :
    refreshOutcome answer = .refreshed token → request.withBearer? token = some second →
    Standing t ask id request first (.settled leader answer)
      ⟨first :: (Progress.settled leader answer).asked ask id ++ [second], [last],
        [(finalResult last).map .response], none⟩
  /-- It has failed with the refresh. -/
  | failed {leader : CallId} {answer : Except String Response} {reason reason' : AuthFailure} :
    refreshOutcome answer = .failed reason →
    Standing t ask id request first (.settled leader answer)
      ⟨first :: (Progress.settled leader answer).asked ask id, [],
        [.error (.authenticationFailed reason')], none⟩
  /-- The new token may not stand in a header. -/
  | illegal {leader : CallId} {answer : Except String Response} {token : String}
      {account : Account} :
    refreshOutcome answer = .refreshed token → request.withBearer? token = none →
    account.live = none → Standing t ask id request first (.settled leader answer) account

/-! ## Calls that go on with an outcome -/

omit [KeyStore σ] in
/-- The calls that share an outcome are told the same, but for the reason of a failure. -/
def Agree : Outcome → Outcome → Prop
  | .refreshed token, .refreshed token' => token = token'
  | .failed _, .failed _ => True
  | _, _ => False

omit [KeyStore σ] in
theorem Agree.refl (o : Outcome) : Agree o o := by
  cases o with
  | refreshed token => exact rfl
  | failed reason => trivial

section

variable {t : String} {ask : Request} {id : CallId} {request first : Request}

/-- A call that goes on with the outcome of the refresh stands where it should. -/
theorem proceed_standing (g : Gateway σ) (stage : Stage) {leader : CallId}
    {answer : Except String Response} {o : Outcome} (ho : Agree o (refreshOutcome answer)) :
    Standing t ask id request first (.settled leader answer)
      { sent := first :: (Progress.settled leader answer).asked ask id ++
          requestsFor id (g.proceed ⟨id, .send, request, stage⟩ o).2
        answers := []
        results := resultsFor id (g.proceed ⟨id, .send, request, stage⟩ o).2
        live := (g.proceed ⟨id, .send, request, stage⟩ o).1.call? id } := by
  have hgone : (g.without id).call? id = none := call?_without_self g id
  cases o with
  | refreshed token =>
    cases hr : refreshOutcome answer with
    | failed reason =>
      rw [hr] at ho
      cases ho
    | refreshed token' =>
      rw [hr] at ho
      cases ho
      cases hsecond : request.withBearer? token with
      | some second =>
        have hlive : (g.suspend ⟨id, .send, request, stage⟩ .second).call? id =
            some ⟨id, .send, request, .second⟩ := call?_suspend_self g _ .second
        have hmoved : g.proceed ⟨id, .send, request, stage⟩ (.refreshed token) =
            g.dispatching ⟨id, .send, request, stage⟩ .second second := by
          simp only [proceed, replay, hsecond]
        rw [hmoved]
        simp only [dispatching, hlive, requestsFor, resultsFor, List.filterMap_cons,
          List.filterMap_nil, if_true]
        exact .second hr hsecond
      | none =>
        refine .illegal hr hsecond ?_
        simp only [proceed, replay, hsecond, conclude]
        exact hgone
  | failed reason =>
    cases hr : refreshOutcome answer with
    | refreshed token =>
      rw [hr] at ho
      cases ho
    | failed reason' =>
      have hmoved : g.proceed ⟨id, .send, request, stage⟩ (.failed reason) =
          g.finish id (.error (.authenticationFailed reason)) := rfl
      rw [hmoved]
      simp only [finish, hgone, requestsFor, resultsFor, List.filterMap_cons, List.filterMap_nil,
        if_true, List.append_nil]
      exact .failed hr

theorem settleLeader_standing (g : Gateway σ) (stage : Stage) {leader : CallId}
    {answer : Except String Response} {o : Outcome} (ho : Agree o (refreshOutcome answer)) :
    Standing t ask id request first (.settled leader answer)
      { sent := first :: (Progress.settled leader answer).asked ask id ++
          requestsFor id (g.settleLeader ⟨id, .send, request, stage⟩ o).2
        answers := []
        results := resultsFor id (g.settleLeader ⟨id, .send, request, stage⟩ o).2
        live := (g.settleLeader ⟨id, .send, request, stage⟩ o).1.call? id } := by
  rw [settleLeader_eq]
  simp only [requestsFor_wakes, resultsFor_wakes]
  exact proceed_standing _ stage ho

/-! ## The other calls -/

/-- A step that leaves the queue as it is, or somebody in it, leaves the other calls where they
stand. -/
theorem Standing.kept {s : Progress} {g : Gateway σ} {history : List (Moment σ)} {e : Event}
    {j : CallId} (h : Standing t ask id request first s (account g history id))
    (he : e.subject? = some j)
    (hne : id ≠ j) (hq : (g.step e).1.queue = g.queue ∨ (g.step e).1.queue ≠ []) :
    Standing t ask id request first s
      { account g history id with live := (g.step e).1.call? id } := by
  have hsub : e.subject? ≠ some id := by
    rw [he]
    rintro ⟨⟩
    exact hne rfl
  rw [call?_of_ne_of_queue hsub hq]
  exact h

theorem Standing.led {account : Account} {leader : CallId}
    (h : Standing t ask id request first .ahead account) (hne : id ≠ leader) :
    Standing t ask id request first (.going leader) account := by
  cases h with
  | first _ =>
    refine .first ?_
    rintro ⟨⟩
    exact hne rfl

/-- When the refresh is over, those who wait are released and the others are left alone. -/
theorem Standing.settled {account : Account} {leader : CallId} {answer : Except String Response}
    {live : Option Call} (h : Standing t ask id request first (.going leader) account)
    (hne : id ≠ leader)
    (hlive : ∀ c, account.live = some c →
      live = some (if c.stage = .queued then { c with stage := .released (refreshOutcome answer) }
        else c)) :
    Standing t ask id request first (.settled leader answer) { account with live } := by
  cases h with
  | first _ =>
    rw [hlive _ rfl]
    refine .first ?_
    rintro ⟨⟩
    exact hne rfl
  | leading => exact absurd rfl hne
  | queued _ =>
    rw [hlive _ rfl]
    exact .released (Ne.symm hne)

/-! ## Calls that are over -/

/-- A call that is over has been told the outcome of the refresh. -/
theorem Standing.progress_settled {s : Progress} {account : Account}
    (h : Standing t ask id request first s account) (hlive : account.live = none) :
    ∃ leader answer, s = .settled leader answer := by
  cases h with
  | returned _ _ => exact ⟨_, _, rfl⟩
  | failed _ => exact ⟨_, _, rfl⟩
  | illegal _ _ _ => exact ⟨_, _, rfl⟩
  | _ => cases hlive

/-- After a successful refresh, it was sent once more and has the result of that. -/
theorem Standing.served {leader : CallId} {answer : Except String Response} {account : Account}
    {token : String} (h : Standing t ask id request first (.settled leader answer) account)
    (hlive : account.live = none) (ho : refreshOutcome answer = .refreshed token)
    (hlegal : headerValue? (Request.bearer token) ≠ none) :
    ∃ second last, request.withBearer? token = some second ∧
      account.sent = first :: (if id = leader then [ask] else []) ++ [second] ∧
      account.answers = [last] ∧ account.results = [(finalResult last).map .response] := by
  cases h with
  | @returned _ _ last token' second ho' hsecond =>
    rw [ho] at ho'
    cases ho'
    refine ⟨second, last, hsecond, ?_, rfl, rfl⟩
    simp only [Progress.asked, Progress.leader?, Option.some.injEq, eq_comm]
  | failed ho' =>
    rw [ho] at ho'
    cases ho'
  | illegal ho' hnone _ =>
    rw [ho] at ho'
    cases ho'
    exact absurd (Option.map_eq_none_iff.1 hnone) hlegal
  | _ => cases hlive

/-- After a failed refresh, it was not sent again and has failed. -/
theorem Standing.turnedAway {leader : CallId} {answer : Except String Response} {account : Account}
    {reason : AuthFailure} (h : Standing t ask id request first (.settled leader answer) account)
    (hlive : account.live = none) (ho : refreshOutcome answer = .failed reason) :
    account.sent = first :: (if id = leader then [ask] else []) ∧
      ∃ reason', account.results = [.error (.authenticationFailed reason')] := by
  cases h with
  | @failed _ _ _ reason' ho' =>
    refine ⟨?_, reason', rfl⟩
    simp only [Progress.asked, Progress.leader?, Option.some.injEq, eq_comm]
  | returned ho' _ =>
    rw [ho] at ho'
    cases ho'
  | illegal ho' _ _ =>
    rw [ho] at ho'
    cases ho'
  | _ => cases hlive

end

end Gateway

end AccessConsole
