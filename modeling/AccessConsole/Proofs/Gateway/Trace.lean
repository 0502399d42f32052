import AccessConsole.Proofs.Gateway.Lifetime
import AccessConsole.Proofs.Gateway.Standing

/-!
# The trace of one call

* `copiesOf`, `asksOf` — the copies of its own request that a run sends for a call, and the requests
  for new tokens.
* `Turn`, `turn_replay`, `turn_settleLeader` — what a single move does for a call.
* `Trace`, `trace_concat` — what a run does for a call, and what a step adds to it.
* `trace_of_ne`, `trace_of_over`, `trace_cancelled` — steps that add nothing to it.
* `HeldSince` — the session has held a token at some moment since the call was turned down.
-/

namespace AccessConsole

variable {σ : Type}

namespace Gateway

/-! ## Moves -/

/-- What a move does for a call: what it sends, how it ends the call, and where the call is
suspended then. -/
structure Turn where
  requests : List Request
  results : List (Except GatewayError Reply)
  live : Option Call

def turn (id : CallId) (moved : Moved σ) : Turn :=
  ⟨requestsFor id moved.2, resultsFor id moved.2, moved.1.call? id⟩

/-- The call leads a refresh then. -/
def Turn.leads (t : Turn) : Bool := t.live.any fun c => c.stage = .leading

section

variable (g : Gateway σ) (id : CallId) (request : Request) (stage : Stage)

/-! The moves of a call that is sent for its caller. -/

theorem turn_dispatching (next : Stage) (copy : Request) :
    turn id (g.dispatching ⟨id, .send, request, stage⟩ next copy) =
      ⟨[copy], [], some ⟨id, .send, request, next⟩⟩ := by
  have hc := call?_suspend_self g ⟨id, .send, request, stage⟩ next
  simp only at hc
  unfold turn dispatching
  rw [hc]
  simp [requestsFor, resultsFor]

theorem turn_finish (result : Except GatewayError Reply) :
    turn id (g.finish id result) = ⟨[], [result], none⟩ := by
  unfold turn finish
  rw [call?_without_self]
  simp [requestsFor, resultsFor]

theorem turn_join :
    turn id (g.join ⟨id, .send, request, stage⟩) =
      ⟨[], [], some ⟨id, .send, request, .queued⟩⟩ := by
  have hc := call?_suspend_self g ⟨id, .send, request, stage⟩ .queued
  unfold turn join
  simp only at hc ⊢
  rw [← hc]
  rfl

variable [KeyStore σ]

/-- It is over with any result. -/
theorem turn_conclude (result : CallResult) :
    turn id (g.conclude ⟨id, .send, request, stage⟩ result) =
      ⟨[], [result.map .response], none⟩ :=
  turn_finish g id _

/-- It is sent once more, unless the token may not stand in a header. -/
theorem turn_replay (token : String) :
    (∃ copy, request.withBearer? token = some copy ∧
      turn id (g.replay ⟨id, .send, request, stage⟩ token) =
        ⟨[copy], [], some ⟨id, .send, request, .second⟩⟩) ∨
    (request.withBearer? token = none ∧
      turn id (g.replay ⟨id, .send, request, stage⟩ token) =
        ⟨[], [.error .invalidHeader], none⟩) := by
  unfold replay
  cases hr : request.withBearer? token with
  | some copy => exact .inl ⟨copy, rfl, turn_dispatching g id request stage .second copy⟩
  | none => exact .inr ⟨rfl, turn_conclude g id request stage _⟩

theorem turn_settleLeader (o : Outcome) :
    turn id (g.settleLeader ⟨id, .send, request, stage⟩ o) =
      turn id (({ g with phase := .idle : Gateway σ }.release o).1.proceed
        ⟨id, .send, request, stage⟩ o) := by
  rw [settleLeader_eq]
  unfold turn
  simp only [requestsFor_wakes, resultsFor_wakes]

end

/-- The requests for new tokens that a move sends for a call are all that it sends for a call that
leads then. -/
theorem refreshCalls_of_id (moved : Moved σ) (id : CallId) :
    ((refreshCalls moved).filter fun r => r.1 = id).map (·.2) =
      if (turn id moved).leads then (turn id moved).requests else [] := by
  show _ = if moved.1.leads id then requestsFor id moved.2 else []
  unfold refreshCalls requestsFor
  induction moved.2 with
  | nil => simp
  | cons effect effects ih =>
    cases effect with
    | dispatch j request =>
      by_cases hj : j = id
      · subst hj
        cases hl : moved.1.leads j
        · simpa [hl] using ih
        · simpa [hl] using ih
      · cases hl : moved.1.leads j
        · simpa [hl, hj] using ih
        · simpa [hl, hj] using ih
    | wake j => simpa using ih
    | finish j result => simpa using ih

/-- A call that goes away gets nothing more. -/
theorem turn_cancelled [KeyStore σ] (g : Gateway σ) (id : CallId) :
    turn id (g.step (.cancel id)) = ⟨[], [], none⟩ := by
  have hnone : (g.step (.cancel id)).1.call? id = none := step_cancel_gone g id
  have hquiet : requestsFor id (g.step (.cancel id)).2 = [] ∧
      resultsFor id (g.step (.cancel id)).2 = [] := by
    cases hc : g.call? id with
    | none =>
      simp only [step, hc]
      exact ⟨rfl, rfl⟩
    | some call =>
      have hwakes := requestsFor_wakes id g.queue []
      have hends := resultsFor_wakes id g.queue []
      rw [List.append_nil] at hwakes hends
      simp only [step, hc, cancelled]
      split
      · exact ⟨hwakes, hends⟩
      · exact ⟨rfl, rfl⟩
      · exact ⟨rfl, rfl⟩
  unfold turn
  rw [hnone, hquiet.1, hquiet.2]

/-! ## Traces -/

section

variable [KeyStore σ]

/-- The copies of its own request that a run sends for a call. While a call leads, what is sent for
it is the request for a new token. -/
def copiesOf (id : CallId) (history : List (Moment σ)) : List Request :=
  history.flatMap fun m => if m.after.leads id then [] else requestsFor id m.effects

/-- The requests for new tokens that a run sends for a call. -/
def asksOf (id : CallId) (history : List (Moment σ)) : List Request :=
  ((refreshCallsOf history).filter fun r => r.1 = id).map (·.2)

end

/-- What a run does for a call. -/
structure Trace where
  copies : List Request
  asks : List Request
  /-- The answers to its own request. -/
  answers : List (Except String Response)
  results : List (Except GatewayError Reply)
  /-- The call, if it is going on. -/
  live : Option Call

/-- The trace after one more move, and answers to the request of the call. -/
def Trace.next (t : Trace) (answers : List (Except String Response)) (turn : Turn) : Trace where
  copies := t.copies ++ if turn.leads then [] else turn.requests
  asks := t.asks ++ if turn.leads then turn.requests else []
  answers := t.answers ++ answers
  results := t.results ++ turn.results
  live := turn.live

theorem Trace.next_quiet (t : Trace) (live : Option Call) :
    t.next [] ⟨[], [], live⟩ = { t with live } := by
  unfold next
  simp

variable [KeyStore σ]

/-- What a run that ends with a gateway did for a call. -/
def trace (g : Gateway σ) (history : List (Moment σ)) (id : CallId) : Trace where
  copies := copiesOf id history
  asks := asksOf id history
  answers := answersTo id Stage.isOwn history
  results := resultsOf id history
  live := g.call? id

theorem trace_concat (g : Gateway σ) (history : List (Moment σ)) (e : Event) (id : CallId) :
    trace (g.step e).1 (history ++ [⟨g, e⟩]) id =
      (trace g history id).next (answersTo id Stage.isOwn [⟨g, e⟩]) (turn id (g.step e)) := by
  have hcopies : copiesOf id (history ++ [⟨g, e⟩]) =
      copiesOf id history ++ if (turn id (g.step e)).leads then [] else
        (turn id (g.step e)).requests := by
    unfold copiesOf
    rw [List.flatMap_append, List.flatMap_singleton]
    rfl
  have hasks : asksOf id (history ++ [⟨g, e⟩]) =
      asksOf id history ++ if (turn id (g.step e)).leads then (turn id (g.step e)).requests else
        [] := by
    unfold asksOf
    rw [refreshCallsOf_concat, List.filter_append, List.map_append, ← refreshCalls_of_id]
    rfl
  have hanswers : answersTo id Stage.isOwn (history ++ [⟨g, e⟩]) =
      answersTo id Stage.isOwn history ++ answersTo id Stage.isOwn [⟨g, e⟩] := by
    unfold answersTo answersAt
    rw [List.filterMap_append, List.filter_append, List.map_append]
  have hresults : resultsOf id (history ++ [⟨g, e⟩]) =
      resultsOf id history ++ (turn id (g.step e)).results := resultsOf_concat id history _
  unfold trace Trace.next
  rw [hcopies, hasks, hanswers, hresults]
  rfl

/-! ## Steps that add nothing -/

omit [KeyStore σ] in
theorem answersTo_answer {g : Gateway σ} {id : CallId} {c : Call} (hc : g.call? id = some c)
    (p : Stage → Bool) (answer : Except String Response) :
    answersTo id p [⟨g, .answer id answer⟩] = if p c.stage then [answer] else [] := by
  unfold answersTo answersAt
  rw [List.filterMap_cons, Moment.answer?_eq rfl hc]
  by_cases hs : p c.stage <;> simp [hs]

omit [KeyStore σ] in
theorem answersTo_unanswered {m : Moment σ} {id : CallId}
    (h : ∀ answer, m.event ≠ .answer id answer) (p : Stage → Bool) :
    answersTo id p [m] = [] := by
  unfold answersTo answersAt
  rw [List.filterMap_cons]
  cases ha : m.answer? p with
  | none => rfl
  | some a =>
    have hne : a.1 ≠ id := by
      rintro rfl
      exact h a.2 (Moment.of_answer ha).1
    simp [hne]

omit [KeyStore σ] in
theorem Ignores.unanswered {g : Gateway σ} {e : Event} (h : g.Ignores e) (id : CallId) :
    answersTo id Stage.isOwn [⟨g, e⟩] = [] := by
  by_cases he : ∃ answer, e = .answer id answer
  · obtain ⟨answer, rfl⟩ := he
    cases hc : g.call? id with
    | none => simp [answersTo, answersAt, Moment.answer?, hc]
    | some c =>
      rw [answersTo_answer hc, if_neg]
      obtain hs | ⟨o, hs⟩ := h c hc
      · simp [hs, Stage.isOwn]
      · simp [hs, Stage.isOwn]
  · refine answersTo_unanswered ?_ _
    intro answer ha
    exact he ⟨answer, ha⟩

section

variable {g : Gateway σ} {history : List (Moment σ)} {e : Event} {id : CallId}

theorem trace_ignored (h : g.Ignores e) :
    trace (g.step e).1 (history ++ [⟨g, e⟩]) id = trace g history id := by
  rw [trace_concat, h.unanswered, h.step]
  exact Trace.next_quiet _ _

/-- A step leaves the trace of a call that it is not about, and can only tell it an outcome. -/
theorem trace_of_ne (hid : e.subject? ≠ some id) :
    trace (g.step e).1 (history ++ [⟨g, e⟩]) id =
      { trace g history id with live := (g.step e).1.call? id } := by
  have hframed : Framed g id (g.step e) := (step_control g e).framed hid
  have hanswers : answersTo id Stage.isOwn [⟨g, e⟩] = [] := by
    refine answersTo_unanswered ?_ _
    rintro answer rfl
    exact hid rfl
  have hturn : turn id (g.step e) = ⟨[], [], (g.step e).1.call? id⟩ := by
    unfold turn
    rw [hframed.requests, hframed.results]
  rw [trace_concat, hanswers, hturn, Trace.next_quiet]

/-- Nothing happens for a call that is over, unless its number is given to another one. -/
theorem trace_of_over (hc : g.call? id = none) (he : ∀ purpose, e.started? ≠ some (id, purpose)) :
    trace (g.step e).1 (history ++ [⟨g, e⟩]) id = trace g history id := by
  by_cases hid : e.subject? = some id
  · refine trace_ignored ?_
    obtain ⟨answer, rfl⟩ | rfl | rfl := Event.cases_of_subject hid he
    · simp [Ignores, hc]
    · simp [Ignores, hc]
    · exact hc
  · have hnone : (g.step e).1.call? id = none := by
      obtain hsame | ⟨-, -, o, htold⟩ := ((step_control g e).framed hid).call
      · rw [hsame, hc]
      · rw [htold, hc]
        rfl
    rw [trace_of_ne hid, hnone, ← hc]
    rfl

theorem trace_cancelled :
    trace (g.step (.cancel id)).1 (history ++ [⟨g, .cancel id⟩]) id =
      { trace g history id with live := none } := by
  have hanswers : answersTo id Stage.isOwn [⟨g, .cancel id⟩] = [] := by
    refine answersTo_unanswered ?_ _
    rintro answer ⟨⟩
  rw [trace_concat, hanswers, turn_cancelled, Trace.next_quiet]

end

/-- What a step can do to a call that is going on: nothing, unless the call goes away, is told an
outcome, is answered, or goes on. -/
theorem Coherent.trace_live {g : Gateway σ} (hg : Coherent g) (history : List (Moment σ))
    {e : Event} {id : CallId} {c : Call} (hc : g.call? id = some c)
    (he : ∀ purpose, e.started? ≠ some (id, purpose)) :
    trace (g.step e).1 (history ++ [⟨g, e⟩]) id = trace g history id ∨
      (e = .cancel id ∧ trace (g.step e).1 (history ++ [⟨g, e⟩]) id =
        { trace g history id with live := none }) ∨
      (c.stage = .queued ∧ ∃ o, trace (g.step e).1 (history ++ [⟨g, e⟩]) id =
          { trace g history id with live := some { c with stage := .released o } } ∧
        ∀ token, o = .refreshed token → (g.step e).1.context.session.access = some token) ∨
      (∃ answer, e = .answer id answer) ∨
      (∃ o, e = .resume id ∧ c.stage = .released o) := by
  by_cases hid : e.subject? = some id
  · obtain ⟨answer, rfl⟩ | rfl | rfl := Event.cases_of_subject hid he
    · exact .inr (.inr (.inr (.inl ⟨answer, rfl⟩)))
    · by_cases hs : ∃ o, c.stage = .released o
      · obtain ⟨o, hs⟩ := hs
        exact .inr (.inr (.inr (.inr ⟨o, rfl, hs⟩)))
      · refine .inl (trace_ignored ?_)
        intro d o hd hr
        rw [hc] at hd
        cases hd
        exact hs ⟨o, hr⟩
    · exact .inr (.inl ⟨rfl, trace_cancelled⟩)
  · obtain hsame | ⟨hq, -, o, htold⟩ := ((step_control g e).framed hid).call
    · left
      rw [trace_of_ne hid, hsame]
      rfl
    · obtain ⟨d, hd, hs⟩ := hg.mem_queue.1 hq
      rw [hc] at hd
      cases hd
      rw [hc, Option.map_some] at htold
      refine .inr (.inr (.inl ⟨hs, o, ?_, ?_⟩))
      · rw [trace_of_ne hid, htold]
      · rintro token rfl
        obtain hsame | ⟨-, leader, l, hl, hls, ⟨answer, rfl, ho⟩ | ⟨-, ho⟩⟩ := hg.told htold rfl
        · rw [hc] at hsame
          injection hsame with hsame
          rw [hsame] at hs
          cases hs
        · obtain ⟨refresh, hr⟩ := refreshChange_of_refreshed ho.symm
          rw [step_refreshed_context hl hls, hr, SessionContext.after_session]
          rfl
        · cases ho

end Gateway

/-! ## Tokens since a call was turned down -/

/-- The first request of a call is turned down for want of credentials. -/
def Moment.TurnsDown (id : CallId) (m : Moment σ) : Prop :=
  ∃ response, m.answer? Stage.isFirst = some (id, .ok response) ∧ response.status = 401

theorem Moment.turnsDown {g : Gateway σ} {id : CallId} {c : Call} {token : Option String}
    {response : Response} (hc : g.call? id = some c) (hs : c.stage = .first token)
    (h401 : response.status = 401) : (Moment.mk g (.answer id (.ok response))).TurnsDown id := by
  refine ⟨response, ?_, h401⟩
  rw [Moment.answer?_eq rfl hc, hs]
  rfl

variable [KeyStore σ]

/-- The session has held a token at some moment since the call was turned down. -/
def HeldSince (id : CallId) (history : List (Moment σ)) (token : String) : Prop :=
  ∃ earlier m since, history = earlier ++ m :: since ∧ m.TurnsDown id ∧
    ∃ n ∈ m :: since, n.after.context.session.access = some token

namespace HeldSince

variable {id : CallId} {history : List (Moment σ)} {token : String} {m : Moment σ}

theorem concat (h : HeldSince id history token) (m : Moment σ) :
    HeldSince id (history ++ [m]) token := by
  obtain ⟨earlier, first, since, rfl, hdown, n, hn, ha⟩ := h
  refine ⟨earlier, first, since ++ [m], by simp, hdown, n, ?_, ha⟩
  rw [← List.cons_append]
  exact List.mem_append_left _ hn

/-- The session holds the token after the latest step. -/
theorem now (hdown : ∃ n ∈ history, n.TurnsDown id)
    (ha : m.after.context.session.access = some token) : HeldSince id (history ++ [m]) token := by
  obtain ⟨n, hn, hdown⟩ := hdown
  obtain ⟨earlier, since, rfl⟩ := List.append_of_mem hn
  refine ⟨earlier, n, since ++ [m], by simp, hdown, m, ?_, ha⟩
  rw [← List.cons_append]
  exact List.mem_concat_self

/-- The session holds the token as the call is turned down. -/
theorem atOnce (hdown : m.TurnsDown id) (ha : m.after.context.session.access = some token) :
    HeldSince id (history ++ [m]) token :=
  ⟨history, m, [], rfl, hdown, m, List.mem_singleton_self m, ha⟩

theorem turnedDown (h : HeldSince id history token) : ∃ n ∈ history, n.TurnsDown id := by
  obtain ⟨earlier, n, since, rfl, hdown, -⟩ := h
  exact ⟨n, List.mem_append_right _ List.mem_cons_self, hdown⟩

end HeldSince

end AccessConsole
