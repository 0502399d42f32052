import AccessConsole.Proofs.Gateway.Edits
import AccessConsole.Proofs.Gateway.Standing

/-!
# One refresh for all who need it

Any number of calls go out with one token and are all turned down. The first of them gets a new
token, and the others share it, whenever they are turned down: before the refresh, during it, or
after it. Only a refresh that hands out the very same token again is not seen by those that are
turned down after it.

* `Shared` — every call stands where the refresh leaves it.
* `Shared.step`, `shared_run` — this holds before the first call and after every step.
* `expired_token_costs_one_refresh` — once all calls are over, one request for a new token was sent,
  and every call had the outcome of that refresh.
-/

namespace AccessConsole.Gateway

variable {σ : Type} [KeyStore σ]

/-- Every call that was sent is where the refresh leaves it. -/
structure Shared (t : String) (ask : Request) (s : Progress) (g : Gateway σ)
    (history : List (Moment σ)) : Prop where
  coherent : Coherent g
  holds : s.Holds t ask g
  calls : refreshCallsOf history = s.leader?.toList.map fun id => (id, ask)
  answers : answersAt (· = .leading) history = s.answers
  /-- The refresh is led by one of the calls. -/
  led : ∀ leader, s.leader? = some leader → ∃ request, (leader, request) ∈ begun history
  standing : ∀ id request, (id, request) ∈ begun history →
    ∃ first, request.withBearer? t = some first ∧
      Standing t ask id request first s (account g history id)
  /-- Nothing was done for any other call. -/
  unheard : ∀ id, (∀ request, (id, request) ∉ begun history) → account g history id = .blank

/-! ## Steps -/

section

variable {t : String} {ask : Request} {s s' : Progress} {g : Gateway σ} {history : List (Moment σ)}

/-- A step moves the call that its event is about, and perhaps the refresh. -/
theorem Shared.advance (h : Shared t ask s g history) {e : Event} {id : CallId}
    {request first : Request} (he : e.subject? = some id)
    (hd : ((begun (history ++ [⟨g, e⟩])).map fun b => b.1).Nodup)
    (hb : (id, request) ∈ begun (history ++ [⟨g, e⟩])) (hf : request.withBearer? t = some first)
    (hholds : s'.Holds t ask (g.step e).1)
    (hcalls : (s'.leader?.toList.map fun id => (id, ask)) =
      (s.leader?.toList.map fun id => (id, ask)) ++ refreshCalls (g.step e))
    (hanswers : s'.answers = s.answers ++ ((Moment.mk g e).answer? (· = .leading)).toList)
    (hself : Standing t ask id request first s'
      (account (g.step e).1 (history ++ [⟨g, e⟩]) id))
    (hothers : ∀ j request first, j ≠ id → Standing t ask j request first s (account g history j) →
      Standing t ask j request first s'
        { account g history j with live := (g.step e).1.call? j }) :
    Shared t ask s' (g.step e).1 (history ++ [⟨g, e⟩]) := by
  have hsub : ∀ j, j ≠ id → e.subject? ≠ some j := by
    intro j hne hj
    rw [he] at hj
    cases hj
    exact hne rfl
  refine ⟨h.coherent.step e, hholds, ?_, ?_, ?_, ?_, ?_⟩
  · rw [refreshCallsOf_concat, h.calls, hcalls]
    rfl
  · rw [answersAt_concat, h.answers, hanswers]
  · -- The leader is the old one, or it has just sent the request for a new token.
    intro leader hl
    have hmem : (leader, ask) ∈ s'.leader?.toList.map fun id => (id, ask) := by
      rw [hl]
      exact List.mem_singleton.2 rfl
    rw [hcalls, List.mem_append] at hmem
    obtain hold | hnew := hmem
    · obtain ⟨_, hl', ⟨⟩⟩ := List.mem_map.1 hold
      obtain ⟨r, hr⟩ := h.led leader (Option.mem_toList.1 hl')
      exact ⟨r, mem_begun_concat hr _⟩
    · obtain ⟨_, _, _, _, rfl, -⟩ := (step_control g e).refreshCalls hnew
      cases he
      exact ⟨request, hb⟩
  · intro j r hj
    by_cases hne : j = id
    · subst hne
      cases eq_of_mem_begun hd hb hj
      exact ⟨first, hf, hself⟩
    · obtain ⟨f, hrf, hst⟩ := h.standing j r ((mem_begun_of_ne he hne).1 hj)
      refine ⟨f, hrf, ?_⟩
      rw [account_of_ne (hsub j hne)]
      exact hothers j r f hne hst
  · intro j hj
    have hne : j ≠ id := by
      rintro rfl
      exact hj request hb
    have hblank := h.unheard j fun r hr => hj r ((mem_begun_of_ne he hne).2 hr)
    have hnone : g.call? j = none := congrArg Account.live hblank
    have hlive : (g.step e).1.call? j = none := by
      obtain hcall | ⟨-, -, o, hcall⟩ := ((step_control g e).framed (hsub j hne)).call
      · rw [hcall, hnone]
      · rw [hcall, hnone]
        rfl
    rw [account_of_ne (hsub j hne), hblank, hlive]
    rfl

/-- A step that ignores its event moves nothing. -/
theorem Shared.ignored (h : Shared t ask s g history) {e : Event} (hstep : g.step e = (g, []))
    (hbegun : e.begun? = none) (hl : (Moment.mk g e).answer? (· = .leading) = none)
    (hs : (Moment.mk g e).answer? (· = .second) = none) :
    Shared t ask s (g.step e).1 (history ++ [⟨g, e⟩]) := by
  have hb : begun (history ++ [⟨g, e⟩]) = begun history := by
    rw [begun_concat]
    show begun history ++ e.begun?.toList = _
    rw [hbegun]
    exact List.append_nil _
  refine ⟨h.coherent.step e, ?_, ?_, ?_, ?_, ?_, ?_⟩
  · rw [hstep]
    exact h.holds
  · have hnone : (Moment.mk g e).refreshCalls = [] := congrArg refreshCalls hstep
    rw [refreshCallsOf_concat, h.calls, hnone, List.append_nil]
  · rw [answersAt_concat, h.answers, hl]
    exact List.append_nil _
  · rw [hb]
    exact h.led
  · rw [hb]
    intro id request hid
    rw [account_ignored hstep hs]
    exact h.standing id request hid
  · rw [hb]
    intro id hid
    rw [account_ignored hstep hs]
    exact h.unheard id hid

/-- A call is sent. -/
theorem Shared.sent (h : Shared t ask s g history) {id : CallId} {request : Request}
    (ht : TurnedDown t (history ++ [⟨g, .send id request⟩])) :
    Shared t ask s (g.step (.send id request)).1 (history ++ [⟨g, .send id request⟩]) := by
  have hbegun : begun (history ++ [⟨g, .send id request⟩]) = begun history ++ [(id, request)] :=
    begun_concat _ _
  have hnew : ∀ r, (id, r) ∉ begun history := by
    intro r hr
    have hd := ht.distinct
    rw [hbegun, List.map_append, List.nodup_append] at hd
    exact hd.2.2 id (List.mem_map.2 ⟨_, hr, rfl⟩) id (List.mem_singleton.2 rfl) rfl
  have hblank := h.unheard id hnew
  have hnone : g.call? id = none := congrArg Account.live hblank
  have hlive : (g.step (.send id request)).1.call? id =
      some ⟨id, .send, request, .first (some t)⟩ :=
    ht.sent _ List.mem_concat_self id request rfl
  have hbegin : g.step (.send id request) = g.begin ⟨id, .send, request, .bare⟩ := by
    simp only [step, hnone, Option.isSome_none, Bool.false_eq_true, if_false]
  have honward := begin_onward g ⟨id, .send, request, .bare⟩
  rw [← hbegin] at honward
  obtain ⟨stage, first, -, hstep, hfirst⟩ := honward.of_live (by rw [hlive]; simp)
  have hstage : stage = .first (some t) := by
    rw [hstep] at hlive
    cases (call?_suspend_self g ⟨id, .send, request, .bare⟩ stage).symm.trans hlive
    rfl
  obtain ⟨-, hf⟩ := hfirst (some t) hstage
  refine h.advance rfl ht.distinct ?_ hf ?_ ?_ ?_ ?_ ?_
  · rw [hbegun]
    exact List.mem_concat_self
  · rw [hstep]
    cases s <;> exact h.holds
  · rw [honward.refreshCalls, List.append_nil]
  · exact (List.append_nil _).symm
  · rw [account_unanswered history rfl, hblank, hlive, hstep]
    simp only [Account.blank, dispatching, requestsFor, resultsFor, List.filterMap_cons,
      List.filterMap_nil, if_true, List.nil_append]
    refine .first ?_
    intro hl
    obtain ⟨r, hr⟩ := h.led id hl
    exact hnew r hr
  · intro j r f hne hst
    exact hst.kept rfl hne (.inl honward.queue)

/-! A call is turned down. It leads the refresh, waits for it, or goes on with its outcome. -/

/-- Before the refresh, a call that is turned down leads it. -/
theorem Shared.leading (h : Shared t ask .ahead g history) {id : CallId} {request first : Request}
    {response : Response} (h401 : response.status = 401)
    (hd : ((begun (history ++ [⟨g, .answer id (.ok response)⟩])).map fun b => b.1).Nodup)
    (hb : (id, request) ∈ begun (history ++ [⟨g, .answer id (.ok response)⟩]))
    (hf : request.withBearer? t = some first)
    (hacc : account g history id =
      ⟨[first], [], [], some ⟨id, .send, request, .first (some t)⟩⟩) :
    Shared t ask (.going id) (g.step (.answer id (.ok response))).1
      (history ++ [⟨g, .answer id (.ok response)⟩]) := by
  have hc : g.call? id = some ⟨id, .send, request, .first (some t)⟩ := congrArg Account.live hacc
  have hself := account_answered history hc (.ok response)
  rw [hacc] at hself
  obtain ⟨hp, ha, refresh, hr, hask⟩ := h.holds
  have hstep := step_rejected hc rfl h401
  rw [recover_of_current (by rw [hp]; simp) (.inr ha.symm), lead_of_some hr, ← hask] at hstep
  have hlive : ({ g with phase := .refreshing : Gateway σ }.suspend
      ⟨id, .send, request, .first (some t)⟩ .leading).call? id =
      some ⟨id, .send, request, .leading⟩ := call?_suspend_self _ _ .leading
  refine h.advance rfl hd hb hf ?_ ?_ ?_ ?_ ?_
  · rw [hstep]
    rfl
  · rw [hstep, refreshCalls_lead]
    rfl
  · rw [Moment.answer?_eq (m := ⟨g, .answer id (.ok response)⟩) rfl hc]
    rfl
  · rw [hself, hstep]
    simp only [dispatching, hlive, requestsFor, resultsFor, List.filterMap_cons,
      List.filterMap_nil, if_true, reduceCtorEq, if_false, List.append_nil]
    exact .leading
  · intro j r f hne hst
    refine (hst.kept rfl hne (.inl ?_)).led hne
    rw [hstep]
    rfl

/-- During the refresh, a call that is turned down waits for it. -/
theorem Shared.joining {leader : CallId} (h : Shared t ask (.going leader) g history) {id : CallId}
    {request first : Request} {response : Response} (h401 : response.status = 401)
    (hne : leader ≠ id)
    (hd : ((begun (history ++ [⟨g, .answer id (.ok response)⟩])).map fun b => b.1).Nodup)
    (hb : (id, request) ∈ begun (history ++ [⟨g, .answer id (.ok response)⟩]))
    (hf : request.withBearer? t = some first)
    (hacc : account g history id =
      ⟨[first], [], [], some ⟨id, .send, request, .first (some t)⟩⟩) :
    Shared t ask (.going leader) (g.step (.answer id (.ok response))).1
      (history ++ [⟨g, .answer id (.ok response)⟩]) := by
  have hc : g.call? id = some ⟨id, .send, request, .first (some t)⟩ := congrArg Account.live hacc
  have hself := account_answered history hc (.ok response)
  rw [hacc] at hself
  have hstep := step_rejected hc rfl h401
  rw [recover_of_refreshing h.holds] at hstep
  have hlive : (g.join ⟨id, .send, request, .first (some t)⟩).1.call? id =
      some ⟨id, .send, request, .queued⟩ :=
    call?_suspend_self g ⟨id, .send, request, .first (some t)⟩ .queued
  refine h.advance rfl hd hb hf ?_ ?_ ?_ ?_ ?_
  · rw [hstep]
    exact h.holds
  · rw [hstep]
    rfl
  · rw [Moment.answer?_eq (m := ⟨g, .answer id (.ok response)⟩) rfl hc]
    rfl
  · rw [hself, hstep, hlive]
    exact .queued hne
  · intro j r f hji hst
    refine hst.kept rfl hji (.inr ?_)
    rw [hstep]
    exact List.append_ne_nil_of_right_ne_nil _ (List.cons_ne_nil _ _)

/-- After the refresh, a call goes on with its outcome. -/
theorem Shared.goesOn {leader : CallId} {answer : Except String Response}
    (h : Shared t ask (.settled leader answer) g history) {e : Event} {id : CallId}
    {request first : Request} {call : Option Call} (he : e.subject? = some id)
    (hd : ((begun (history ++ [⟨g, e⟩])).map fun b => b.1).Nodup)
    (hb : (id, request) ∈ begun (history ++ [⟨g, e⟩])) (hf : request.withBearer? t = some first)
    (hne : leader ≠ id) (hacc : account g history id = ⟨[first], [], [], call⟩)
    (hl : (Moment.mk g e).answer? (· = .leading) = none)
    (hs : (Moment.mk g e).answer? (· = .second) = none)
    (hphase : (g.step e).1.phase = .idle) (hqueue : (g.step e).1.queue = g.queue)
    (hagrees : (g.step e).1.context.AgreesWith (refreshOutcome answer))
    (hcalls : refreshCalls (g.step e) = [])
    (hstanding : Standing t ask id request first (.settled leader answer)
      { sent := first :: (Progress.settled leader answer).asked ask id ++
          requestsFor id (g.step e).2
        answers := []
        results := resultsFor id (g.step e).2
        live := (g.step e).1.call? id }) :
    Shared t ask (.settled leader answer) (g.step e).1 (history ++ [⟨g, e⟩]) := by
  refine h.advance he hd hb hf ⟨hphase, hagrees⟩ ?_ ?_ ?_ ?_
  · rw [hcalls, List.append_nil]
  · rw [hl]
    rfl
  · have hasked : (Progress.settled leader answer).asked ask id = [] :=
      if_neg fun heq => hne (Option.some.inj heq)
    rw [hasked] at hstanding
    rw [account_unanswered history hs, hacc]
    exact hstanding
  · intro j r f hji hst
    exact hst.kept he hji (.inl hqueue)

/-- After the refresh, a call that is turned down goes on with its outcome: with the token that the
session holds now, or without a session. -/
theorem Shared.late {leader : CallId} {answer : Except String Response}
    (h : Shared t ask (.settled leader answer) g history) {id : CallId} {request first : Request}
    {response : Response} (h401 : response.status = 401) (hne : leader ≠ id)
    (hin : InTime t (history ++ [⟨g, .answer id (.ok response)⟩]))
    (hd : ((begun (history ++ [⟨g, .answer id (.ok response)⟩])).map fun b => b.1).Nodup)
    (hb : (id, request) ∈ begun (history ++ [⟨g, .answer id (.ok response)⟩]))
    (hf : request.withBearer? t = some first)
    (hacc : account g history id =
      ⟨[first], [], [], some ⟨id, .send, request, .first (some t)⟩⟩) :
    Shared t ask (.settled leader answer) (g.step (.answer id (.ok response))).1
      (history ++ [⟨g, .answer id (.ok response)⟩]) := by
  have hc : g.call? id = some ⟨id, .send, request, .first (some t)⟩ := congrArg Account.live hacc
  have hat := Moment.answer?_eq (m := ⟨g, .answer id (.ok response)⟩) rfl hc
  obtain ⟨hp, hagrees⟩ := h.holds
  have hp' : g.phase ≠ .refreshing := by rw [hp]; simp
  have hstep := step_rejected hc rfl h401
  cases ho : refreshOutcome answer with
  | refreshed token =>
    rw [ho] at hagrees
    -- The refresh handed out another token than `t`, or this call would not be turned down now.
    have hother : some t ≠ some token := by
      rintro ⟨⟩
      have hmem : (leader, answer) ∈ answersAt (· = .leading) history := by
        rw [h.answers]
        exact List.mem_singleton.2 rfl
      have hnone := hin.last hmem ho
      rw [hat] at hnone
      cases hnone
    rw [recover_of_other hp' hagrees hother] at hstep
    change g.step (.answer id (.ok response)) =
      g.proceed ⟨id, .send, request, .first (some t)⟩ (.refreshed token) at hstep
    have honward := proceed_onward g ⟨id, .send, request, .first (some t)⟩ (.refreshed token)
    rw [← hstep] at honward
    refine h.goesOn rfl hd hb hf hne hacc (hat (· = .leading)) (hat (· = .second))
      (honward.phase.trans hp) honward.queue ?_ honward.refreshCalls ?_
    · rw [hstep, proceed_context, ho]
      exact hagrees
    · rw [hstep]
      refine proceed_standing g _ ?_
      rw [ho]
      exact Agree.refl _
  | failed reason =>
    rw [ho] at hagrees
    -- The session is over, so there is nothing left to refresh it with.
    obtain ⟨hempty, -⟩ := hagrees
    have hnone : g.context.session.access = none := by rw [hempty]
    rw [recover_of_current hp' (.inl hnone), lead_of_none (by rw [hempty])] at hstep
    refine h.goesOn rfl hd hb hf hne hacc (hat (· = .leading)) (hat (· = .second)) ?_ ?_ ?_ ?_ ?_
    · rw [hstep, settleLeader_phase]
    · rw [hstep, settleLeader_queue, (h.coherent.idle hp').2.2]
    · rw [hstep, settleLeader_context, ho]
      exact ⟨rfl, rfl⟩
    · rw [hstep, refreshCalls_settleLeader]
    · rw [hstep]
      refine settleLeader_standing _ _ ?_
      rw [ho]
      trivial

/-- The refresh is answered. -/
theorem Shared.answered {id : CallId} (h : Shared t ask (.going id) g history)
    {request first : Request} (answer : Except String Response)
    (hd : ((begun (history ++ [⟨g, .answer id answer⟩])).map fun b => b.1).Nodup)
    (hb : (id, request) ∈ begun (history ++ [⟨g, .answer id answer⟩]))
    (hf : request.withBearer? t = some first)
    (hacc : account g history id =
      ⟨[first, ask], [], [], some ⟨id, .send, request, .leading⟩⟩) :
    Shared t ask (.settled id answer) (g.step (.answer id answer)).1
      (history ++ [⟨g, .answer id answer⟩]) := by
  have hc : g.call? id = some ⟨id, .send, request, .leading⟩ := congrArg Account.live hacc
  have hself := account_answered history hc answer
  rw [hacc] at hself
  have hstep : g.step (.answer id answer) =
      (g.changed (refreshChange answer)).settleLeader ⟨id, .send, request, .leading⟩
        (refreshOutcome answer) := by
    rw [← refreshAnswered_eq]
    simp only [step, hc, Gateway.answered]
  refine h.advance rfl hd hb hf ?_ ?_ ?_ ?_ ?_
  · rw [hstep]
    refine ⟨settleLeader_phase _ _ _, ?_⟩
    rw [settleLeader_context]
    exact refreshChange_agrees g answer
  · rw [hstep, refreshCalls_settleLeader, List.append_nil]
    rfl
  · rw [Moment.answer?_eq (m := ⟨g, .answer id answer⟩) rfl hc]
    rfl
  · rw [hself, hstep]
    have hasked : (Progress.settled id answer).asked ask id = [ask] := if_pos rfl
    have hstanding := @settleLeader_standing σ _ t ask id request first
      (g.changed (refreshChange answer)) .leading id answer _ (Agree.refl _)
    rw [hasked] at hstanding
    exact hstanding
  · intro j r f hji hst
    refine hst.settled hji ?_
    intro c hcj
    rw [hstep]
    exact h.coherent.call?_settleLeader (.changed _) _ _ hji hcj

/-- The second request of a call is answered. -/
theorem Shared.returned {leader : CallId} {settling : Except String Response}
    (h : Shared t ask (.settled leader settling) g history) {id : CallId}
    {request first second : Request} {token : String} (answer : Except String Response)
    (hd : ((begun (history ++ [⟨g, .answer id answer⟩])).map fun b => b.1).Nodup)
    (hb : (id, request) ∈ begun (history ++ [⟨g, .answer id answer⟩]))
    (hf : request.withBearer? t = some first) (ho : refreshOutcome settling = .refreshed token)
    (hsecond : request.withBearer? token = some second)
    (hacc : account g history id =
      ⟨first :: (Progress.settled leader settling).asked ask id ++ [second], [], [],
        some ⟨id, .send, request, .second⟩⟩) :
    Shared t ask (.settled leader settling) (g.step (.answer id answer)).1
      (history ++ [⟨g, .answer id answer⟩]) := by
  have hc : g.call? id = some ⟨id, .send, request, .second⟩ := congrArg Account.live hacc
  have hself := account_answered history hc answer
  rw [hacc] at hself
  have hstep : g.step (.answer id answer) =
      g.finish id ((finalResult answer).map .response) := by
    simp only [step, hc, Gateway.answered, conclude]
  have hgone : (g.without id).call? id = none := call?_without_self g id
  refine h.advance rfl hd hb hf ?_ ?_ ?_ ?_ ?_
  · rw [hstep]
    exact h.holds
  · rw [hstep]
    exact (List.append_nil _).symm
  · rw [Moment.answer?_eq (m := ⟨g, .answer id answer⟩) rfl hc]
    rfl
  · rw [hself, hstep]
    simp only [finish, hgone, requestsFor, resultsFor, List.filterMap_cons, List.filterMap_nil,
      if_true, List.append_nil, List.nil_append]
    exact .returned ho hsecond
  · intro j r f hji hst
    refine hst.kept rfl hji (.inl ?_)
    rw [hstep]
    rfl

/-- A call that waited goes on. -/
theorem Shared.resumed {leader : CallId} {answer : Except String Response}
    (h : Shared t ask (.settled leader answer) g history) {id : CallId} {request first : Request}
    (hne : leader ≠ id)
    (hd : ((begun (history ++ [⟨g, .resume id⟩])).map fun b => b.1).Nodup)
    (hb : (id, request) ∈ begun (history ++ [⟨g, .resume id⟩]))
    (hf : request.withBearer? t = some first)
    (hacc : account g history id =
      ⟨[first], [], [], some ⟨id, .send, request, .released (refreshOutcome answer)⟩⟩) :
    Shared t ask (.settled leader answer) (g.step (.resume id)).1
      (history ++ [⟨g, .resume id⟩]) := by
  have hc : g.call? id = some ⟨id, .send, request, .released (refreshOutcome answer)⟩ :=
    congrArg Account.live hacc
  obtain ⟨hp, hagrees⟩ := h.holds
  have hstep : g.step (.resume id) =
      g.proceed ⟨id, .send, request, .released (refreshOutcome answer)⟩
        (refreshOutcome answer) := by
    simp only [step, hc]
  have honward := proceed_onward g ⟨id, .send, request, .released (refreshOutcome answer)⟩
    (refreshOutcome answer)
  rw [← hstep] at honward
  refine h.goesOn rfl hd hb hf hne hacc rfl rfl (honward.phase.trans hp) honward.queue ?_
    honward.refreshCalls ?_
  · rw [hstep, proceed_context]
    exact hagrees
  · rw [hstep]
    exact proceed_standing g _ (Agree.refl _)

theorem Shared.begun_of_live (h : Shared t ask s g history) {id : CallId} {c : Call}
    (hc : g.call? id = some c) : ∃ request, (id, request) ∈ begun history := by
  by_contra hnone
  have hblank := h.unheard id fun request hb => hnone ⟨request, hb⟩
  have hgone : g.call? id = none := congrArg Account.live hblank
  rw [hc] at hgone
  cases hgone

theorem Shared.step_answer (h : Shared t ask s g history) {id : CallId}
    {answer : Except String Response} (ht : TurnedDown t (history ++ [⟨g, .answer id answer⟩]))
    (hin : InTime t (history ++ [⟨g, .answer id answer⟩])) :
    ∃ s', Shared t ask s' (g.step (.answer id answer)).1
      (history ++ [⟨g, .answer id answer⟩]) := by
  cases hc : g.call? id with
  | none =>
    have hnone : ∀ p, (Moment.mk g (.answer id answer)).answer? p = none := by
      intro p
      unfold Moment.answer?
      simp only [hc, Option.any_none, Bool.false_eq_true, if_false]
    exact ⟨s, h.ignored (by simp only [step, hc]) rfl (hnone _) (hnone _)⟩
  | some c =>
    have hat := Moment.answer?_eq (m := ⟨g, .answer id answer⟩) rfl hc
    obtain ⟨request, hb⟩ := h.begun_of_live hc
    obtain ⟨first, hf, hstanding⟩ := h.standing id request hb
    have hb' := mem_begun_concat hb ⟨g, .answer id answer⟩
    have hlive : (account g history id).live = some c := hc
    generalize hacc : account g history id = acc at hstanding hlive
    -- One case for each place where a call can stand; the last three are of calls that are over.
    cases hstanding with
    | first hl =>
      cases hlive
      obtain ⟨response, rfl, h401⟩ := ht.rejected _
        List.mem_concat_self id answer (hat Stage.isFirst)
      cases s with
      | ahead => exact ⟨_, h.leading h401 ht.distinct hb' hf hacc⟩
      | going leader =>
        have hne : leader ≠ id := fun heq => hl (congrArg some heq)
        exact ⟨_, h.joining h401 hne ht.distinct hb' hf hacc⟩
      | settled leader _ =>
        have hne : leader ≠ id := fun heq => hl (congrArg some heq)
        exact ⟨_, h.late h401 hne hin ht.distinct hb' hf hacc⟩
    | leading => exact ⟨_, h.answered answer ht.distinct hb' hf hacc⟩
    | queued _ =>
      cases hlive
      exact ⟨_, h.ignored (by simp only [step, hc, Gateway.answered]) rfl (hat (· = .leading))
        (hat (· = .second))⟩
    | released _ =>
      cases hlive
      exact ⟨_, h.ignored (by simp only [step, hc, Gateway.answered]) rfl (hat (· = .leading))
        (hat (· = .second))⟩
    | second ho hsecond => exact ⟨_, h.returned answer ht.distinct hb' hf ho hsecond hacc⟩
    | returned _ _ => cases hlive
    | failed _ => cases hlive
    | illegal _ _ hnone =>
      rw [hnone] at hlive
      cases hlive

theorem Shared.step_resume (h : Shared t ask s g history) {id : CallId}
    (ht : TurnedDown t (history ++ [⟨g, .resume id⟩])) :
    ∃ s', Shared t ask s' (g.step (.resume id)).1 (history ++ [⟨g, .resume id⟩]) := by
  cases hc : g.call? id with
  | none => exact ⟨s, h.ignored (by simp only [step, hc]) rfl rfl rfl⟩
  | some c =>
    by_cases hs : ∃ o, c.stage = .released o
    · obtain ⟨request, hb⟩ := h.begun_of_live hc
      obtain ⟨first, hf, hstanding⟩ := h.standing id request hb
      have hb' := mem_begun_concat hb ⟨g, .resume id⟩
      obtain ⟨o, hs⟩ := hs
      have hlive : (account g history id).live = some c := hc
      generalize hacc : account g history id = acc at hstanding hlive
      cases hstanding with
      | released hne => exact ⟨_, h.resumed hne ht.distinct hb' hf hacc⟩
      | illegal _ _ hnone =>
        rw [hnone] at hlive
        cases hlive
      | _ =>
        cases hlive
        try cases hs
    · have hstep : g.step (.resume id) = (g, []) := by
        simp only [step, hc]
        split
        · rename_i o ho
          exact absurd ⟨o, ho⟩ hs
        · rfl
      exact ⟨s, h.ignored hstep rfl rfl rfl⟩

/-- Every step of such a run keeps the calls where the refresh leaves them. -/
theorem Shared.step (h : Shared t ask s g history) {e : Event}
    (ht : TurnedDown t (history ++ [⟨g, e⟩])) (hin : InTime t (history ++ [⟨g, e⟩])) :
    ∃ s', Shared t ask s' (g.step e).1 (history ++ [⟨g, e⟩]) := by
  have hplain : e.isPlain = true :=
    ht.plain ⟨g, e⟩ List.mem_concat_self
  cases e with
  | send id request => exact ⟨s, h.sent ht⟩
  | answer id answer => exact h.step_answer ht hin
  | resume id => exact h.step_resume ht
  | login _ _ _ => cases hplain
  | cancel _ => cases hplain
  | change _ => cases hplain

end

/-! ## Runs -/

theorem shared_run {config : Config} {context : SessionContext σ} {t refresh : String}
    (ha : context.session.access = some t) (hr : context.session.refresh = some refresh)
    (es : List Event) (ht : TurnedDown t ((start config context).history es))
    (hin : InTime t ((start config context).history es)) :
    ∃ s, Shared t (refreshRequest config refresh) s ((start config context).run es)
      ((start config context).history es) := by
  induction es using List.reverseRecOn with
  | nil =>
    have hholds : Progress.ahead.Holds t (refreshRequest config refresh) (start config context) :=
      ⟨rfl, ha, refresh, hr, rfl⟩
    refine ⟨.ahead, coherent_start config context, hholds, rfl, rfl, ?_, ?_, ?_⟩
    · rintro leader ⟨⟩
    · rintro id request hid
      exact absurd hid List.not_mem_nil
    · intro id _
      rfl
  | append_singleton es e ih =>
    rw [history_concat] at ht hin
    obtain ⟨s, hs⟩ := ih ht.init hin.init
    rw [run_concat, history_concat]
    exact hs.step ht hin

/-- Calls that go out with one token and are all turned down cost one request for a new token, in
whatever order they are turned down, unless a refresh hands out the very same token again and a call
is turned down only after that. If the refresh succeeds and the new token may stand in a header,
each of them is sent once more with it and has the result of its second request. If it fails, none
is sent again, all fail, and the session is over. -/
theorem expired_token_costs_one_refresh (config : Config) (context : SessionContext σ)
    (es : List Event) {t refresh : String} (ha : context.session.access = some t)
    (hr : context.session.refresh = some refresh)
    (ht : TurnedDown t ((start config context).history es))
    (hin : InTime t ((start config context).history es))
    (hsome : begun ((start config context).history es) ≠ [])
    (hdone : ((start config context).run es).calls = []) :
    let history := (start config context).history es
    let g := (start config context).run es
    let ask := refreshRequest config refresh
    ∃ leader answer,
      refreshCallsOf history = [(leader, ask)] ∧
      answersAt (· = .leading) history = [(leader, answer)] ∧
      (∀ tokens, refreshedTokens answer = .ok tokens →
        headerValue? (Request.bearer tokens.access) ≠ none →
        ∀ id request, (id, request) ∈ begun history → ∃ first second last,
          request.withBearer? t = some first ∧
          request.withBearer? tokens.access = some second ∧
          sentFor id history = first :: (if id = leader then [ask] else []) ++ [second] ∧
          answersTo id (· = .second) history = [last] ∧
          resultsOf id history = [(finalResult last).map .response]) ∧
      (∀ reason, refreshedTokens answer = .error reason →
        g.context.session = {} ∧ g.context.status = .reauthRequired ∧
        ∀ id request, (id, request) ∈ begun history → ∃ first reason',
          request.withBearer? t = some first ∧
          sentFor id history = first :: (if id = leader then [ask] else []) ∧
          resultsOf id history = [.error (.authenticationFailed reason')]) := by
  intro history g ask
  obtain ⟨s, hs⟩ := shared_run ha hr es ht hin
  -- A call was sent and is over, and that is so only once the refresh is.
  have hgone : ∀ id, (account g history id).live = none := by
    intro id
    show g.calls.find? _ = none
    rw [hdone]
    rfl
  obtain ⟨⟨id, request⟩, hid⟩ := List.exists_mem_of_ne_nil _ hsome
  obtain ⟨first, -, hstanding⟩ := hs.standing id request hid
  obtain ⟨leader, answer, rfl⟩ := hstanding.progress_settled (hgone id)
  refine ⟨leader, answer, hs.calls, hs.answers, ?_, ?_⟩
  · intro tokens hok hlegal j r hj
    have ho : refreshOutcome answer = .refreshed tokens.access := by
      unfold refreshOutcome
      rw [hok]
    obtain ⟨f, hf, hst⟩ := hs.standing j r hj
    obtain ⟨second, last, hsecond, hsent, hans, hres⟩ := hst.served (hgone j) ho hlegal
    exact ⟨f, second, last, hf, hsecond, hsent, hans, hres⟩
  · intro reason herr
    have ho : refreshOutcome answer = .failed reason := by
      unfold refreshOutcome
      rw [herr]
    obtain ⟨-, hagrees⟩ := hs.holds
    rw [ho] at hagrees
    refine ⟨hagrees.1, hagrees.2, ?_⟩
    intro j r hj
    obtain ⟨f, hf, hst⟩ := hs.standing j r hj
    obtain ⟨hsent, reason', hres⟩ := hst.turnedAway (hgone j) ho
    exact ⟨f, reason', hf, hsent, hres⟩

/-! Two calls: the one gets the new token before the other is turned down. -/

/-- The refresh hands out a token between the first call and the second. -/
def twoCalls (token : String) : List Event := [
  .send 0 (.new .get "u/0"),
  .send 1 (.new .get "u/1"),
  .answer 0 (.ok ⟨401, ""⟩),
  .answer 0 (.ok ⟨200, "\x7b\"access\":\"" ++ token ++ "\"\x7d"⟩),
  .answer 1 (.ok ⟨401, ""⟩),
  .answer 0 (.ok ⟨200, ""⟩),
  .answer 1 (.error "down")]

def twoHistory (token : String) : List (Moment MemoryStore) :=
  (start sampleConfig sampleContext).history (twoCalls token)

theorem turnedDown_twoHistory {token : String} (h : token = "a" ∨ token = "b") :
    TurnedDown "a" (twoHistory token) := by
  have hplain : ∀ m ∈ twoHistory token, m.event.isPlain = true := by
    obtain rfl | rfl := h <;> decide +kernel
  have hdistinct : ((begun (twoHistory token)).map fun b => b.1).Nodup := by
    obtain rfl | rfl := h <;> decide +kernel
  have hrejected : ∀ m ∈ twoHistory token, ∀ a ∈ m.answer? Stage.isFirst,
      isRejection a.2 = true := by
    obtain rfl | rfl := h <;> decide +kernel
  refine ⟨hplain, hdistinct, ?_, ?_⟩
  · unfold twoHistory twoCalls
    simp only [history, List.forall_mem_cons]
    refine ⟨?_, ?_, ?_, ?_, ?_, ?_, ?_, List.forall_mem_nil _⟩ <;> rintro id request ⟨⟩ <;> rfl
  · intro m hm id answer ha
    have h401 := hrejected m hm _ ha
    cases answer with
    | ok response => exact ⟨response, rfl, by simpa [isRejection] using h401⟩
    | error _ => cases h401

/-- A new token: the second call does without a refresh of its own. -/
theorem new_token_costs_one_refresh :
    InTime "a" (twoHistory "b") ∧
      ((start sampleConfig sampleContext).run (twoCalls "b")).calls = [] ∧
      ∃ leader, refreshCallsOf (twoHistory "b") = [(leader, refreshRequest sampleConfig "r")] := by
  have hother : ∀ m ∈ twoHistory "b", ∀ a ∈ m.answer? (· = .leading),
      refreshOutcome a.2 ≠ .refreshed "a" := by decide +kernel
  have hin : InTime "a" (twoHistory "b") := by
    refine List.Pairwise.imp_of_mem ?_ (List.pairwise_of_forall fun _ _ => trivial)
    rintro m _ hm _ _ ⟨id, answer, ha, ho⟩
    exact absurd ho (hother m hm _ ha)
  have hdone : ((start sampleConfig sampleContext).run (twoCalls "b")).calls = [] := by
    rw [← List.length_eq_zero_iff]
    decide +kernel
  obtain ⟨leader, _, hcalls, -⟩ := expired_token_costs_one_refresh sampleConfig sampleContext
    (twoCalls "b") rfl rfl (turnedDown_twoHistory (.inr rfl)) hin (List.cons_ne_nil _ _) hdone
  exact ⟨hin, hdone, leader, hcalls⟩

/-- The same token again: the second call is turned down with what the session holds, and leads a
refresh of its own. -/
theorem same_token_costs_two_refreshes :
    ¬∀ (config : Config) (context : SessionContext MemoryStore) (es : List Event)
      (t refresh : String), context.session.access = some t →
      context.session.refresh = some refresh →
      TurnedDown t ((start config context).history es) →
      begun ((start config context).history es) ≠ [] →
      ((start config context).run es).calls = [] →
      (refreshCallsOf ((start config context).history es)).length = 1 := by
  intro h
  have hdone : ((start sampleConfig sampleContext).run (twoCalls "a")).calls = [] := by
    rw [← List.length_eq_zero_iff]
    decide +kernel
  have hone := h sampleConfig sampleContext (twoCalls "a") "a" "r" rfl rfl
    (turnedDown_twoHistory (.inl rfl)) (List.cons_ne_nil _ _) hdone
  have htwo : (refreshCallsOf (twoHistory "a")).length = 2 := by decide +kernel
  exact absurd (hone.symm.trans htwo) (by decide)

end AccessConsole.Gateway
