import AccessConsole.Proofs.Gateway.Trace

/-!
# How far a call has come

Whatever else goes on, a call that is sent for its caller takes one of a few courses.

* `Course`, `Course.step` — the courses of a call that is sent with the token of the session.
* `Plain`, `Plain.step` — the courses of a call to a sign-in endpoint.
* `Plain.untouched` — such a call touches neither the session nor a refresh.
-/

namespace AccessConsole

namespace Gateway

variable {σ : Type} [KeyStore σ]

/-! ## Calls with credentials -/

/-- How far a call has come whose first request was `first`, sent with the token `token?`. -/
inductive Course (id : CallId) (request first : Request) (token? : Option String)
    (history : List (Moment σ)) : Trace → Prop
  | first :
    Course id request first token? history
      ⟨[first], [], [], [], some ⟨id, .send, request, .first token?⟩⟩
  | returned (answer : Except String Response) :
    Course id request first token? history
      ⟨[first], [], [answer], [(finalResult answer).map .response], none⟩
  | leading (ask : Request) (answer : Except String Response) :
    (∃ m ∈ history, m.TurnsDown id) →
    Course id request first token? history
      ⟨[first], [ask], [answer], [], some ⟨id, .send, request, .leading⟩⟩
  | queued (answer : Except String Response) :
    (∃ m ∈ history, m.TurnsDown id) →
    Course id request first token? history
      ⟨[first], [], [answer], [], some ⟨id, .send, request, .queued⟩⟩
  | released (answer : Except String Response) (o : Outcome) :
    (∃ m ∈ history, m.TurnsDown id) →
    (∀ token, o = .refreshed token → HeldSince id history token) →
    Course id request first token? history
      ⟨[first], [], [answer], [], some ⟨id, .send, request, .released o⟩⟩
  | second {asks : List Request} (answer : Except String Response) {copy : Request}
      {token : String} :
    asks.length ≤ 1 → HeldSince id history token → request.withBearer? token = some copy →
    Course id request first token? history
      ⟨[first, copy], asks, [answer], [], some ⟨id, .send, request, .second⟩⟩
  | replayed {asks : List Request} (answer last : Except String Response) {copy : Request}
      {token : String} :
    asks.length ≤ 1 → HeldSince id history token → request.withBearer? token = some copy →
    Course id request first token? history
      ⟨[first, copy], asks, [answer, last], [(finalResult last).map .response], none⟩
  | illegal {asks : List Request} (answer : Except String Response) {token : String} :
    asks.length ≤ 1 → HeldSince id history token → request.withBearer? token = none →
    Course id request first token? history
      ⟨[first], asks, [answer], [.error .invalidHeader], none⟩
  | failed {asks : List Request} (answer : Except String Response) (reason : AuthFailure) :
    asks.length ≤ 1 → (∃ m ∈ history, m.TurnsDown id) →
    Course id request first token? history
      ⟨[first], asks, [answer], [.error (.authenticationFailed reason)], none⟩
  /-- The call has gone away. -/
  | gone {t : Trace} :
    Course id request first token? history t → t.live ≠ none →
    (∃ m ∈ history, m.event.cancelled? = some id) →
    Course id request first token? history { t with live := none }

section

variable {id : CallId} {request first : Request} {token? : Option String}
  {history : List (Moment σ)}

/-- What is known of a call stays known. -/
theorem Course.concat {t : Trace} (h : Course id request first token? history t) (m : Moment σ) :
    Course id request first token? (history ++ [m]) t := by
  induction h with
  | first => exact .first
  | returned answer => exact .returned answer
  | leading ask answer hd => exact .leading ask answer (happened_concat hd m)
  | queued answer hd => exact .queued answer (happened_concat hd m)
  | released answer o hd ht =>
    exact .released answer o (happened_concat hd m) fun token ho => (ht token ho).concat m
  | second answer ha ht hr => exact .second answer ha (ht.concat m) hr
  | replayed answer last ha ht hr => exact .replayed answer last ha (ht.concat m) hr
  | illegal answer ha ht hr => exact .illegal answer ha (ht.concat m) hr
  | failed answer reason ha hd => exact .failed answer reason ha (happened_concat hd m)
  | gone _ hlive hgone ih => exact .gone ih hlive (happened_concat hgone m)

/-! A call that has been turned down goes on. -/

/-- It is sent once more with a token that the session has held since, or fails with it. -/
theorem Course.replay {asks : List Request} {answers added : List (Except String Response)}
    {answer : Except String Response} {live : Option Call} (hasks : asks.length ≤ 1)
    (hanswers : answers ++ added = [answer]) {token : String}
    (ht : HeldSince id history token) (g : Gateway σ) (stage : Stage) :
    Course id request first token? history
      (Trace.next ⟨[first], asks, answers, [], live⟩ added
        (turn id (g.replay ⟨id, .send, request, stage⟩ token))) := by
  obtain ⟨copy, hr, hturn⟩ | ⟨hr, hturn⟩ := turn_replay g id request stage token
  · have hnext : Trace.next ⟨[first], asks, answers, [], live⟩ added
        ⟨[copy], [], some ⟨id, .send, request, .second⟩⟩ =
        ⟨[first, copy], asks, [answer], [], some ⟨id, .send, request, .second⟩⟩ := by
      simp [Trace.next, Turn.leads, hanswers]
    rw [hturn, hnext]
    exact .second answer hasks ht hr
  · have hnext : Trace.next ⟨[first], asks, answers, [], live⟩ added
        ⟨[], [.error .invalidHeader], none⟩ =
        ⟨[first], asks, [answer], [.error .invalidHeader], none⟩ := by
      simp [Trace.next, Turn.leads, hanswers]
    rw [hturn, hnext]
    exact .illegal answer hasks ht hr

/-- It goes on with the outcome of a refresh. -/
theorem Course.proceed {asks : List Request} {answers added : List (Except String Response)}
    {answer : Except String Response} {live : Option Call} (hasks : asks.length ≤ 1)
    (hanswers : answers ++ added = [answer]) (hdown : ∃ m ∈ history, m.TurnsDown id) {o : Outcome}
    (ht : ∀ token, o = .refreshed token → HeldSince id history token) (g : Gateway σ)
    (stage : Stage) :
    Course id request first token? history
      (Trace.next ⟨[first], asks, answers, [], live⟩ added
        (turn id (g.proceed ⟨id, .send, request, stage⟩ o))) := by
  cases o with
  | refreshed token => exact .replay hasks hanswers (ht token rfl) g stage
  | failed reason =>
    have hturn : turn id (g.proceed ⟨id, .send, request, stage⟩ (.failed reason)) =
        ⟨[], [.error (.authenticationFailed reason)], none⟩ := turn_conclude g id request stage _
    have hnext : Trace.next ⟨[first], asks, answers, [], live⟩ added
        ⟨[], [.error (.authenticationFailed reason)], none⟩ =
        ⟨[first], asks, [answer], [.error (.authenticationFailed reason)], none⟩ := by
      simp [Trace.next, Turn.leads, hanswers]
    rw [hturn, hnext]
    exact .failed answer reason hasks hdown

/-! ## Steps -/

variable {g : Gateway σ}

/-- The first request is turned down. -/
theorem Course.turnedDown {response : Response}
    (hc : g.call? id = some ⟨id, .send, request, .first token?⟩) (h401 : response.status = 401) :
    Course id request first token? (history ++ [⟨g, .answer id (.ok response)⟩])
      (Trace.next ⟨[first], [], [], [], some ⟨id, .send, request, .first token?⟩⟩ [.ok response]
        (turn id (g.step (.answer id (.ok response))))) := by
  have hstep : g.step (.answer id (.ok response)) = g.recover _ token? := step_rejected hc rfl h401
  have hdown : (Moment.mk g (.answer id (.ok response))).TurnsDown id :=
    Moment.turnsDown hc rfl h401
  have hlast : ∃ m ∈ history ++ [⟨g, .answer id (.ok response)⟩], m.TurnsDown id :=
    ⟨_, List.mem_concat_self, hdown⟩
  by_cases hp : g.phase = .refreshing
  · rw [hstep, recover_of_refreshing hp, turn_join]
    exact .queued (.ok response) hlast
  · by_cases hcurrent : g.context.session.access = none ∨ token? = g.context.session.access
    · cases hr : g.context.session.refresh with
      | some refresh =>
        rw [hstep, recover_of_current hp hcurrent, lead_of_some hr, turn_dispatching]
        exact .leading _ (.ok response) hlast
      | none =>
        rw [hstep, recover_of_current hp hcurrent, lead_of_none hr, turn_settleLeader]
        exact .proceed (by simp) rfl hlast (by rintro token ⟨⟩) _ _
    · -- The session holds another token by now.
      obtain ⟨hsome, hne⟩ := not_or.1 hcurrent
      obtain ⟨current, ha⟩ := Option.ne_none_iff_exists'.1 hsome
      rw [ha] at hne
      have hheld : HeldSince id (history ++ [⟨g, .answer id (.ok response)⟩]) current := by
        refine .atOnce hdown ?_
        show (g.step (.answer id (.ok response))).1.context.session.access = some current
        rw [hstep, recover_of_other hp ha hne, replay_context, ha]
      rw [hstep, recover_of_other hp ha hne]
      exact .replay (by simp) rfl hheld _ _

/-- The first request is answered. -/
theorem Course.firstAnswered
    (ht : trace g history id =
      ⟨[first], [], [], [], some ⟨id, .send, request, .first token?⟩⟩)
    (answer : Except String Response) :
    Course id request first token? (history ++ [⟨g, .answer id answer⟩])
      (trace (g.step (.answer id answer)).1 (history ++ [⟨g, .answer id answer⟩]) id) := by
  have hc : g.call? id = some ⟨id, .send, request, .first token?⟩ := congrArg Trace.live ht
  rw [trace_concat, answersTo_answer hc, ht]
  have hfinal : g.step (.answer id answer) =
      g.conclude ⟨id, .send, request, .first token?⟩ (finalResult answer) →
      Course id request first token? (history ++ [⟨g, .answer id answer⟩])
        (Trace.next ⟨[first], [], [], [], some ⟨id, .send, request, .first token?⟩⟩ [answer]
          (turn id (g.step (.answer id answer)))) := by
    intro hstep
    rw [hstep, turn_conclude]
    exact .returned answer
  cases answer with
  | error text => exact hfinal (by simp only [step, hc, answered]; rfl)
  | ok response =>
    by_cases h401 : response.status = 401
    · exact .turnedDown hc h401
    · exact hfinal (by simp only [step, hc, answered, if_neg h401]; rfl)

/-- The request for a new token is answered. -/
theorem Course.leaderAnswered {ask : Request} {rejection : Except String Response}
    (ht : trace g history id =
      ⟨[first], [ask], [rejection], [], some ⟨id, .send, request, .leading⟩⟩)
    (hdown : ∃ m ∈ history, m.TurnsDown id) (answer : Except String Response) :
    Course id request first token? (history ++ [⟨g, .answer id answer⟩])
      (trace (g.step (.answer id answer)).1 (history ++ [⟨g, .answer id answer⟩]) id) := by
  have hc : g.call? id = some ⟨id, .send, request, .leading⟩ := congrArg Trace.live ht
  have hstep : g.step (.answer id answer) =
      (g.changed (refreshChange answer)).settleLeader ⟨id, .send, request, .leading⟩
        (refreshOutcome answer) := by
    simp only [step, hc, answered, refreshAnswered_eq]
  rw [trace_concat, answersTo_answer hc, ht, hstep, turn_settleLeader]
  refine .proceed (by simp) rfl (happened_concat hdown _) ?_ _ _
  intro token ho
  refine .now hdown ?_
  obtain ⟨refresh, hr⟩ := refreshChange_of_refreshed ho
  show (g.step (.answer id answer)).1.context.session.access = some token
  rw [step_refreshed_context hc rfl, hr, SessionContext.after_session]
  rfl

/-- The second request is answered. -/
theorem Course.secondAnswered {asks : List Request} {rejection : Except String Response}
    {copy : Request} {token : String}
    (ht : trace g history id =
      ⟨[first, copy], asks, [rejection], [], some ⟨id, .send, request, .second⟩⟩)
    (hasks : asks.length ≤ 1) (hheld : HeldSince id history token)
    (hr : request.withBearer? token = some copy) (answer : Except String Response) :
    Course id request first token? (history ++ [⟨g, .answer id answer⟩])
      (trace (g.step (.answer id answer)).1 (history ++ [⟨g, .answer id answer⟩]) id) := by
  have hc : g.call? id = some ⟨id, .send, request, .second⟩ := congrArg Trace.live ht
  have hstep : g.step (.answer id answer) =
      g.conclude ⟨id, .send, request, .second⟩ (finalResult answer) := by
    simp only [step, hc, answered]
  have hnext : Trace.next
      ⟨[first, copy], asks, [rejection], [], some ⟨id, .send, request, .second⟩⟩ [answer]
        ⟨[], [(finalResult answer).map .response], none⟩ =
      ⟨[first, copy], asks, [rejection, answer], [(finalResult answer).map .response], none⟩ := by
    simp [Trace.next, Turn.leads]
  rw [trace_concat, answersTo_answer hc, ht, hstep, turn_conclude]
  exact hnext ▸ .replayed rejection answer hasks (hheld.concat _) hr

/-- The call goes on after a refresh. -/
theorem Course.resumed {rejection : Except String Response} {o : Outcome}
    (ht : trace g history id =
      ⟨[first], [], [rejection], [], some ⟨id, .send, request, .released o⟩⟩)
    (hdown : ∃ m ∈ history, m.TurnsDown id)
    (hheld : ∀ token, o = .refreshed token → HeldSince id history token) :
    Course id request first token? (history ++ [⟨g, .resume id⟩])
      (trace (g.step (.resume id)).1 (history ++ [⟨g, .resume id⟩]) id) := by
  have hc : g.call? id = some ⟨id, .send, request, .released o⟩ := congrArg Trace.live ht
  have hstep : g.step (.resume id) = g.proceed ⟨id, .send, request, .released o⟩ o := by
    simp only [step, hc]
  have hanswers : answersTo id Stage.isOwn [Moment.mk g (.resume id)] = [] := by
    refine answersTo_unanswered ?_ _
    rintro answer ⟨⟩
  rw [trace_concat, hanswers, ht, hstep]
  exact .proceed (by simp) rfl (happened_concat hdown _)
    (fun token ho => (hheld token ho).concat _) _ _

/-- A step of the gateway is a step of the call, if it has to do with it at all. -/
theorem Course.step (hg : Coherent g)
    (h : Course id request first token? history (trace g history id)) {e : Event}
    (he : ∀ purpose, e.started? ≠ some (id, purpose)) :
    Course id request first token? (history ++ [⟨g, e⟩])
      (trace (g.step e).1 (history ++ [⟨g, e⟩]) id) := by
  have hsame : trace (g.step e).1 (history ++ [⟨g, e⟩]) id = trace g history id →
      Course id request first token? (history ++ [⟨g, e⟩])
        (trace (g.step e).1 (history ++ [⟨g, e⟩]) id) := by
    intro heq
    rw [heq]
    exact h.concat _
  cases hc : g.call? id with
  | none => exact hsame (trace_of_over hc he)
  | some c =>
    obtain heq | ⟨rfl, heq⟩ | ⟨hs, o, heq, hheld⟩ | ⟨answer, rfl⟩ | ⟨o, rfl, hs⟩ :=
      hg.trace_live history hc he
    · exact hsame heq
    · rw [heq]
      refine .gone (h.concat _) ?_ ⟨_, List.mem_concat_self, rfl⟩
      show g.call? id ≠ none
      rw [hc]
      simp
    · rw [heq]
      have hlive : (trace g history id).live = some c := hc
      generalize trace g history id = t at h hlive
      cases h with
      | queued answer hd =>
        cases hlive
        exact .released answer o (happened_concat hd _) fun token ho => .now hd (hheld token ho)
      | _ => cases hlive <;> cases hs
    · have hlive : (trace g history id).live = some c := hc
      have hwaits : c.stage = .queued ∨ (∃ o, c.stage = .released o) →
          g.Ignores (.answer id answer) := by
        intro hs d hd
        rw [hc] at hd
        cases hd
        exact hs
      generalize htrace : trace g history id = t at h hlive
      cases h with
      | first => exact .firstAnswered htrace answer
      | leading _ _ hd => exact .leaderAnswered htrace hd answer
      | second _ ha ht hr => exact .secondAnswered htrace ha ht hr answer
      | queued _ _ =>
        cases hlive
        exact hsame (trace_ignored (hwaits (.inl rfl)))
      | released _ o _ _ =>
        cases hlive
        exact hsame (trace_ignored (hwaits (.inr ⟨o, rfl⟩)))
      | _ => cases hlive
    · have hlive : (trace g history id).live = some c := hc
      generalize htrace : trace g history id = t at h hlive
      cases h with
      | released _ _ hd ht =>
        cases hlive
        cases hs
        exact .resumed htrace hd ht
      | _ => cases hlive <;> cases hs

end

/-! ## Calls to a sign-in endpoint -/

/-- How far a call has come that is sent as it is. -/
inductive Plain (id : CallId) (request : Request) (history : List (Moment σ)) : Trace → Prop
  | sent : Plain id request history ⟨[request], [], [], [], some ⟨id, .send, request, .bare⟩⟩
  | returned (answer : Except String Response) :
    Plain id request history
      ⟨[request], [], [answer], [(finalResult answer).map .response], none⟩
  /-- The call has gone away. -/
  | gone :
    (∃ m ∈ history, m.event.cancelled? = some id) →
    Plain id request history ⟨[request], [], [], [], none⟩

/-- Session, status, store, phase and queue stay as they are. -/
structure Untouched (m : Moment σ) : Prop where
  context : m.after.context = m.before.context
  phase : m.after.phase = m.before.phase
  queue : m.after.queue = m.before.queue

section

variable {id : CallId} {request : Request} {history : List (Moment σ)} {g : Gateway σ} {e : Event}

omit [KeyStore σ] in
theorem Plain.concat {t : Trace} (h : Plain id request history t) (m : Moment σ) :
    Plain id request (history ++ [m]) t := by
  cases h with
  | sent => exact .sent
  | returned answer => exact .returned answer
  | gone hgone => exact .gone (happened_concat hgone m)

theorem Plain.step (hg : Coherent g) (h : Plain id request history (trace g history id))
    (he : ∀ purpose, e.started? ≠ some (id, purpose)) :
    Plain id request (history ++ [⟨g, e⟩]) (trace (g.step e).1 (history ++ [⟨g, e⟩]) id) := by
  generalize htrace : trace g history id = t at h
  have hsame : trace (g.step e).1 (history ++ [⟨g, e⟩]) id = trace g history id →
      Plain id request (history ++ [⟨g, e⟩])
        (trace (g.step e).1 (history ++ [⟨g, e⟩]) id) := by
    intro heq
    rw [heq, htrace]
    exact h.concat _
  cases h with
  | sent =>
    have hc : g.call? id = some ⟨id, .send, request, .bare⟩ := congrArg Trace.live htrace
    obtain heq | ⟨rfl, heq⟩ | ⟨hs, -⟩ | ⟨answer, rfl⟩ | ⟨o, -, hs⟩ := hg.trace_live history hc he
    · exact hsame heq
    · rw [heq, htrace]
      exact .gone ⟨_, List.mem_concat_self, rfl⟩
    · cases hs
    · have hstep : g.step (.answer id answer) =
          g.conclude ⟨id, .send, request, .bare⟩ (finalResult answer) := by
        simp only [Gateway.step, hc, answered]
      rw [trace_concat, answersTo_answer hc, htrace, hstep, turn_conclude]
      exact .returned answer
    · cases hs
  | returned _ => exact hsame (trace_of_over (congrArg Trace.live htrace) he)
  | gone _ => exact hsame (trace_of_over (congrArg Trace.live htrace) he)

omit [KeyStore σ] in
theorem Plain.live {t : Trace} (h : Plain id request history t) :
    t.live = none ∨ t.live = some ⟨id, .send, request, .bare⟩ := by
  cases h with
  | sent => exact .inr rfl
  | _ => exact .inl rfl

theorem Untouched.of_after {m : Moment σ} {g : Gateway σ} (h : m.after = g)
    (hc : g.context = m.before.context) (hp : g.phase = m.before.phase)
    (hq : g.queue = m.before.queue) : Untouched m := by
  subst h
  exact ⟨hc, hp, hq⟩

theorem Untouched.of_ignored (h : g.Ignores e) : Untouched ⟨g, e⟩ :=
  .of_after (congrArg Prod.fst h.step) rfl rfl rfl

/-- Nothing that happens to the call touches the session or a refresh. -/
theorem Plain.untouched (h : Plain id request history (trace g history id))
    (he : ∀ purpose, e.started? ≠ some (id, purpose)) (hid : e.subject? = some id) :
    Untouched ⟨g, e⟩ := by
  have hlive : g.call? id = none ∨ g.call? id = some ⟨id, .send, request, .bare⟩ := h.live
  have hnot : ∀ c o, g.call? id = some c → c.stage ≠ .released o := by
    intro c o hc hs
    obtain hnone | hsome := hlive
    · rw [hnone] at hc
      cases hc
    · rw [hsome] at hc
      cases hc
      cases hs
  obtain ⟨answer, rfl⟩ | rfl | rfl := Event.cases_of_subject hid he
  · obtain hnone | hsome := hlive
    · exact .of_ignored (by simp [Ignores, hnone])
    · have hafter : (Moment.mk g (.answer id answer)).after = g.without id := by
        unfold Moment.after
        simp only [Gateway.step, hsome, answered, conclude]
        rfl
      exact .of_after hafter rfl rfl rfl
  · exact .of_ignored hnot
  · obtain hnone | hsome := hlive
    · exact .of_ignored hnone
    · have hafter : (Moment.mk g (.cancel id)).after = g.without id := by
        unfold Moment.after
        simp only [Gateway.step, hsome, cancelled]
      exact .of_after hafter rfl rfl rfl

end

end Gateway

end AccessConsole
