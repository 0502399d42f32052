import AccessConsole.Proofs.Gateway.Course
import AccessConsole.Proofs.Gateway.SharedRefresh

/-!
# The contract of a call

* `Request.IsCopy`, `Request.Bears` — a copy of a request, and the access token that it carries.
* `EndsWith` — the results with which a call may end.
* `SendContract`, `PassThrough` — what is done for a call that is sent with the token of the
  session, and for a call to a sign-in endpoint.
* `send_keeps_contract` — a call keeps its contract in every run.
-/

namespace AccessConsole

/-! ## Copies -/

/-- The requests differ in their credentials at most. -/
structure Request.IsCopy (copy r : Request) : Prop where
  method : copy.method = r.method
  url : copy.url = r.url
  query : copy.query = r.query
  body : copy.body = r.body
  headers : copy.headers.filter (·.1 ≠ authorizationName) =
    r.headers.filter (·.1 ≠ authorizationName)

/-- The access token is all that the request carries as credentials. -/
def Request.Bears (copy : Request) (token : String) : Prop :=
  copy.headers.filter (·.1 = authorizationName) = [(authorizationName, bearer token)]

theorem Request.isCopy_refl (r : Request) : r.IsCopy r := ⟨rfl, rfl, rfl, rfl, rfl⟩

theorem Request.copy_of_withBearer {r copy : Request} {token : String}
    (h : r.withBearer? token = some copy) : copy.IsCopy r ∧ copy.Bears token := by
  obtain ⟨value, hv, rfl⟩ := Option.map_eq_some_iff.1 h
  have hvalue : value = bearer token := by
    unfold headerValue? at hv
    split_ifs at hv
    exact (Option.some.inj hv).symm
  have hname : String.ofList (authorizationName.toList.map Char.toLower) = authorizationName := by
    decide
  unfold withHeader
  rw [hname, hvalue]
  refine ⟨⟨rfl, rfl, rfl, rfl, ?_⟩, ?_⟩
  · simp [List.filter_append, List.filter_filter]
  · simp [Bears, List.filter_append, List.filter_filter]

/-- A request as it is sent with a token is a copy that bears it. -/
theorem Request.copy_of_outbound {r copy : Request} {token? : Option String}
    (h : r.outbound? token? = some copy) :
    copy.IsCopy r ∧ (token? = none → copy = r) ∧
      ∀ token, token? = some token → copy.Bears token := by
  cases token? with
  | none =>
    cases h
    exact ⟨Request.isCopy_refl _, fun _ => rfl, by rintro _ ⟨⟩⟩
  | some token =>
    obtain ⟨hcopy, hbears⟩ := Request.copy_of_withBearer h
    refine ⟨hcopy, by rintro ⟨⟩, ?_⟩
    rintro _ ⟨⟩
    exact hbears

theorem Request.illegal_of_withBearer {r : Request} {token : String}
    (h : r.withBearer? token = none) : headerValue? (bearer token) = none :=
  Option.map_eq_none_iff.1 h

namespace Gateway

variable {σ : Type} [KeyStore σ]

/-! ## Contracts -/

/-- The results with which a call may end that began at a gateway `g`. -/
inductive EndsWith (g : Gateway σ) (id : CallId) (history : List (Moment σ)) (t : Trace) :
    Except GatewayError Reply → Prop
  /-- All its requests were answered, and the last answer counts. -/
  | answered {answer : Except String Response} :
    t.answers.getLast? = some answer → t.answers.length = t.copies.length →
    EndsWith g id history t ((finalResult answer).map .response)
  /-- Its request was turned down and not sent again. -/
  | failed (reason : AuthFailure) :
    t.copies.length = 1 → (∃ m ∈ history, m.TurnsDown id) →
    EndsWith g id history t (.error (.authenticationFailed reason))
  /-- The token of the session may not stand in a header. -/
  | illegalAtOnce {token : String} :
    t.copies = [] → g.context.session.access = some token →
    headerValue? (Request.bearer token) = none → EndsWith g id history t (.error .invalidHeader)
  /-- A token that the session has held since may not. -/
  | illegal {token : String} :
    t.copies.length = 1 → HeldSince id history token →
    headerValue? (Request.bearer token) = none → EndsWith g id history t (.error .invalidHeader)

/-- A call ends once. It has no result while it is going on, and exactly one when it is over, unless
it has gone away. -/
structure EndsOnce (id : CallId) (history : List (Moment σ)) (t : Trace) : Prop where
  going : t.live ≠ none → t.results = []
  ended : t.live = none → t.results.length = 1 ∨
    (t.results = [] ∧ ∃ m ∈ history, m.event.cancelled? = some id)

/-- What is done for a call that begins at a gateway `g`. -/
structure SendContract (g : Gateway σ) (id : CallId) (request : Request)
    (history : List (Moment σ)) (t : Trace) : Prop where
  /-- It is sent, or it is over at once because it cannot carry the token. -/
  sent : t.copies = [] → t.results = [.error .invalidHeader]
  copies_le : t.copies.length ≤ 2
  asks_le : t.asks.length ≤ 1
  isCopy : ∀ copy ∈ t.copies, copy.IsCopy request
  /-- The first copy carries the token of the session, if there is one. -/
  first : ∀ copy, t.copies.head? = some copy →
    (g.context.session.access = none → copy = request) ∧
      ∀ token, g.context.session.access = some token → copy.Bears token
  /-- By the time a second one has been sent, the first has been turned down, and the session has
  held the token of the second since. -/
  second : ∀ upTo first copy, upTo <+: history → copiesOf id upTo = [first, copy] →
    ∃ token, HeldSince id upTo token ∧ copy.Bears token
  endsWith : ∀ result ∈ t.results, EndsWith g id history t result
  endsOnce : EndsOnce id history t

/-- What is done for a call to a sign-in endpoint. -/
structure PassThrough (id : CallId) (request : Request) (history : List (Moment σ)) (t : Trace) :
    Prop where
  copies : t.copies = [request]
  asks : t.asks = []
  endsWith : ∀ result ∈ t.results, ∃ answer, t.answers = [answer] ∧
    result = (finalResult answer).map .response
  endsOnce : EndsOnce id history t
  untouched : ∀ m ∈ history, m.event.subject? = some id → Untouched m

/-! ## Courses keep the contract -/

section

variable {id : CallId} {request first : Request} {token? : Option String}
  {history : List (Moment σ)} {t : Trace}

/-- At most one copy follows the first, with a token that the session has held since the first was
turned down. -/
theorem Course.copies (h : Course id request first token? history t) :
    ∃ later, t.copies = first :: later ∧ later.length ≤ 1 ∧ ∀ copy ∈ later,
      ∃ token, HeldSince id history token ∧ request.withBearer? token = some copy := by
  induction h with
  | second _ _ ht hr => exact ⟨_, rfl, by simp, by simpa using ⟨_, ht, hr⟩⟩
  | replayed _ _ _ ht hr => exact ⟨_, rfl, by simp, by simpa using ⟨_, ht, hr⟩⟩
  | gone _ _ _ ih => exact ih
  | _ => exact ⟨[], rfl, by simp, by simp⟩

theorem Course.asks_le (h : Course id request first token? history t) : t.asks.length ≤ 1 := by
  induction h with
  | second _ ha _ _ => exact ha
  | replayed _ _ ha _ _ => exact ha
  | illegal _ ha _ _ => exact ha
  | failed _ _ ha _ => exact ha
  | gone _ _ _ ih => exact ih
  | _ => simp

theorem Course.endsOnce (h : Course id request first token? history t) :
    EndsOnce id history t := by
  induction h with
  | gone _ hlive hgone ih => exact ⟨fun _ => ih.going hlive, fun _ => .inr ⟨ih.going hlive, hgone⟩⟩
  | _ => exact ⟨by simp, by simp⟩

theorem Course.endsWith (h : Course id request first token? history t) (g : Gateway σ) :
    ∀ result ∈ t.results, EndsWith g id history t result := by
  cases h with
  | returned answer =>
    intro result hr
    rw [List.mem_singleton.1 hr]
    exact .answered rfl rfl
  | replayed answer last _ _ _ =>
    intro result hr
    rw [List.mem_singleton.1 hr]
    exact .answered rfl rfl
  | illegal answer _ ht hr =>
    intro result hm
    rw [List.mem_singleton.1 hm]
    exact .illegal rfl ht (Request.illegal_of_withBearer hr)
  | failed answer reason _ hd =>
    intro result hr
    rw [List.mem_singleton.1 hr]
    exact .failed reason rfl hd
  | @gone t h hlive _ =>
    intro result hr
    rw [show t.results = [] from h.endsOnce.going hlive] at hr
    exact absurd hr List.not_mem_nil
  | _ => exact List.forall_mem_nil _

omit [KeyStore σ] in
theorem Plain.copies (h : Plain id request history t) : t.copies = [request] := by
  cases h <;> rfl

omit [KeyStore σ] in
theorem Plain.asks (h : Plain id request history t) : t.asks = [] := by
  cases h <;> rfl

omit [KeyStore σ] in
theorem Plain.endsOnce (h : Plain id request history t) : EndsOnce id history t := by
  cases h with
  | gone hgone => exact ⟨by simp, fun _ => .inr ⟨rfl, hgone⟩⟩
  | _ => exact ⟨by simp, by simp⟩

omit [KeyStore σ] in
theorem Plain.endsWith (h : Plain id request history t) :
    ∀ result ∈ t.results, ∃ answer, t.answers = [answer] ∧
      result = (finalResult answer).map .response := by
  cases h with
  | returned answer =>
    intro result hr
    exact ⟨answer, rfl, List.mem_singleton.1 hr⟩
  | _ => exact List.forall_mem_nil _

end

/-! ## Runs -/

section

variable {id : CallId} {request : Request} {g : Gateway σ}

theorem trace_began (hc : g.call? id = none) :
    trace (g.step (.send id request)).1 (g.history [.send id request]) id =
      (Trace.next ⟨[], [], [], [], none⟩ []
        (turn id (g.begin ⟨id, .send, request, .bare⟩))) := by
  have hstep : g.step (.send id request) = g.begin ⟨id, .send, request, .bare⟩ := by
    simp only [step, hc, Option.isSome_none, Bool.false_eq_true, if_false]
  have hbefore : trace g [] id = ⟨[], [], [], [], none⟩ := by
    unfold trace
    rw [hc]
    rfl
  have hanswers : answersTo id Stage.isOwn [Moment.mk g (.send id request)] = [] := by
    refine answersTo_unanswered ?_ _
    rintro answer ⟨⟩
  have hconcat := trace_concat g [] (.send id request) id
  rw [hanswers, hbefore] at hconcat
  rw [← hstep]
  exact hconcat

theorem course_began (hc : g.call? id = none)
    (hauth : g.config.isAuthEndpoint request.url = false) {first : Request}
    (hfirst : request.outbound? g.context.session.access = some first) :
    Course id request first g.context.session.access (g.history [.send id request])
      (trace (g.run [.send id request]) (g.history [.send id request]) id) := by
  show Course id request first _ _ (trace (g.step _).1 _ id)
  have hbegin : g.begin ⟨id, .send, request, .bare⟩ =
      g.dispatching ⟨id, .send, request, .bare⟩ (.first g.context.session.access) first := by
    unfold begin
    simp only [hauth, Bool.false_eq_true, if_false]
    cases ha : g.context.session.access with
    | none =>
      rw [ha] at hfirst
      cases hfirst
      rfl
    | some token =>
      rw [ha] at hfirst
      have hcopy : request.withBearer? token = some first := hfirst
      simp only [hcopy]
  rw [trace_began hc, hbegin, turn_dispatching]
  exact .first

/-- A call that goes out with the token of the session takes a course. -/
theorem course_run (hg : Coherent g) (hc : g.call? id = none)
    (hauth : g.config.isAuthEndpoint request.url = false) {first : Request}
    (hfirst : request.outbound? g.context.session.access = some first) {after : List Event}
    (he : ∀ e ∈ after, ∀ purpose, e.started? ≠ some (id, purpose)) :
    Coherent (g.run (.send id request :: after)) ∧
      Course id request first g.context.session.access (g.history (.send id request :: after))
        (trace (g.run (.send id request :: after)) (g.history (.send id request :: after)) id) := by
  induction after using List.reverseRecOn with
  | nil => exact ⟨hg.step _, course_began hc hauth hfirst⟩
  | append_singleton after e ih =>
    rw [← List.cons_append, run_concat, history_concat]
    obtain ⟨hcoherent, hcourse⟩ := ih fun e hm => he e (List.mem_append_left _ hm)
    exact ⟨hcoherent.step e, hcourse.step hcoherent (he e List.mem_concat_self)⟩

/-- A call that cannot carry the token of the session is over at once. -/
theorem illegal_run {token : String} (hc : g.call? id = none)
    (hauth : g.config.isAuthEndpoint request.url = false)
    (ha : g.context.session.access = some token) (hr : request.withBearer? token = none)
    {after : List Event} (he : ∀ e ∈ after, ∀ purpose, e.started? ≠ some (id, purpose)) :
    trace (g.run (.send id request :: after)) (g.history (.send id request :: after)) id =
      ⟨[], [], [], [.error .invalidHeader], none⟩ := by
  induction after using List.reverseRecOn with
  | nil =>
    have hbegin : g.begin ⟨id, .send, request, .bare⟩ =
        g.conclude ⟨id, .send, request, .bare⟩ (.error .invalidHeader) := by
      unfold begin
      simp only [hauth, Bool.false_eq_true, if_false, ha, hr]
    show trace (g.step _).1 _ id = _
    rw [trace_began hc, hbegin, turn_conclude]
    rfl
  | append_singleton after e ih =>
    have hbefore := ih fun e hm => he e (List.mem_append_left _ hm)
    rw [← List.cons_append, run_concat, history_concat,
      trace_of_over (congrArg Trace.live hbefore) (he e List.mem_concat_self)]
    exact hbefore

/-- A call to a sign-in endpoint takes its course and touches nothing. -/
theorem plain_run (hg : Coherent g) (hc : g.call? id = none)
    (hauth : g.config.isAuthEndpoint request.url = true) {after : List Event}
    (he : ∀ e ∈ after, ∀ purpose, e.started? ≠ some (id, purpose)) :
    Coherent (g.run (.send id request :: after)) ∧
      Plain id request (g.history (.send id request :: after))
        (trace (g.run (.send id request :: after)) (g.history (.send id request :: after)) id) ∧
      ∀ m ∈ g.history (.send id request :: after), m.event.subject? = some id → Untouched m := by
  induction after using List.reverseRecOn with
  | nil =>
    have hstep : g.step (.send id request) =
        g.dispatching ⟨id, .send, request, .bare⟩ .bare request := by
      simp only [step, hc, Option.isSome_none, Bool.false_eq_true, if_false, begin, hauth, if_true]
    have hbegin : g.begin ⟨id, .send, request, .bare⟩ =
        g.dispatching ⟨id, .send, request, .bare⟩ .bare request := by
      simp only [begin, hauth, if_true]
    refine ⟨hg.step _, ?_, ?_⟩
    · show Plain id request _ (trace (g.step _).1 _ id)
      rw [trace_began hc, hbegin, turn_dispatching]
      exact .sent
    · intro m hm _
      rw [List.mem_singleton.1 hm]
      have hafter : (Moment.mk g (.send id request)).after =
          g.suspend ⟨id, .send, request, .bare⟩ .bare := congrArg Prod.fst hstep
      exact .of_after hafter rfl rfl rfl
  | append_singleton after e ih =>
    rw [← List.cons_append, run_concat, history_concat]
    obtain ⟨hcoherent, hplain, huntouched⟩ := ih fun e hm => he e (List.mem_append_left _ hm)
    have hnext := he e List.mem_concat_self
    refine ⟨hcoherent.step e, hplain.step hcoherent hnext, ?_⟩
    intro m hm hid
    obtain hold | hnew := List.mem_append.1 hm
    · exact huntouched m hold hid
    · rw [List.mem_singleton.1 hnew] at hid ⊢
      exact hplain.untouched hnext hid

/-- The part of a history in which something has been sent for a call is the history of a shorter
run in which it began. -/
theorem history_of_sent {after : List Event} {upTo : List (Moment σ)}
    (hupTo : upTo <+: g.history (.send id request :: after)) (hsent : copiesOf id upTo ≠ []) :
    ∃ rest, rest <+: after ∧ upTo = g.history (.send id request :: rest) := by
  obtain ⟨es, hes, rfl⟩ := history_of_prefix hupTo
  obtain rfl | ⟨rest, rfl, hrest⟩ := List.prefix_cons_iff.1 hes
  · exact absurd rfl hsent
  · exact ⟨rest, hrest, rfl⟩

theorem sendContract_run (hg : Coherent g) (hc : g.call? id = none)
    (hauth : g.config.isAuthEndpoint request.url = false) {first : Request}
    (hfirst : request.outbound? g.context.session.access = some first) {after : List Event}
    (he : ∀ e ∈ after, ∀ purpose, e.started? ≠ some (id, purpose)) :
    SendContract g id request (g.history (.send id request :: after))
      (trace (g.run (.send id request :: after)) (g.history (.send id request :: after)) id) := by
  obtain ⟨-, hcourse⟩ := course_run hg hc hauth hfirst he
  obtain ⟨hcopy, hbare, hbears⟩ := Request.copy_of_outbound hfirst
  obtain ⟨later, hcopies, hlength, hlater⟩ := hcourse.copies
  refine ⟨?_, ?_, hcourse.asks_le, ?_, ?_, ?_, hcourse.endsWith g, hcourse.endsOnce⟩
  · intro hnone
    rw [hcopies] at hnone
    cases hnone
  · rw [hcopies, List.length_cons]
    omega
  · intro copy hm
    rw [hcopies] at hm
    obtain rfl | hm := List.mem_cons.1 hm
    · exact hcopy
    · obtain ⟨token, -, hr⟩ := hlater copy hm
      exact (Request.copy_of_withBearer hr).1
  · intro copy hm
    rw [hcopies] at hm
    cases hm
    exact ⟨hbare, hbears⟩
  · -- In the shorter run the call takes a course as well.
    intro upTo one copy hupTo htwo
    obtain ⟨rest, hrest, rfl⟩ := history_of_sent hupTo (by rw [htwo]; simp)
    obtain ⟨-, hearlier⟩ := course_run hg hc hauth hfirst fun e hm => he e (hrest.subset hm)
    obtain ⟨second, hsent, -, hsecond⟩ := hearlier.copies
    have heq : [one, copy] = first :: second := htwo.symm.trans hsent
    cases heq
    obtain ⟨token, hheld, hr⟩ := hsecond copy List.mem_cons_self
    exact ⟨token, hheld, (Request.copy_of_withBearer hr).2⟩

/-- A call that cannot carry the token of the session keeps its contract, since nothing is sent. -/
theorem sendContract_illegal {token : String} (hc : g.call? id = none)
    (hauth : g.config.isAuthEndpoint request.url = false)
    (ha : g.context.session.access = some token) (hr : request.withBearer? token = none)
    {after : List Event} (he : ∀ e ∈ after, ∀ purpose, e.started? ≠ some (id, purpose)) :
    SendContract g id request (g.history (.send id request :: after))
      (trace (g.run (.send id request :: after)) (g.history (.send id request :: after)) id) := by
  have hlegal := Request.illegal_of_withBearer hr
  rw [illegal_run hc hauth ha hr he]
  refine ⟨fun _ => rfl, by simp, by simp, by simp, by simp, ?_, ?_, ⟨by simp, by simp⟩⟩
  · intro upTo one copy hupTo htwo
    obtain ⟨rest, hrest, rfl⟩ := history_of_sent hupTo (by rw [htwo]; simp)
    have hnone : copiesOf id (g.history (.send id request :: rest)) = [] :=
      congrArg Trace.copies (illegal_run hc hauth ha hr fun e hm => he e (hrest.subset hm))
    rw [hnone] at htwo
    cases htwo
  · intro result hm
    rw [List.mem_singleton.1 hm]
    exact .illegalAtOnce rfl ha hlegal

/-- A call keeps its contract whatever else goes on: other calls that are sent, sign-ins, sign-outs
and other changes of the session, and calls that go away. Its number is its own. -/
theorem send_keeps_contract (config : Config) (context : SessionContext σ)
    (before after : List Event) (id : CallId) (request : Request)
    (hbefore : ((start config context).run before).call? id = none)
    (hafter : ∀ e ∈ after, e.started?.map (·.1) ≠ some id) :
    let g := (start config context).run before
    let history := g.history (.send id request :: after)
    let t := trace (g.run (.send id request :: after)) history id
    (g.config.isAuthEndpoint request.url = true → PassThrough id request history t) ∧
      (g.config.isAuthEndpoint request.url = false → SendContract g id request history t) := by
  intro g history t
  have hg : Coherent g := coherent_run config context before
  have hown : ∀ e ∈ after, ∀ purpose, e.started? ≠ some (id, purpose) := by
    intro e he purpose hs
    refine hafter e he ?_
    rw [hs]
    rfl
  refine ⟨?_, ?_⟩
  · intro hauth
    obtain ⟨-, hplain, huntouched⟩ := plain_run hg hbefore hauth hown
    exact ⟨hplain.copies, hplain.asks, hplain.endsWith, hplain.endsOnce, huntouched⟩
  · intro hauth
    cases hfirst : request.outbound? g.context.session.access with
    | some first => exact sendContract_run hg hbefore hauth hfirst hown
    | none =>
      cases ha : g.context.session.access with
      | none =>
        rw [ha] at hfirst
        cases hfirst
      | some token =>
        rw [ha] at hfirst
        exact sendContract_illegal hbefore hauth ha hfirst hown

end

/-- Two calls are turned down. One leads a refresh in which the other waits, and both are sent once
more. -/
def bothRecover : List Event := [
  .answer 0 (.ok ⟨401, ""⟩), .answer 1 (.ok ⟨401, ""⟩),
  .answer 0 (.ok ⟨200, "\x7b\"access\":\"b\"\x7d"⟩), .resume 1, .answer 0 (.ok ⟨200, "done"⟩),
  .answer 1 (.ok ⟨200, "done"⟩)]

/-- For the leading call and for the waiting one both copies are sent, and the contract is kept. -/
theorem recovered_calls_keep_contract :
    let g := start sampleConfig sampleContext
    let leading := g.history (.send 0 (.new .get "u/0") :: .send 1 (.new .get "u/1") :: bothRecover)
    let g₁ := g.run [.send 0 (.new .get "u/0")]
    let waiting := g₁.history (.send 1 (.new .get "u/1") :: bothRecover)
    ((copiesOf 0 leading).length = 2 ∧ SendContract g 0 (.new .get "u/0") leading
      (trace (g.run (.send 0 (.new .get "u/0") :: .send 1 (.new .get "u/1") :: bothRecover))
        leading 0)) ∧
    ((copiesOf 1 waiting).length = 2 ∧ SendContract g₁ 1 (.new .get "u/1") waiting
      (trace (g₁.run (.send 1 (.new .get "u/1") :: bothRecover)) waiting 1)) := by
  refine ⟨⟨by decide +kernel, ?_⟩, ⟨by decide +kernel, ?_⟩⟩
  · exact (send_keeps_contract sampleConfig sampleContext []
      (.send 1 (.new .get "u/1") :: bothRecover) 0 (.new .get "u/0") rfl (by decide)).2
      (by decide +kernel)
  · exact (send_keeps_contract sampleConfig sampleContext [.send 0 (.new .get "u/0")] bothRecover 1
      (.new .get "u/1") rfl (by decide)).2 (by decide +kernel)

end Gateway

end AccessConsole
