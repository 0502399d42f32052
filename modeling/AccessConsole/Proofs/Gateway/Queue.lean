import AccessConsole.Proofs.Gateway.Coherence

/-!
# The queue of a refresh

* `Released`, `Told`, `AgreesWith` — everyone in the queue is told an outcome, the leading call goes
  on with it, and the session agrees with it.
* `QueueStep` — what a step does to the queue: nothing, or one of the four things that can happen
  to it.
* `openWaits` — read off a history: the calls that began to wait and have since been neither told an
  outcome nor taken away, in order of their arrival.
* `queue_resolves_waiting_calls` — in every run the queue is that list, somebody leads while
  somebody waits, every step is a `QueueStep`, and whoever is turned down during a refresh joins.
-/

namespace AccessConsole

variable {σ : Type}

/-- The session agrees with the outcome of a refresh: it holds the new token, or it is over and
somebody has to sign in again. -/
def SessionContext.AgreesWith (context : SessionContext σ) : Outcome → Prop
  | .refreshed token => context.session.access = some token
  | .failed _ => context.session = {} ∧ context.status = .reauthRequired

namespace Gateway

/-- Everyone in the queue is told an outcome, in order, and the queue is empty then. -/
structure Released (g : Gateway σ) (o : Outcome) (moved : Moved σ) : Prop where
  woken : wokenBy moved.2 = g.queue
  emptied : moved.1.queue = []
  told : ∀ id ∈ g.queue, ∃ c, g.call? id = some c ∧ c.stage = .queued ∧
    moved.1.call? id = some { c with stage := .released o }

/-- A call goes on with an outcome: it is sent again with the new token, or it fails. -/
def Told (call : Call) (effects : List Effect) : Outcome → Prop
  | .refreshed token => ∀ request, call.request.withBearer? token = some request →
    .dispatch call.id request ∈ effects
  | .failed reason => .finish call.id (.error (.authenticationFailed reason)) ∈ effects

section

variable [KeyStore σ]

/-- What a step does to the queue. -/
inductive QueueStep (g : Gateway σ) : Event → Moved σ → Prop
  /-- The event ends no refresh and takes away no call that waits: the queue stays as it is. -/
  | kept {e : Event} {moved : Moved σ} :
    (∀ id c, e.ended? = some id → g.call? id = some c → c.stage ≠ .leading) →
    (∀ id c, e.cancelled? = some id → g.call? id = some c → c.stage ≠ .queued) →
    moved.1.queue = g.queue → wokenBy moved.2 = [] → QueueStep g e moved
  /-- A call is turned down during a refresh. It waits behind the others. -/
  | joined {id : CallId} {c : Call} {token : Option String} {response : Response}
      {moved : Moved σ} :
    g.phase = .refreshing → id ∉ g.queue → g.call? id = some c → c.stage = .first token →
    moved.1.queue = g.queue ++ [id] → moved.1.call? id = some { c with stage := .queued } →
    moved.2 = [] → QueueStep g (.answer id (.ok response)) moved
  /-- A waiting call goes away. The others keep their order. -/
  | left {id : CallId} {moved : Moved σ} :
    id ∈ g.queue → moved.1.queue = g.queue.filter (· ≠ id) → moved.1.call? id = none →
    moved.1.context = g.context → moved.2 = [] → QueueStep g (.cancel id) moved
  /-- The refresh is settled, for everyone in the queue as for the leading call. -/
  | settled {id : CallId} {leader : Call} {answer : Except String Response} {moved : Moved σ} :
    g.call? id = some leader → leader.stage = .leading →
    Released g (refreshOutcome answer) moved → Told leader moved.2 (refreshOutcome answer) →
    moved.1.context.AgreesWith (refreshOutcome answer) → QueueStep g (.answer id answer) moved
  /-- The leading call goes away before its refresh is settled. -/
  | abandoned {id : CallId} {leader : Call} {moved : Moved σ} :
    g.call? id = some leader → leader.stage = .leading →
    Released g (.failed .abandoned) moved → moved.1.context = g.context →
    QueueStep g (.cancel id) moved

/-! ## Settling -/

omit [KeyStore σ] in
theorem Coherent.queued_of_mem {g : Gateway σ} (h : Coherent g) {id : CallId} (hid : id ∈ g.queue) :
    ∃ c, g.call? id = some c ∧ c.stage = .queued :=
  h.mem_queue.1 hid

/-- The new session agrees with the outcome. -/
theorem refreshChange_agrees (g : Gateway σ) (answer : Except String Response) :
    (g.changed (refreshChange answer)).context.AgreesWith (refreshOutcome answer) := by
  unfold refreshChange refreshOutcome
  cases refreshedTokens answer with
  | ok tokens => rfl
  | error reason => exact ⟨rfl, rfl⟩

theorem proceed_told (g : Gateway σ) (call : Call) (o : Outcome) :
    Told call (g.proceed call o).2 o := by
  cases o with
  | refreshed token =>
    intro request hr
    simp only [proceed, replay, hr]
    exact List.mem_singleton.2 rfl
  | failed reason =>
    show Effect.finish _ _ ∈ (g.conclude call _).2
    rw [conclude_failed]
    exact List.mem_singleton.2 rfl

theorem Told.append {call : Call} {effects : List Effect} {o : Outcome} (h : Told call effects o)
    (before : List Effect) : Told call (before ++ effects) o := by
  cases o with
  | refreshed token => exact fun request hr => List.mem_append_right _ (h request hr)
  | failed reason => exact List.mem_append_right _ h

theorem settleLeader_told (g : Gateway σ) (call : Call) (o : Outcome) :
    Told call (g.settleLeader call o).2 o := by
  rw [settleLeader_eq]
  exact (proceed_told _ call o).append _

/-- A call that settles a refresh tells those who wait the outcome, and leaves the others alone. -/
theorem Coherent.call?_settleLeader {g g' : Gateway σ} (h : Coherent g) (ha : Alike g g')
    (call : Call) (o : Outcome) {id : CallId} {c : Call} (hid : id ≠ call.id)
    (hc : g.call? id = some c) :
    (g'.settleLeader call o).1.call? id =
      some (if c.stage = .queued then { c with stage := .released o } else c) := by
  have hfind : g'.call? id = some c := by
    rw [← hc]
    unfold call?
    rw [ha.calls]
  have hq : id ∈ g'.queue ↔ c.stage = .queued := by
    rw [ha.queue, h.mem_queue, hc]
    simp
  rw [settleLeader_eq]
  refine ((proceed_onward _ call o).call?_of_ne hid).trans ?_
  rw [call?_release]
  show (g'.call? id).map (fun c => if id ∈ g'.queue then { c with stage := .released o } else c) = _
  rw [hfind, Option.map_some]
  simp only [hq]

theorem Coherent.settleLeader_released {g g' : Gateway σ} (h : Coherent g) (ha : Alike g g')
    {id : CallId} {call : Call}
    (hc : g.call? id = some call) (hs : call.stage = .leading) (o : Outcome) :
    Released g o (g'.settleLeader call o) := by
  refine ⟨?_, settleLeader_queue g' call o, ?_⟩
  · rw [settleLeader_woken, ha.queue]
  · intro j hj
    obtain ⟨c, hcj, hcs⟩ := h.queued_of_mem hj
    refine ⟨c, hcj, hcs, ?_⟩
    have hne : j ≠ call.id := by
      rintro rfl
      rw [call?_id hc, hc] at hcj
      cases hcj
      rw [hs] at hcs
      cases hcs
    rw [h.call?_settleLeader ha call o hne hcj, if_pos hcs]

omit [KeyStore σ] in
theorem Coherent.abandon_released {g : Gateway σ} (h : Coherent g) {id : CallId} {call : Call}
    (hc : g.call? id = some call) (hs : call.stage = .leading) (o : Outcome) :
    Released g o ({ g.without id with phase := .idle : Gateway σ }.release o) := by
  refine ⟨?_, rfl, ?_⟩
  · have hw := wokenBy_wakes g.queue []
    rw [List.append_nil] at hw
    exact hw.trans (List.append_nil _)
  · intro j hj
    obtain ⟨c, hcj, hcs⟩ := h.queued_of_mem hj
    refine ⟨c, hcj, hcs, ?_⟩
    have hne : j ≠ id := by
      rintro rfl
      rw [hc] at hcj
      cases hcj
      rw [hs] at hcs
      cases hcs
    rw [call?_release]
    show ((g.without id).call? j).map (fun c =>
      if j ∈ g.queue then { c with stage := .released o } else c) = _
    rw [call?_without_of_ne g hne, hcj, Option.map_some, if_pos hj]

/-! ## Steps -/

theorem Coherent.queueStep_control {g : Gateway σ} (h : Coherent g) {e : Event} {moved : Moved σ}
    (ht : Control g e moved) : QueueStep g e moved := by
  cases ht with
  | ignored hi =>
    refine .kept ?_ ?_ rfl rfl
    · intro id c he hc
      exact hi.not_leading he hc
    · intro id c he hc
      rw [hi.gone he] at hc
      cases hc
  | onward ha hcancel he hs ho =>
    refine .kept ?_ ?_ ?_ ho.woken
    · intro id c hie hc
      have hsub := (Event.subject_of_ended hie).symm.trans he
      cases hsub
      exact (hs c hc).1
    · intro id c hie
      rw [hcancel] at hie
      cases hie
    · rw [ho.queue, ha.queue]
  | @joined id call token response hc hs hp =>
    refine .joined hp (h.not_mem_queue hc (by rw [hs]; simp)) hc hs ?_ ?_ rfl
    · show g.queue ++ [call.id] = _
      rw [call?_id hc]
    · rw [← call?_id hc]
      exact call?_suspend_self g call .queued
  | led hc hs _ _ _ _ =>
    refine .kept ?_ ?_ rfl rfl
    · rintro j c ⟨⟩ hj
      rw [hc] at hj
      cases hj
      rw [hs]
      simp
    · rintro j c ⟨⟩
  | @settled id call answer g' o hc hs =>
    obtain ⟨hl, rfl, rfl⟩ | ⟨hl, hp, rfl⟩ := hs
    · refine .settled hc hl (h.settleLeader_released (.changed _) hc hl _)
        (settleLeader_told _ _ _) ?_
      rw [settleLeader_context]
      exact refreshChange_agrees g answer
    · -- The refresh could not begin, and nobody waits outside a refresh.
      refine .kept ?_ ?_ ?_ ?_
      · rintro j c ⟨⟩ hj
        rw [hc] at hj
        cases hj
        exact hl
      · rintro j c ⟨⟩
      · rw [settleLeader_queue, (h.idle hp).2.2]
      · rw [settleLeader_woken]
        exact (h.idle hp).2.2
  | abandoned hc hs => exact .abandoned hc hs (h.abandon_released hc hs _) rfl
  | @left id call hc hs =>
    exact .left (h.mem_queue.2 ⟨call, hc, hs⟩) rfl (call?_without_self g id) rfl rfl
  | dropped hc hl hq =>
    refine .kept ?_ ?_ rfl rfl
    · rintro j c ⟨⟩ hj
      rw [hc] at hj
      cases hj
      exact hl
    · rintro j c ⟨⟩ hj
      rw [hc] at hj
      cases hj
      exact hq
  | changed change =>
    refine .kept ?_ ?_ rfl rfl
    · rintro j c ⟨⟩
    · rintro j c ⟨⟩

/-- A call that is turned down during a refresh waits behind those who wait already, and nothing
else happens. -/
theorem step_joined {g : Gateway σ} {id : CallId} {call : Call} {token : Option String}
    {response : Response} (hc : g.call? id = some call) (hs : call.stage = .first token)
    (h401 : response.status = 401) (hp : g.phase = .refreshing) :
    let moved := g.step (.answer id (.ok response))
    moved.1.queue = g.queue ++ [id] ∧ moved.1.call? id = some { call with stage := .queued } ∧
      moved.1.context = g.context ∧ moved.2 = [] := by
  intro moved
  have hmoved : moved = g.join call := by
    rw [← recover_of_refreshing hp]
    exact step_rejected hc hs h401
  have hid : call.id = id := call?_id hc
  rw [hmoved]
  refine ⟨?_, ?_, rfl, rfl⟩
  · show g.queue ++ [call.id] = g.queue ++ [id]
    rw [hid]
  · rw [← hid]
    exact call?_suspend_self g call .queued

/-- A call that is turned down while there is nothing to refresh the session with ends the session
and fails at once. -/
theorem step_stranded {g : Gateway σ} {id : CallId} {call : Call} {response : Response}
    (hc : g.call? id = some call) (hs : call.stage = .first g.context.session.access)
    (h401 : response.status = 401) (hp : g.phase ≠ .refreshing)
    (hr : g.context.session.refresh = none) :
    let moved := g.step (.answer id (.ok response))
    Told call moved.2 (.failed .noRefreshToken) ∧
      moved.1.context.AgreesWith (.failed .noRefreshToken) := by
  intro moved
  have hmoved : moved = ({ g with phase := .refreshing : Gateway σ }.changed .expire).settleLeader
      call (.failed .noRefreshToken) := by
    rw [← lead_of_none hr, ← recover_of_current hp (.inr rfl)]
    exact step_rejected hc hs h401
  rw [hmoved]
  refine ⟨settleLeader_told _ _ _, ?_⟩
  rw [settleLeader_context]
  exact ⟨rfl, rfl⟩

theorem Coherent.queueStep {g : Gateway σ} (h : Coherent g) (e : Event) :
    QueueStep g e (g.step e) :=
  h.queueStep_control (step_control g e)

omit [KeyStore σ] in
/-- The queue after a step: those who waited and were neither woken nor taken away, and then those
who begin to wait. -/
theorem QueueStep.queue_eq {g : Gateway σ} (h : Coherent g) {e : Event} {moved : Moved σ}
    (h' : Coherent moved.1) (hs : QueueStep g e moved) :
    moved.1.queue =
      g.queue.filter (fun id => id ∉ wokenBy moved.2 ∧ e.cancelled? ≠ some id) ++
        moved.1.waiting.filter (· ∉ g.waiting) := by
  -- Before and after the step, those who wait are those in the queue.
  rw [← h.queue_eq, ← h'.queue_eq]
  have hall : ∀ ids : List CallId, ids.filter (· ∉ ids) = [] := by
    intro ids
    rw [List.filter_eq_nil_iff]
    simp
  cases hs with
  | kept _ hc hq hw =>
    rw [hq, hw, hall, List.append_nil, eq_comm, List.filter_eq_self]
    intro id hid
    have hne : e.cancelled? ≠ some id := by
      intro he
      obtain ⟨c, hfind, hst⟩ := h.queued_of_mem hid
      exact hc id c he hfind hst
    simpa using hne
  | @joined id c token response _ _ hid _ _ hq _ heff =>
    have hnew : (g.queue ++ [id]).filter (· ∉ g.queue) = [id] := by
      rw [List.filter_append, hall, List.nil_append, List.filter_singleton]
      simp [hid]
    rw [hq, hnew, heff]
    congr 1
    rw [eq_comm, List.filter_eq_self]
    simp [wokenBy, Event.cancelled?]
  | @left id _ _ hq _ _ heff =>
    have hnone : (g.queue.filter (· ≠ id)).filter (· ∉ g.queue) = [] := by
      rw [List.filter_eq_nil_iff]
      intro j hj
      simpa using (List.mem_filter.1 hj).1
    rw [hq, hnone, heff, List.append_nil]
    apply List.filter_congr
    intro j _
    simp [wokenBy, Event.cancelled?, eq_comm]
  | settled _ _ hr _ _ =>
    rw [hr.emptied, hr.woken, List.filter_nil, List.append_nil, eq_comm, List.filter_eq_nil_iff]
    intro id hid
    simp [hid]
  | abandoned _ _ hr _ =>
    rw [hr.emptied, hr.woken, List.filter_nil, List.append_nil, eq_comm, List.filter_eq_nil_iff]
    intro id hid
    simp [hid]

end

end Gateway

/-! ## Arrivals -/

variable [KeyStore σ]

/-- The calls that began to wait and have since been neither woken nor taken away, after one more
step. -/
def Moment.openWaits (ids : List CallId) (m : Moment σ) : List CallId :=
  ids.filter (fun id => id ∉ wokenBy m.effects ∧ m.event.cancelled? ≠ some id) ++ m.arrivals

/-- The calls that began to wait and have since been neither woken nor taken away, in order of
their arrival. -/
def openWaits (history : List (Moment σ)) : List CallId := history.foldl Moment.openWaits []

namespace Gateway

theorem queue_eq_openWaits (config : Config) (context : SessionContext σ) (es : List Event) :
    ((start config context).run es).queue = openWaits ((start config context).history es) := by
  induction es using List.reverseRecOn with
  | nil => rfl
  | append_singleton es e ih =>
    have h := coherent_run config context es
    rw [run_concat, history_concat, openWaits, List.foldl_append,
      (h.queueStep e).queue_eq h (h.step e), ih]
    rfl

/-- No call that waits is lost, woken twice or told anything but the outcome of the refresh. In
every run the queue holds the calls that wait, each once and in order of their arrival, and while
one waits another leads. A step wakes the whole queue with the outcome that the leading call gets,
or with `abandoned` if that call goes away, or it wakes nobody. Whoever is turned down during a
refresh waits behind the others. A refresh that cannot even begin fails its call and ends the
session. A call that was woken goes on with what it was told. -/
theorem queue_resolves_waiting_calls (config : Config) (context : SessionContext σ)
    (es : List Event) :
    let g := (start config context).run es
    g.queue.Nodup ∧
      (∀ id, id ∈ g.queue ↔ ∃ c, g.call? id = some c ∧ c.stage = .queued) ∧
      g.queue = openWaits ((start config context).history es) ∧
      (g.queue ≠ [] → ∃ id c, g.call? id = some c ∧ c.stage = .leading) ∧
      (∀ e, QueueStep g e (g.step e)) ∧
      (∀ id c token response, g.call? id = some c → c.stage = .first token →
        response.status = 401 → g.phase = .refreshing →
        let moved := g.step (.answer id (.ok response))
        moved.1.queue = g.queue ++ [id] ∧ moved.1.call? id = some { c with stage := .queued } ∧
          moved.1.context = g.context ∧ moved.2 = []) ∧
      (∀ id c response, g.call? id = some c → c.stage = .first g.context.session.access →
        response.status = 401 → g.phase ≠ .refreshing → g.context.session.refresh = none →
        Told c (g.step (.answer id (.ok response))).2 (.failed .noRefreshToken) ∧
        (g.step (.answer id (.ok response))).1.context.AgreesWith (.failed .noRefreshToken)) ∧
      ∀ id c o, g.call? id = some c → c.stage = .released o →
        Told c (g.step (.resume id)).2 o := by
  intro g
  have h : Coherent g := coherent_run config context es
  have hlead : g.queue ≠ [] → ∃ id c, g.call? id = some c ∧ c.stage = .leading := by
    intro hq
    obtain ⟨-, -, hn⟩ | ⟨-, id, hl⟩ := h.phase
    · exact absurd hn hq
    · have hid : id ∈ g.leaders := by
        rw [hl]
        exact List.mem_singleton.2 rfl
      obtain ⟨c, hc, hs⟩ := h.mem_leaders.1 hid
      exact ⟨id, c, hc, hs⟩
  have hresume : ∀ id c o, g.call? id = some c → c.stage = .released o →
      Told c (g.step (.resume id)).2 o := by
    intro id c o hc hs
    simp only [step, hc, hs]
    exact proceed_told g c o
  exact ⟨h.queue_nodup, fun id => h.mem_queue, queue_eq_openWaits config context es, hlead,
    h.queueStep, fun _ _ _ _ hc hs h401 hp => step_joined hc hs h401 hp,
    fun _ _ _ hc hs h401 hp hr => step_stranded hc hs h401 hp hr, hresume⟩

/-- Three calls are sent. Two of them are turned down: the first leads a refresh, the second
waits. -/
def secondCallWaits : List Event := [
  .send 0 (.new .get "u/0"), .send 1 (.new .get "u/1"), .send 2 (.new .get "u/2"),
  .answer 0 (.ok ⟨401, ""⟩), .answer 1 (.ok ⟨401, ""⟩)]

/-- The third call is turned down and waits behind the second. -/
theorem third_call_waits_behind_second :
    let g := (start sampleConfig sampleContext).run secondCallWaits
    g.queue = [1] ∧ (g.step (.answer 2 (.ok ⟨401, ""⟩))).1.queue = [1, 2] := by
  intro g
  obtain ⟨-, -, -, -, -, hjoined, -, -⟩ :=
    queue_resolves_waiting_calls sampleConfig sampleContext secondCallWaits
  have hqueue : g.queue = [1] := by decide +kernel
  refine ⟨hqueue, ?_⟩
  obtain ⟨hq, -, -, -⟩ := hjoined 2 ⟨2, .send, .new .get "u/2", .first (some "a")⟩ (some "a")
    ⟨401, ""⟩ rfl rfl rfl (by decide +kernel)
  rw [hq, hqueue]
  rfl

end Gateway

end AccessConsole
