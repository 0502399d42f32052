import AccessConsole.Proofs.Gateway.Transition

/-!
# What a step does to phase, queue and calls

Of the transitions, only a few matter to the refresh: a call joins the queue, takes the lead,
settles a refresh, or goes away while it leads or waits. In all others a call goes on by itself.

* `Control`, `step_control` — the transitions with only what matters to phase, queue and calls.
* `Framed`, `Control.framed` — a call that the event is not about is left alone, or told an outcome.
* `Control.refreshCalls` — a request for a new token is sent only where a call takes the lead.
-/

namespace AccessConsole.Gateway

variable {σ : Type} [KeyStore σ]

/-! ## Changes of the session on the way -/

/-- A gateway differs from another by a change of the session at most. -/
inductive Alike (g : Gateway σ) : Gateway σ → Prop
  | refl : Alike g g
  | changed (change : Change) : Alike g (g.changed change)

theorem Alike.phase {g g' : Gateway σ} (h : Alike g g') : g'.phase = g.phase := by
  cases h <;> rfl

theorem Alike.queue {g g' : Gateway σ} (h : Alike g g') : g'.queue = g.queue := by
  cases h <;> rfl

theorem Alike.calls {g g' : Gateway σ} (h : Alike g g') : g'.calls = g.calls := by
  cases h <;> rfl

theorem Exchanged.onward {g : Gateway σ} {call : Call} {email : String}
    {answer : Except String Response} {moved : Moved σ} (h : Exchanged g call email answer moved) :
    ∃ g' : Gateway σ, ∃ call' : Call, Alike g g' ∧ call'.id = call.id ∧ Onward g' call' moved := by
  cases h with
  | turnedDown _ _ _ => exact ⟨_, call, .changed _, rfl, .ended _⟩
  | failed _ _ _ => exact ⟨g, call, .refl, rfl, .ended _⟩
  | unstored tokens e _ _ => exact ⟨_, call, .changed _, rfl, .ended _⟩
  | signedIn tokens _ _ _ =>
    obtain ⟨r, hr⟩ := finishLogin_eq
      (g.changed (.establish tokens.access tokens.refresh (.ofEmail email))) call.id
    rw [hr]
    exact ⟨_, call, .changed _, rfl, .ended r⟩
  | @lookedUp tokens request _ _ _ =>
    exact ⟨_, { call with request }, .changed _, rfl, begin_onward _ _⟩

/-! ## Steps -/

/-- What a step does to phase, queue and calls. -/
inductive Control (g : Gateway σ) : Event → Moved σ → Prop
  /-- The event is about no call that it can happen to. -/
  | ignored {e : Event} : g.Ignores e → Control g e (g, [])
  /-- A call that neither leads nor waits goes on by itself. -/
  | onward {e : Event} {g' : Gateway σ} {call : Call} {moved : Moved σ} :
    Alike g g' → e.cancelled? = none → e.subject? = some call.id →
    (∀ c, g.call? call.id = some c → c.stage ≠ .leading ∧ c.stage ≠ .queued) →
    Onward g' call moved → Control g e moved
  /-- A call joins the queue. -/
  | joined {id : CallId} {call : Call} {token : Option String} {response : Response} :
    g.call? id = some call → call.stage = .first token → g.phase = .refreshing →
    Control g (.answer id (.ok response)) (g.join call)
  /-- A call takes the lead. -/
  | led {id : CallId} {call : Call} {token : Option String} {response : Response}
      {refresh : String} :
    g.call? id = some call → call.stage = .first token → response.status = 401 →
    g.phase ≠ .refreshing →
    g.context.session.access = none ∨ token = g.context.session.access →
    g.context.session.refresh = some refresh →
    Control g (.answer id (.ok response))
      ({ g with phase := .refreshing : Gateway σ }.dispatching call .leading
        (refreshRequest g.config refresh))
  /-- A refresh is over, or could not even begin. -/
  | settled {id : CallId} {call : Call} {answer : Except String Response} {g' : Gateway σ}
      (o : Outcome) :
    g.call? id = some call →
    (call.stage = .leading ∧ g' = g.changed (refreshChange answer) ∧ o = refreshOutcome answer) ∨
      (call.stage ≠ .leading ∧ g.phase ≠ .refreshing ∧
        g' = { g with phase := .refreshing : Gateway σ }.changed .expire) →
    Control g (.answer id answer) (g'.settleLeader call o)
  /-- The leading call goes away. -/
  | abandoned {id : CallId} {call : Call} :
    g.call? id = some call → call.stage = .leading →
    Control g (.cancel id)
      ({ g.without id with phase := .idle : Gateway σ }.release (.failed .abandoned))
  /-- A waiting call goes away. -/
  | left {id : CallId} {call : Call} :
    g.call? id = some call → call.stage = .queued →
    Control g (.cancel id)
      ({ g.without id with queue := g.queue.filter (· ≠ id) : Gateway σ }, [])
  /-- Any other call goes away. -/
  | dropped {id : CallId} {call : Call} :
    g.call? id = some call → call.stage ≠ .leading → call.stage ≠ .queued →
    Control g (.cancel id) (g.without id, [])
  /-- The session is changed from outside. -/
  | changed (change : Change) : Control g (.change change) (g.changed change, [])

omit [KeyStore σ] in
theorem found_aside {g : Gateway σ} {id : CallId} {call : Call} (hc : g.call? id = some call)
    (hs : call.stage ≠ .leading ∧ call.stage ≠ .queued) :
    ∀ c, g.call? call.id = some c → c.stage ≠ .leading ∧ c.stage ≠ .queued := by
  intro c h
  rw [call?_id hc, hc] at h
  cases h
  exact hs

theorem Transition.control {g : Gateway σ} {e : Event} {moved : Moved σ}
    (h : Transition g e moved) : Control g e moved := by
  cases h with
  | ignored h => exact .ignored h
  | began hc =>
    refine .onward .refl rfl rfl ?_ (begin_onward _ _)
    intro c h
    rw [hc] at h
    cases h
  | signingIn hc =>
    refine .onward .refl rfl rfl ?_ (.sent rfl (by rintro _ ⟨⟩))
    intro c h
    rw [hc] at h
    cases h
  | @exchanged id call email answer hc hs _ =>
    obtain ⟨g', call', ha, hid, ho⟩ := (exchangeAnswered_exchanged g call email answer).onward
    refine .onward ha rfl ?_ ?_ ho
    · rw [hid, call?_id hc]
      rfl
    · rw [hid]
      exact found_aside hc (by rw [hs]; simp)
  | concluded hc hs _ =>
    refine .onward .refl rfl (by rw [call?_id hc]; rfl) ?_ (conclude_onward _ _ _)
    refine found_aside hc ⟨?_, ?_⟩
    · intro hl
      rw [hl] at hs
      cases hs
    · intro hq
      rw [hq] at hs
      cases hs
  | joined hc hs _ hp => exact .joined hc hs hp
  | overtaken hc hs _ _ _ _ =>
    exact .onward .refl rfl (by rw [call?_id hc]; rfl) (found_aside hc (by rw [hs]; simp))
      (replay_onward _ _ _)
  | led hc hs h401 hp ht hr => exact .led hc hs h401 hp ht hr
  | stranded hc hs _ hp _ _ => exact .settled _ hc (.inr ⟨by rw [hs]; simp, hp, rfl⟩)
  | settled hc hs => exact .settled _ hc (.inl ⟨hs, rfl, rfl⟩)
  | resumed hc hs =>
    exact .onward .refl rfl (by rw [call?_id hc]; rfl) (found_aside hc (by rw [hs]; simp))
      (proceed_onward _ _ _)
  | abandoned hc hs => exact .abandoned hc hs
  | left hc hs => exact .left hc hs
  | dropped hc hl hq => exact .dropped hc hl hq
  | changed change => exact .changed change

theorem step_control (g : Gateway σ) (e : Event) : Control g e (g.step e) :=
  (step_transition g e).control

/-! ## Calls that an event is not about -/

omit [KeyStore σ] in
theorem requestsFor_wakes (id : CallId) (ids : List CallId) (effects : List Effect) :
    requestsFor id (ids.map .wake ++ effects) = requestsFor id effects := by
  unfold requestsFor
  rw [List.filterMap_append]
  simp [List.filterMap_map]

omit [KeyStore σ] in
theorem resultsFor_wakes (id : CallId) (ids : List CallId) (effects : List Effect) :
    resultsFor id (ids.map .wake ++ effects) = resultsFor id effects := by
  unfold resultsFor
  rw [List.filterMap_append]
  simp [List.filterMap_map]

/-- What a step does to a call that its event is not about: nothing, or it is told an outcome as
the queue is emptied. -/
structure Framed (g : Gateway σ) (id : CallId) (moved : Moved σ) : Prop where
  requests : requestsFor id moved.2 = []
  results : resultsFor id moved.2 = []
  call : moved.1.call? id = g.call? id ∨
    (id ∈ g.queue ∧ moved.1.queue = [] ∧
      ∃ o, moved.1.call? id = (g.call? id).map fun c => { c with stage := .released o })

omit [KeyStore σ] in
theorem released_or_same (g : Gateway σ) (o : Outcome) (id : CallId) :
    (g.release o).1.call? id = g.call? id ∨
      (id ∈ g.queue ∧
        (g.release o).1.call? id = (g.call? id).map fun c => { c with stage := .released o }) := by
  rw [call?_release]
  by_cases hq : id ∈ g.queue
  · right
    simp only [hq, if_true, true_and]
  · left
    simp only [hq, if_false]
    exact Option.map_id'

theorem Control.framed {g : Gateway σ} {e : Event} {moved : Moved σ} (h : Control g e moved)
    {id : CallId} (hid : e.subject? ≠ some id) : Framed g id moved := by
  cases h with
  | ignored _ => exact ⟨rfl, rfl, .inl rfl⟩
  | @onward _ g' call _ ha _ he _ ho =>
    have hne : id ≠ call.id := by
      rintro rfl
      exact hid he
    refine ⟨ho.requestsFor_of_ne hne, ho.resultsFor_of_ne hne, .inl ?_⟩
    rw [ho.call?_of_ne hne, call?, ha.calls]
    rfl
  | @joined j call token response hc _ _ =>
    have hne : id ≠ call.id := by
      rintro rfl
      exact hid (by rw [call?_id hc]; rfl)
    exact ⟨rfl, rfl, .inl (call?_suspend_of_ne g call .queued hne)⟩
  | @led j call token response refresh hc _ _ _ _ _ =>
    have hne : id ≠ call.id := by
      rintro rfl
      exact hid (by rw [call?_id hc]; rfl)
    have hreq : requestsFor id [.dispatch call.id (refreshRequest g.config refresh)] = [] := by
      simp [requestsFor, Ne.symm hne]
    exact ⟨hreq, rfl, .inl (call?_suspend_of_ne _ call .leading hne)⟩
  | @settled j call answer g' o hc hs =>
    have hne : id ≠ call.id := by
      rintro rfl
      exact hid (by rw [call?_id hc]; rfl)
    have hq : g'.queue = g.queue := by obtain ⟨-, rfl, -⟩ | ⟨-, -, rfl⟩ := hs <;> rfl
    have hcalls : g'.calls = g.calls := by obtain ⟨-, rfl, -⟩ | ⟨-, -, rfl⟩ := hs <;> rfl
    have hfind : g'.call? id = g.call? id := by
      unfold call?
      rw [hcalls]
    have ho := proceed_onward ({ g' with phase := .idle : Gateway σ }.release o).1 call o
    rw [settleLeader_eq]
    refine ⟨?_, ?_, ?_⟩
    · simp only [requestsFor_wakes]
      exact ho.requestsFor_of_ne hne
    · simp only [resultsFor_wakes]
      exact ho.resultsFor_of_ne hne
    · rw [← hfind, ← hq]
      exact (released_or_same _ o id).imp (ho.call?_of_ne hne).trans
        fun h => ⟨h.1, ho.queue, o, (ho.call?_of_ne hne).trans h.2⟩
  | @abandoned j call hc hs =>
    have hne : id ≠ j := by
      rintro rfl
      exact hid rfl
    have hfind : (g.without j).call? id = g.call? id := call?_without_of_ne g hne
    have hw := requestsFor_wakes id g.queue []
    have hr := resultsFor_wakes id g.queue []
    rw [List.append_nil] at hw hr
    refine ⟨hw, hr, ?_⟩
    rw [← hfind]
    exact (released_or_same { g.without j with phase := .idle } _ id).imp_right
      fun h => ⟨h.1, rfl, _, h.2⟩
  | @left j call hc hs =>
    have hne : id ≠ j := by
      rintro rfl
      exact hid rfl
    exact ⟨rfl, rfl, .inl (call?_without_of_ne g hne)⟩
  | @dropped j call hc hl hq =>
    have hne : id ≠ j := by
      rintro rfl
      exact hid rfl
    exact ⟨rfl, rfl, .inl (call?_without_of_ne g hne)⟩
  | changed _ => exact ⟨rfl, rfl, .inl rfl⟩

/-! ## Requests for new tokens -/

omit [KeyStore σ] in
theorem refreshCalls_wakes (g : Gateway σ) (ids : List CallId) (effects : List Effect) :
    refreshCalls (g, ids.map Effect.wake ++ effects) = refreshCalls (g, effects) := by
  unfold refreshCalls
  rw [List.filterMap_append]
  simp [List.filterMap_map]

omit [KeyStore σ] in
theorem refreshCalls_lead (g : Gateway σ) (call : Call) (request : Request) :
    refreshCalls (g.dispatching call .leading request) = [(call.id, request)] := by
  have hl : (g.suspend call .leading).leads call.id = true := by
    unfold leads
    rw [call?_suspend_self]
    rfl
  simp [refreshCalls, dispatching, hl]

omit [KeyStore σ] in
theorem refreshCalls_release (g : Gateway σ) (o : Outcome) :
    refreshCalls (g.release o) = [] := by
  have h := refreshCalls_wakes (g.release o).1 g.queue []
  rw [List.append_nil] at h
  exact h

theorem refreshCalls_settleLeader (g : Gateway σ) (call : Call) (o : Outcome) :
    refreshCalls (g.settleLeader call o) = [] := by
  rw [settleLeader_eq]
  simp only [refreshCalls_wakes]
  exact (proceed_onward _ call o).refreshCalls

theorem settleLeader_phase (g : Gateway σ) (call : Call) (o : Outcome) :
    (g.settleLeader call o).1.phase = .idle := by
  rw [settleLeader_eq]
  exact (proceed_onward _ call o).phase

/-- A request for a new token is sent only for a call that is turned down and takes the lead. -/
theorem Control.refreshCalls {g : Gateway σ} {e : Event} {moved : Moved σ} (h : Control g e moved)
    {id : CallId} {request : Request} (hm : (id, request) ∈ Gateway.refreshCalls moved) :
    ∃ call token response refresh, e = .answer id (.ok response) ∧ response.status = 401 ∧
      g.call? id = some call ∧ call.stage = .first token ∧
      (g.context.session.access = none ∨ token = g.context.session.access) ∧
      g.context.session.refresh = some refresh ∧ request = refreshRequest g.config refresh ∧
      moved.1.context = g.context := by
  have hnil : ∀ l : List (CallId × Request), l = [] → (id, request) ∉ l := by
    rintro l rfl
    exact List.not_mem_nil
  cases h with
  | ignored _ => exact absurd hm (hnil _ rfl)
  | onward _ _ _ _ ho => exact absurd hm (hnil _ ho.refreshCalls)
  | joined _ _ _ => exact absurd hm (hnil _ rfl)
  | @led j call token response refresh hc hs h401 hp ht hr =>
    rw [refreshCalls_lead, List.mem_singleton, call?_id hc] at hm
    cases hm
    exact ⟨call, token, response, refresh, rfl, h401, hc, hs, ht, hr, rfl, rfl⟩
  | settled o _ _ => exact absurd hm (hnil _ (refreshCalls_settleLeader _ _ _))
  | abandoned _ _ => exact absurd hm (hnil _ (refreshCalls_release _ _))
  | left _ _ => exact absurd hm (hnil _ rfl)
  | dropped _ _ _ => exact absurd hm (hnil _ rfl)
  | changed _ => exact absurd hm (hnil _ rfl)

end AccessConsole.Gateway
