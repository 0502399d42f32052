import AccessConsole.Proofs.Gateway.SignOut
import AccessConsole.Proofs.Session.Texts
import AccessConsole.Rehearsal.Script

/-!
# What is held in memory decides

A gateway moves in lockstep with one that has no store at all, as long as nobody signs in: what a
store takes or refuses never shows in what the gateway does.

* `NoStore` — the store that keeps nothing.
* `Gateway.forget`, `Moved.forget` — a gateway, or a move of one, without its store.
* `forget_step` — a step without the store is the step of the gateway without the store.
* `store_never_shows` — two runs from the same restored session are the same to an observer.
-/

namespace AccessConsole

/-- The store that keeps nothing. -/
structure NoStore

instance : KeyStore NoStore where
  get _ _ := .ok none
  set s _ _ := (.ok (), s)
  remove s _ := (.ok (), s)

section

variable {σ : Type}

/-- A context without its store. -/
def SessionContext.forget (context : SessionContext σ) : SessionContext NoStore :=
  { context with store := {} }

variable [KeyStore σ]

theorem SessionContext.forget_after (context : SessionContext σ) (change : Change) :
    (context.after change).forget = context.forget.after change := by
  unfold after apply forget
  split_ifs <;> rfl

/-- The same session is restored with the same status. -/
theorem SessionContext.forget_restore {store : σ} {context : SessionContext σ}
    (h : restore store = .ok context) :
    context.forget = ⟨{}, context.session,
      if context.session.access.isSome then .authenticated else .signedOut, 0⟩ := by
  obtain ⟨access, refresh, user, -, -, -, rfl⟩ := restore_ok h
  rfl

end

namespace Gateway

variable {σ : Type}

/-- A gateway without its store. -/
def forget (g : Gateway σ) : Gateway NoStore := { g with context := g.context.forget }

/-- A move without the store. -/
def Moved.forget (m : Moved σ) : Moved NoStore := (m.1.forget, m.2)

theorem onlySends_start (config : Config) (context : SessionContext σ) :
    (start config context).OnlySends := by
  intro id c hc
  cases hc

/-! ## Lockstep -/

theorem forget_finishLogin (g : Gateway σ) (id : CallId) :
    Moved.forget (g.finishLogin id) = g.forget.finishLogin id := by
  show Moved.forget (if g.context.isAuthenticated then _ else _) =
    if g.context.isAuthenticated then _ else _
  split_ifs <;> rfl

theorem forget_cancelled (g : Gateway σ) (call : Call) :
    Moved.forget (g.cancelled call) = g.forget.cancelled call := by
  unfold cancelled
  cases call.stage <;> rfl

variable [KeyStore σ]

theorem forget_changed (g : Gateway σ) (change : Change) :
    (g.changed change).forget = g.forget.changed change := by
  unfold changed forget
  rw [SessionContext.forget_after]

theorem forget_conclude (g : Gateway σ) (call : Call) (result : CallResult) :
    Moved.forget (g.conclude call result) = g.forget.conclude call result := by
  unfold conclude
  cases call.purpose with
  | send => rfl
  | login email =>
    cases result with
    | error e => cases e <;> first | rfl | exact forget_finishLogin g call.id
    | ok response =>
      cases hp : Profile.codec.decode? response.body with
      | none =>
        simp only [hp]
        exact forget_finishLogin g call.id
      | some profile =>
        simp only [hp]
        rw [forget_finishLogin, forget_changed]

theorem forget_begin (g : Gateway σ) (call : Call) :
    Moved.forget (g.begin call) = g.forget.begin call := by
  have haccess : g.forget.context.session.access = g.context.session.access := rfl
  have hconfig : g.forget.config = g.config := rfl
  unfold begin
  rw [haccess, hconfig]
  split_ifs with hauth
  · rfl
  · cases g.context.session.access with
    | none => rfl
    | some token =>
      cases hr : call.request.withBearer? token with
      | none =>
        simp only [hr]
        exact forget_conclude g call _
      | some request => simp only [hr]; rfl

theorem forget_replay (g : Gateway σ) (call : Call) (token : String) :
    Moved.forget (g.replay call token) = g.forget.replay call token := by
  unfold replay
  cases call.request.withBearer? token with
  | none => exact forget_conclude g call _
  | some request => rfl

theorem forget_proceed (g : Gateway σ) (call : Call) (o : Outcome) :
    Moved.forget (g.proceed call o) = g.forget.proceed call o := by
  cases o with
  | refreshed token => exact forget_replay g call token
  | failed reason => exact forget_conclude g call _

theorem forget_settleLeader (g : Gateway σ) (call : Call) (o : Outcome) :
    Moved.forget (g.settleLeader call o) = g.forget.settleLeader call o := by
  rw [settleLeader_eq, settleLeader_eq]
  have h := forget_proceed ({ g with phase := .idle : Gateway σ }.release o).1 call o
  show (((({ g with phase := .idle : Gateway σ }.release o).1.proceed call o).1).forget, _) = _
  have h1 := congrArg Prod.fst h
  have h2 := congrArg Prod.snd h
  exact Prod.ext h1 (congrArg (g.queue.map .wake ++ ·) h2)

theorem forget_lead (g : Gateway σ) (call : Call) :
    Moved.forget (g.lead call) = g.forget.lead call := by
  have hrefresh : g.forget.context.session.refresh = g.context.session.refresh := rfl
  cases hr : g.context.session.refresh with
  | some token =>
    rw [lead_of_some hr, lead_of_some (hrefresh.trans hr)]
    rfl
  | none =>
    rw [lead_of_none hr, lead_of_none (hrefresh.trans hr), forget_settleLeader, forget_changed]
    rfl

theorem forget_recover (g : Gateway σ) (call : Call) (sent : Option String) :
    Moved.forget (g.recover call sent) = g.forget.recover call sent := by
  have hphase : g.forget.phase = g.phase := rfl
  have haccess : g.forget.context.session.access = g.context.session.access := rfl
  unfold recover
  rw [hphase, haccess]
  split_ifs
  · rfl
  · cases g.context.session.access with
    | none => exact forget_lead g call
    | some current =>
      by_cases hsent : sent = some current
      · simp only [hsent, if_true]
        exact forget_lead g call
      · simp only [hsent, if_false]
        exact forget_replay g call current

theorem forget_refreshAnswered (g : Gateway σ) (call : Call) (answer : Except String Response) :
    Moved.forget (g.refreshAnswered call answer) = g.forget.refreshAnswered call answer := by
  rw [refreshAnswered_eq, refreshAnswered_eq, forget_settleLeader, forget_changed]

/-- Only the request for a token pair is answered with an eye on the store. -/
theorem forget_answered (g : Gateway σ) {call : Call} (hp : call.purpose = .send)
    (answer : Except String Response) :
    Moved.forget (g.answered call answer) = g.forget.answered call answer := by
  unfold answered
  cases call.stage with
  | exchange =>
    simp only [hp]
    exact forget_conclude g call _
  | bare => exact forget_conclude g call _
  | second => exact forget_conclude g call _
  | leading => exact forget_refreshAnswered g call answer
  | queued => rfl
  | released _ => rfl
  | first token =>
    cases answer with
    | error text => exact forget_conclude g call _
    | ok response =>
      by_cases h401 : response.status = 401
      · simp only [h401, if_true]
        exact forget_recover g call token
      · simp only [h401, if_false]
        exact forget_conclude g call _

/-- While only sends are going on, the gateway moves like one without a store. -/
theorem forget_step {g : Gateway σ} (hg : g.OnlySends) {e : Event} (he : e.signsIn = false) :
    Moved.forget (g.step e) = g.forget.step e := by
  have hcall : ∀ id, g.forget.call? id = g.call? id := fun _ => rfl
  unfold step
  cases e with
  | send id request =>
    simp only [hcall]
    split_ifs
    · rfl
    · exact forget_begin g _
  | login id email password => cases he
  | answer id result =>
    simp only [hcall]
    cases hc : g.call? id with
    | none => rfl
    | some call => exact forget_answered g (hg id call hc) result
  | resume id =>
    simp only [hcall]
    cases g.call? id with
    | none => rfl
    | some call =>
      cases hs : call.stage with
      | released o =>
        simp only [hs]
        exact forget_proceed g call o
      | _ => simp only [hs]; rfl
  | cancel id =>
    simp only [hcall]
    cases g.call? id with
    | none => rfl
    | some call => exact forget_cancelled g call
  | change change => exact Prod.ext (forget_changed g change) rfl

/-! ## Runs -/

theorem forget_run {g : Gateway σ} (hg : g.OnlySends) {es : List Event}
    (hes : ∀ e ∈ es, e.signsIn = false) :
    (g.run es).forget = g.forget.run es ∧
      (g.history es).map Moment.effects = (g.forget.history es).map Moment.effects := by
  induction es generalizing g with
  | nil => exact ⟨rfl, rfl⟩
  | cons e es ih =>
    have he : e.signsIn = false := hes e List.mem_cons_self
    have hstep : Moved.forget (g.step e) = g.forget.step e := forget_step hg he
    obtain ⟨hrun, heffects⟩ := ih (hg.step he) fun e' h => hes e' (List.mem_cons_of_mem _ h)
    have hnext : (g.step e).1.forget = (g.forget.step e).1 := congrArg Prod.fst hstep
    have hnow : (g.step e).2 = (g.forget.step e).2 := congrArg Prod.snd hstep
    rw [hnext] at hrun heffects
    refine ⟨hrun, ?_⟩
    simp only [history, List.map_cons, heffects, Moment.effects, hnow]

/-- Two sessions are restored from stores of any kind, and are the same. Whatever the stores take
or refuse from then on, as long as nobody signs in, the same events lead to the same session, the
same status, phase, queue and calls, and the gateway wants the same done at each of them: the same
requests sent in the same order, and the same results given to the callers. -/
theorem store_never_shows {τ : Type} [KeyStore τ] {store : σ} {store' : τ}
    {context : SessionContext σ} {context' : SessionContext τ}
    (hrestored : SessionContext.restore store = .ok context)
    (hrestored' : SessionContext.restore store' = .ok context')
    (hsession : context.session = context'.session) (config : Config) (es : List Event)
    (hes : ∀ e ∈ es, e.signsIn = false) :
    let g := (start config context).run es
    let g' := (start config context').run es
    g.context.session = g'.context.session ∧ g.context.status = g'.context.status ∧
      g.phase = g'.phase ∧ g.queue = g'.queue ∧ g.calls = g'.calls ∧
      ((start config context).history es).map Moment.effects =
        ((start config context').history es).map Moment.effects := by
  intro g g'
  have hstart : (start config context).forget = (start config context').forget := by
    have hcontext : context.forget = context'.forget := by
      rw [SessionContext.forget_restore hrestored, SessionContext.forget_restore hrestored',
        hsession]
    show ({ start config context' with context := context.forget } : Gateway NoStore) = _
    rw [hcontext]
    rfl
  obtain ⟨hrun, heffects⟩ := forget_run (onlySends_start config context) hes
  obtain ⟨hrun', heffects'⟩ := forget_run (onlySends_start config context') hes
  have hg : g.forget = g'.forget := hrun.trans ((congrArg (·.run es) hstart).trans hrun'.symm)
  refine ⟨congrArg (·.context.session) hg, congrArg (·.context.status) hg, congrArg (·.phase) hg,
    congrArg (·.queue) hg, congrArg (·.calls) hg, ?_⟩
  rw [heffects, heffects', hstart]

/-- A store that takes everything. -/
def takingStore : MemoryStore := ⟨[("jwt_token", "a"), ("refresh_token", "r")]⟩

/-- A store with the same texts that refuses every write of a session. -/
def stubbornStore : Rehearsal.RefusingStore :=
  { entries := takingStore.entries
    set := [accessKey, refreshKey, userKey]
    remove := [accessKey, refreshKey, userKey] }

/-- A call is refreshed, and somebody signs out: over both stores alike, though one of them still
holds the old tokens. -/
theorem stubborn_store_never_shows :
    ∃ context context',
      SessionContext.restore takingStore = .ok context ∧
      SessionContext.restore stubbornStore = .ok context' ∧
      let es := refreshOnTheWay ++ [.answer 0 (.ok ⟨200, "\x7b\"access\":\"b\"\x7d"⟩),
        .answer 0 (.ok ⟨200, ""⟩), .change .clear]
      let g := (start sampleConfig context).run es
      let g' := (start sampleConfig context').run es
      g.context.store.entries ≠ g'.context.store.entries ∧
      g.context.session = g'.context.session ∧ g.context.status = g'.context.status ∧
      g.phase = g'.phase ∧ g.queue = g'.queue ∧ g.calls = g'.calls ∧
      ((start sampleConfig context).history es).map Moment.effects =
        ((start sampleConfig context').history es).map Moment.effects := by
  let session : Session := ⟨some "a", some "r", none⟩
  have htaking : SessionContext.restore takingStore =
      .ok ⟨takingStore, session, .authenticated, 0⟩ := by rfl
  have hstubborn : SessionContext.restore stubbornStore =
      .ok ⟨stubbornStore, session, .authenticated, 0⟩ := by rfl
  refine ⟨_, _, htaking, hstubborn, by decide +kernel, ?_⟩
  exact store_never_shows htaking hstubborn rfl sampleConfig _ (by decide)

end Gateway

end AccessConsole
