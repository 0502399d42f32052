import AccessConsole.Proofs.Gateway.Coherence
import Mathlib.Algebra.Order.BigOperators.Group.List
import Mathlib.Algebra.Order.Ring.Nat

/-!
# What is still to be done for a call

A call is sent twice at most and waits once at most, so it leads to a bounded number of effects.

* `Stage.load`, `Effect.load`, `Event.load` — how many effects a call at a stage, an effect or an
  event can still lead to, itself included; a call that is woken counts once more as it goes on.
* `load_without_add_le`, `load_suspend`, `load_release` — the load after each edit of the calls.
* `Coherent.load_step_le` — no step adds to the load but for a call that it begins.
* `effects_of_run_le` — a run has at most five effects for each call that it sends, and six for each
  sign-in.
-/

namespace AccessConsole

/-- How much a call at a stage can still lead to. A sign-in that has its tokens is sent like any
call then, and a call that was turned down waits, or gets a new token, and is sent once more. -/
def Stage.load : Stage → Nat
  | .exchange => 5
  | .first _ => 4
  | .queued => 4
  | .leading => 2
  | .released _ => 2
  | .bare => 1
  | .second => 1

/-- How much an effect comes to. A call that is woken still has to go on. -/
def Effect.load : Effect → Nat
  | .dispatch _ _ => 1
  | .wake _ => 2
  | .finish _ _ => 1

/-- How much an event can lead to beyond what is going on already. -/
def Event.load : Event → Nat
  | .send _ _ => 5
  | .login _ _ _ => 6
  | _ => 0

/-- How much effects come to. -/
def Effect.loads (effects : List Effect) : Nat := (effects.map Effect.load).sum

theorem Effect.loads_append (as bs : List Effect) :
    Effect.loads (as ++ bs) = Effect.loads as + Effect.loads bs := by
  unfold Effect.loads
  rw [List.map_append, List.sum_append]

theorem Effect.loads_cons (e : Effect) (effects : List Effect) :
    Effect.loads (e :: effects) = e.load + Effect.loads effects := by
  unfold Effect.loads
  rw [List.map_cons, List.sum_cons]

theorem Effect.loads_wakes (ids : List CallId) :
    Effect.loads (ids.map .wake) = 2 * ids.length := by
  induction ids with
  | nil => rfl
  | cons id ids ih =>
    have htwo : (Effect.wake id).load = 2 := rfl
    rw [List.map_cons, Effect.loads_cons, ih, List.length_cons]
    omega

theorem Effect.length_le_loads (effects : List Effect) :
    effects.length ≤ Effect.loads effects := by
  induction effects with
  | nil => exact Nat.zero_le _
  | cons e effects ih =>
    have he : 1 ≤ e.load := by cases e <;> simp [Effect.load]
    rw [List.length_cons, Effect.loads_cons]
    omega

theorem Effect.loads_le (effects : List Effect) : Effect.loads effects ≤ 2 * effects.length := by
  induction effects with
  | nil => exact Nat.le_refl 0
  | cons e effects ih =>
    have he : e.load ≤ 2 := by cases e <;> simp [Effect.load]
    rw [List.length_cons, Effect.loads_cons]
    omega

namespace Gateway

variable {σ : Type}

/-- How much the calls of a gateway can still lead to. -/
def load (g : Gateway σ) : Nat := (g.calls.map fun c => c.stage.load).sum

/-- How much a move leaves to be done. -/
def Moved.load (moved : Moved σ) : Nat := moved.1.load + Effect.loads moved.2

theorem load_le (g : Gateway σ) : g.load ≤ 5 * g.calls.length := by
  have hstage : ∀ n ∈ g.calls.map fun c => c.stage.load, n ≤ 5 := by
    intro n hn
    obtain ⟨c, -, rfl⟩ := List.mem_map.1 hn
    cases c.stage <;> simp [Stage.load]
  have hsum := List.sum_le_card_nsmul _ 5 hstage
  rw [List.length_map] at hsum
  exact hsum.trans (Nat.le_of_eq (Nat.mul_comm _ 5))

/-! ## Edits -/

theorem load_without_le (g : Gateway σ) (id : CallId) : (g.without id).load ≤ g.load :=
  (List.filter_sublist.map fun c : Call => c.stage.load).sum_le_sum fun _ _ => Nat.zero_le _

/-- A call that goes takes along what it could lead to. -/
theorem load_without_add_le {g : Gateway σ} {id : CallId} {call : Call}
    (hc : g.call? id = some call) : (g.without id).load + call.stage.load ≤ g.load := by
  have hperm := (List.filter_append_perm (fun c : Call => decide (c.id ≠ id)) g.calls).map
    fun c : Call => c.stage.load
  have hmem : call.stage.load ∈
      (g.calls.filter fun c => !decide (c.id ≠ id)).map fun c => c.stage.load := by
    refine List.mem_map.2 ⟨call, List.mem_filter.2 ⟨call?_mem hc, ?_⟩, rfl⟩
    simp [call?_id hc]
  have hle := List.le_sum_of_mem hmem
  have hsum := hperm.sum_nat
  rw [List.map_append, List.sum_append] at hsum
  show ((g.calls.filter fun c => decide (c.id ≠ id)).map fun c => c.stage.load).sum + _ ≤
    (g.calls.map fun c => c.stage.load).sum
  omega

theorem load_suspend (g : Gateway σ) (call : Call) (stage : Stage) :
    (g.suspend call stage).load = (g.without call.id).load + stage.load := by
  unfold load suspend
  simp

theorem load_dispatching (g : Gateway σ) (call : Call) (stage : Stage) (request : Request) :
    (g.dispatching call stage request).load = (g.without call.id).load + stage.load + 1 := by
  show (g.suspend call stage).load + 1 = _
  rw [load_suspend]

theorem load_finish (g : Gateway σ) (id : CallId) (result : Except GatewayError Reply) :
    (g.finish id result).load = (g.without id).load + 1 := rfl

/-- To release a call and wake it comes to as much as to leave it in the queue. -/
theorem load_release {g : Gateway σ} (hn : (g.calls.map Call.id).Nodup) (hq : g.queue = g.waiting)
    (o : Outcome) : (g.release o).load = g.load := by
  have hcalls : (g.release o).1.load = (g.calls.map fun c =>
      if c.stage = .queued then 2 else c.stage.load).sum := by
    unfold load release
    rw [List.map_map]
    congr 1
    apply List.map_congr_left
    intro c hc
    have hmem : c.id ∈ g.queue ↔ c.stage = .queued := by
      rw [hq, waiting, mem_idsAt_iff hn, call?_of_mem hn hc]
      simp
    simp only [Function.comp_apply, hmem]
    split_ifs <;> rfl
  have hqueue : 2 * g.queue.length = (g.calls.map fun c =>
      if c.stage = .queued then 2 else 0).sum := by
    rw [hq, List.sum_map_ite]
    simp [waiting, idsAt, Nat.mul_comm]
  have hshare : ∀ c : Call, (if c.stage = .queued then 2 else c.stage.load) +
      (if c.stage = .queued then 2 else 0) = c.stage.load := by
    intro c
    split_ifs with hs
    · rw [hs]
      rfl
    · rfl
  show (g.release o).1.load + Effect.loads (g.queue.map .wake) = g.load
  rw [Effect.loads_wakes, hcalls, hqueue, ← List.sum_map_add]
  simp only [hshare]
  rfl

section

variable [KeyStore σ]

/-! ## Calls that go on by themselves -/

omit [KeyStore σ] in
theorem load_finishLogin (g : Gateway σ) (id : CallId) :
    (g.finishLogin id).load = (g.without id).load + 1 := by
  obtain ⟨result, hr⟩ := finishLogin_eq g id
  rw [hr]
  rfl

theorem load_conclude (g : Gateway σ) (call : Call) (result : CallResult) :
    (g.conclude call result).load = (g.without call.id).load + 1 := by
  unfold conclude
  split
  · rfl
  · split
    · exact load_finishLogin (g.changed _) call.id
    · exact load_finishLogin g call.id
  · rfl
  · exact load_finishLogin g call.id

theorem load_begin_le (g : Gateway σ) (call : Call) :
    (g.begin call).load ≤ (g.without call.id).load + 5 := by
  unfold begin
  split_ifs
  · rw [load_dispatching]
    simp only [Stage.load]
    omega
  · cases g.context.session.access with
    | none =>
      simp only [load_dispatching, Stage.load]
      omega
    | some token =>
      simp only
      cases call.request.withBearer? token with
      | some request =>
        simp only [load_dispatching, Stage.load]
        omega
      | none =>
        simp only [load_conclude]
        omega

theorem load_replay_le (g : Gateway σ) (call : Call) (token : String) :
    (g.replay call token).load ≤ (g.without call.id).load + 2 := by
  unfold replay
  split
  · rw [load_dispatching]
    simp only [Stage.load]
    omega
  · rw [load_conclude]
    omega

theorem load_proceed_le (g : Gateway σ) (call : Call) (o : Outcome) :
    (g.proceed call o).load ≤ (g.without call.id).load + 2 := by
  cases o with
  | refreshed token => exact load_replay_le g call token
  | failed reason =>
    show (g.conclude call _).load ≤ _
    rw [load_conclude]
    omega

/-- What the answer to a sign-in comes to is no more than a call that is sent. -/
theorem Exchanged.load_le {g : Gateway σ} {call : Call} {email : String}
    {answer : Except String Response} {moved : Moved σ} (h : Exchanged g call email answer moved) :
    moved.load ≤ (g.without call.id).load + 5 := by
  cases h with
  | turnedDown _ _ _ =>
    show (g.without call.id).load + 1 ≤ _
    omega
  | failed _ _ _ =>
    show (g.without call.id).load + 1 ≤ _
    omega
  | unstored tokens error _ _ =>
    show (g.without call.id).load + 1 ≤ _
    omega
  | signedIn tokens _ _ _ =>
    rw [load_finishLogin]
    show (g.without call.id).load + 1 ≤ _
    omega
  | @lookedUp tokens request _ _ _ => exact load_begin_le (g.changed _) { call with request }

/-- A call that settles a refresh and those whom it wakes come to no more than before. -/
theorem Coherent.load_settleLeader_le {g : Gateway σ} (h : Coherent g) (g' : Gateway σ)
    (hcalls : g'.calls = g.calls) (hqueue : g'.queue = g.queue) {id : CallId} {call : Call}
    (hc : g.call? id = some call) (hs : call.stage ≠ .queued) (hload : 2 ≤ call.stage.load)
    (o : Outcome) : (g'.settleLeader call o).load ≤ g.load := by
  -- What is released depends on calls and queue alone.
  set released : Gateway σ := ({ g' with phase := .idle : Gateway σ }.release o).1 with hreleased
  have hsame : released.calls = (g.release o).1.calls := by
    rw [hreleased]
    unfold release
    simp only [hcalls, hqueue]
  have hcall : released.call? call.id = some call := by
    show released.calls.find? _ = _
    rw [hsame]
    show (g.release o).1.call? call.id = some call
    rw [call?_release, call?_id hc, hc, Option.map_some, if_neg (h.not_mem_queue hc hs)]
  have hkept : released.load + Effect.loads (g'.queue.map .wake) = g.load := by
    rw [← load_release h.nodup h.queue_eq o, hqueue]
    unfold Moved.load load
    rw [hsame]
    rfl
  have hshare := load_without_add_le hcall
  have hproceed := load_proceed_le released call o
  rw [settleLeader_eq]
  unfold Moved.load at hproceed ⊢
  simp only [Effect.loads_append]
  rw [← hreleased]
  omega

/-! ## Steps -/

omit [KeyStore σ] in
/-- A call that leads to no more than its share adds nothing. -/
theorem load_le_of_share {g : Gateway σ} {id : CallId} {call : Call} {moved : Moved σ} {n : Nat}
    (hc : g.call? id = some call) (hmoved : moved.load ≤ (g.without call.id).load + n)
    (hn : n ≤ call.stage.load) : moved.load ≤ g.load := by
  have hshare := load_without_add_le hc
  rw [call?_id hc] at hmoved
  omega

theorem Coherent.load_transition_le {g : Gateway σ} (h : Coherent g) {e : Event} {moved : Moved σ}
    (ht : Transition g e moved) : moved.load ≤ g.load + e.load := by
  cases ht with
  | ignored _ =>
    show g.load + 0 ≤ _
    omega
  | @began id request hc =>
    have hbegin : (g.begin ⟨id, .send, request, .bare⟩).load ≤ (g.without id).load + 5 :=
      load_begin_le g _
    have hle := load_without_le g id
    show _ ≤ g.load + 5
    omega
  | @signingIn id email password hc =>
    have hle := load_without_le g id
    rw [load_dispatching]
    show (g.without id).load + 5 + 1 ≤ g.load + 6
    omega
  | exchanged hc hs _ =>
    exact load_le_of_share hc (exchangeAnswered_exchanged g _ _ _).load_le
      (by simp [hs, Stage.load])
  | @concluded id call answer hc _ _ =>
    have hone : 1 ≤ call.stage.load := by cases call.stage <;> simp [Stage.load]
    exact load_le_of_share hc (Nat.le_of_eq (load_conclude g call _)) hone
  | @joined id call token response hc hs _ hp =>
    have hjoined : (g.join call).load = (g.without call.id).load + 4 :=
      load_suspend g call .queued
    exact load_le_of_share hc (Nat.le_of_eq hjoined) (by simp [hs, Stage.load])
  | overtaken hc hs _ _ _ _ =>
    exact load_le_of_share hc (load_replay_le g _ _) (by simp [hs, Stage.load])
  | @led id call token response refresh hc hs _ _ _ _ =>
    have hled : ({ g with phase := .refreshing : Gateway σ }.dispatching call .leading
        (refreshRequest g.config refresh)).load = (g.without call.id).load + 3 :=
      load_dispatching _ call .leading _
    exact load_le_of_share hc (Nat.le_of_eq hled) (by simp [hs, Stage.load])
  | stranded hc hs _ _ _ _ =>
    exact h.load_settleLeader_le ({ g with phase := .refreshing : Gateway σ }.changed .expire)
      rfl rfl hc (by simp [hs]) (by simp [hs, Stage.load]) _
  | @settled id call answer hc hs =>
    exact h.load_settleLeader_le (g.changed (refreshChange answer)) rfl rfl hc (by simp [hs])
      (by simp [hs, Stage.load]) _
  | resumed hc hs => exact load_le_of_share hc (load_proceed_le g _ _) (by simp [hs, Stage.load])
  | @abandoned id call hc hs =>
    have hkept : (g.release (.failed .abandoned)).1.load + Effect.loads (g.queue.map .wake) =
        g.load := load_release h.nodup h.queue_eq _
    have hle := load_without_le (g.release (.failed .abandoned)).1 id
    rw [release_without] at hle
    show ((g.without id).release _).1.load + Effect.loads (g.queue.map .wake) ≤ g.load + 0
    omega
  | @left id call hc hs =>
    have hle := load_without_le g id
    show (g.without id).load + 0 ≤ _
    omega
  | @dropped id call hc hl hq =>
    have hle := load_without_le g id
    show (g.without id).load + 0 ≤ _
    omega
  | changed change =>
    show g.load + 0 ≤ _
    omega

/-- No step adds to the load but for a call that it begins. -/
theorem Coherent.load_step_le {g : Gateway σ} (h : Coherent g) (e : Event) :
    (g.step e).load ≤ g.load + e.load :=
  h.load_transition_le (step_transition g e)

/-- The effects of a run. -/
def effectsOf (history : List (Moment σ)) : List Effect := history.flatMap Moment.effects

/-- What a run wants done, with what it still leads to, is bounded by the calls that begin in it. -/
theorem load_run_le (config : Config) (context : SessionContext σ) (es : List Event) :
    ((start config context).run es).load +
      Effect.loads (effectsOf ((start config context).history es)) ≤ (es.map Event.load).sum := by
  induction es using List.reverseRecOn with
  | nil => exact Nat.le_refl 0
  | append_singleton es e ih =>
    have hstep := (coherent_run config context es).load_step_le e
    rw [run_concat, history_concat, List.map_append, List.sum_append]
    unfold effectsOf at ih ⊢
    rw [List.flatMap_append, Effect.loads_append]
    unfold Moved.load at hstep
    simp only [List.flatMap_cons, List.flatMap_nil, List.append_nil, List.map_cons, List.map_nil,
      List.sum_cons, List.sum_nil, Nat.add_zero, Moment.effects]
    omega

/-- In every run the gateway asks for five things at most for each call that is sent, and for six
for each sign-in. -/
theorem effects_of_run_le (config : Config) (context : SessionContext σ) (es : List Event) :
    (effectsOf ((start config context).history es)).length ≤ (es.map Event.load).sum := by
  have hrun := load_run_le config context es
  have hlen := Effect.length_le_loads (effectsOf ((start config context).history es))
  omega

end

end Gateway

end AccessConsole
