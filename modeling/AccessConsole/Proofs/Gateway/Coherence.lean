import AccessConsole.Proofs.Gateway.Control

/-!
# Phase, queue and calls agree

The refresh is kept in three places: the phase, the queue, and the stages of the calls.

* `Coherent` — the three agree: no number stands twice, the queue holds the calls that wait, and
  the gateway is refreshing exactly while one call leads.
* `Coherent.step`, `coherent_run` — this holds before the first call and after every step.
-/

namespace AccessConsole.Gateway

variable {σ : Type}

/-- Phase, queue and calls agree. -/
structure Coherent (g : Gateway σ) : Prop where
  /-- No number stands twice. -/
  nodup : (g.calls.map Call.id).Nodup
  /-- The queue holds the calls that wait. -/
  queue_eq : g.queue = g.waiting
  /-- One call leads while the gateway is refreshing; else none leads and none waits. -/
  phase : (g.phase = .idle ∧ g.leaders = [] ∧ g.queue = []) ∨
    (g.phase = .refreshing ∧ ∃ id, g.leaders = [id])

theorem coherent_start (config : Config) (context : SessionContext σ) :
    Coherent (start config context) :=
  ⟨List.nodup_nil, rfl, .inl ⟨rfl, rfl, rfl⟩⟩

namespace Coherent

variable {g : Gateway σ}

/-! ## What follows -/

theorem queue_nodup (h : Coherent g) : g.queue.Nodup := by
  rw [h.queue_eq]
  exact nodup_idsAt h.nodup _

theorem mem_queue (h : Coherent g) {id : CallId} :
    id ∈ g.queue ↔ ∃ c, g.call? id = some c ∧ c.stage = .queued := by
  rw [h.queue_eq, waiting, mem_idsAt_iff h.nodup]
  simp

theorem mem_leaders (h : Coherent g) {id : CallId} :
    id ∈ g.leaders ↔ ∃ c, g.call? id = some c ∧ c.stage = .leading := by
  rw [leaders, mem_idsAt_iff h.nodup]
  simp

theorem not_mem_queue (h : Coherent g) {id : CallId} {c : Call} (hc : g.call? id = some c)
    (hs : c.stage ≠ .queued) : id ∉ g.queue := by
  rw [h.mem_queue]
  rintro ⟨d, hd, hq⟩
  rw [hc] at hd
  cases hd
  exact hs hq

theorem not_mem_leaders (h : Coherent g) {id : CallId} {c : Call} (hc : g.call? id = some c)
    (hs : c.stage ≠ .leading) : id ∉ g.leaders := by
  rw [h.mem_leaders]
  rintro ⟨d, hd, hl⟩
  rw [hc] at hd
  cases hd
  exact hs hl

/-- While a call leads, it is the only one. -/
theorem leaders_eq (h : Coherent g) {id : CallId} (hl : id ∈ g.leaders) : g.leaders = [id] := by
  obtain ⟨-, hn, -⟩ | ⟨-, j, hj⟩ := h.phase
  · rw [hn] at hl
    exact absurd hl List.not_mem_nil
  · rw [hj] at hl ⊢
    rw [List.mem_singleton.1 hl]

theorem idle (h : Coherent g) (hp : g.phase ≠ .refreshing) :
    g.phase = .idle ∧ g.leaders = [] ∧ g.queue = [] := by
  obtain hi | ⟨hr, -⟩ := h.phase
  · exact hi
  · exact absurd hr hp

/-- When a refresh is settled, nobody else leads. -/
theorem leaders_of_settling (h : Coherent g) {id : CallId} {c : Call} (hc : g.call? id = some c)
    (hs : c.stage = .leading ∨ g.phase ≠ .refreshing) : ∀ j ∈ g.leaders, j = c.id := by
  intro j hj
  obtain hl | hp := hs
  · rw [h.leaders_eq (h.mem_leaders.2 ⟨c, hc, hl⟩), List.mem_singleton] at hj
    rw [hj, call?_id hc]
  · rw [(h.idle hp).2.1] at hj
    exact absurd hj List.not_mem_nil

/-! ## Edits -/

theorem changed [KeyStore σ] (h : Coherent g) (change : Change) : Coherent (g.changed change) :=
  ⟨h.nodup, h.queue_eq, h.phase⟩

/-- A call that neither leads nor waits may go. -/
theorem without (h : Coherent g) {id : CallId} (hl : id ∉ g.leaders) (hq : id ∉ g.queue) :
    Coherent (g.without id) := by
  have hleaders : (g.without id).leaders = g.leaders := idsAt_without_of_not_mem hl
  have hwaiting : (g.without id).waiting = g.waiting := by
    rw [h.queue_eq] at hq
    exact idsAt_without_of_not_mem hq
  refine ⟨nodup_without h.nodup id, ?_, ?_⟩
  · rw [hwaiting]
    exact h.queue_eq
  · rw [hleaders]
    exact h.phase

theorem without_of_none (h : Coherent g) {id : CallId} (hc : g.call? id = none) :
    Coherent (g.without id) := by
  refine h.without (not_mem_idsAt_of_none hc) ?_
  rw [h.queue_eq]
  exact not_mem_idsAt_of_none hc

theorem without_of_stage (h : Coherent g) {id : CallId} {c : Call} (hc : g.call? id = some c)
    (hl : c.stage ≠ .leading) (hq : c.stage ≠ .queued) : Coherent (g.without id) :=
  h.without (h.not_mem_leaders hc hl) (h.not_mem_queue hc hq)

/-- A call whose own request is sent neither leads nor waits. -/
theorem suspend_own {call : Call} (h : Coherent (g.without call.id)) {stage : Stage}
    (hs : stage.isOwn = true) : Coherent (g.suspend call stage) := by
  have hleaders : (g.suspend call stage).leaders = (g.without call.id).leaders := by
    unfold leaders
    rw [idsAt_suspend, if_neg (by cases stage <;> simp_all [Stage.isOwn]), List.append_nil]
  have hwaiting : (g.suspend call stage).waiting = (g.without call.id).waiting := by
    unfold waiting
    rw [idsAt_suspend, if_neg (by cases stage <;> simp_all [Stage.isOwn]), List.append_nil]
  refine ⟨nodup_suspend h.nodup stage, ?_, ?_⟩
  · rw [hwaiting]
    exact h.queue_eq
  · rw [hleaders]
    exact h.phase

/-- What a call does by itself keeps the rest as it is. -/
theorem onward [KeyStore σ] {call : Call} (h : Coherent (g.without call.id)) {moved : Moved σ}
    (ho : Onward g call moved) : Coherent moved.1 := by
  cases ho with
  | sent hs _ => exact h.suspend_own hs
  | ended result => exact h
  | named user result => exact h.changed _

theorem join {call : Call} (h : Coherent (g.without call.id)) (hp : g.phase = .refreshing) :
    Coherent (g.join call).1 := by
  have hleaders : (g.suspend call .queued).leaders = (g.without call.id).leaders := by
    unfold leaders
    rw [idsAt_suspend]
    simp
  have hwaiting : (g.suspend call .queued).waiting = (g.without call.id).waiting ++ [call.id] := by
    unfold waiting
    rw [idsAt_suspend]
    simp
  refine ⟨nodup_suspend h.nodup .queued, ?_, ?_⟩
  · show g.queue ++ [call.id] = (g.suspend call .queued).waiting
    rw [hwaiting, ← h.queue_eq]
    rfl
  · obtain ⟨hi, -⟩ | ⟨-, id, hl⟩ := h.phase
    · exact absurd (hp.symm.trans hi) (by simp)
    · exact .inr ⟨hp, id, by rw [← hl, ← hleaders]; rfl⟩

theorem lead {call : Call} (h : Coherent (g.without call.id)) (hp : g.phase ≠ .refreshing) :
    Coherent ({ g with phase := .refreshing : Gateway σ }.suspend call .leading) := by
  obtain ⟨-, hl, hq⟩ := h.idle hp
  have hleaders : (g.suspend call .leading).leaders = (g.without call.id).leaders ++ [call.id] := by
    unfold leaders
    rw [idsAt_suspend]
    simp
  have hwaiting : (g.suspend call .leading).waiting = (g.without call.id).waiting := by
    unfold waiting
    rw [idsAt_suspend]
    simp
  refine ⟨nodup_suspend h.nodup .leading, ?_, ?_⟩
  · show g.queue = (g.suspend call .leading).waiting
    rw [hwaiting]
    exact h.queue_eq
  · refine .inr ⟨rfl, call.id, ?_⟩
    show (g.suspend call .leading).leaders = [call.id]
    rw [hleaders, hl, List.nil_append]

end Coherent

/-! ## Releasing the queue -/

/-- Releasing the queue and taking out a call can be done in either order. -/
theorem release_without (g : Gateway σ) (o : Outcome) (id : CallId) :
    (g.release o).1.without id = ((g.without id).release o).1 := by
  unfold release without
  simp only [List.filter_map]
  congr 3
  funext c
  simp only [Function.comp_apply]
  split_ifs <;> rfl

/-- Once the queue is released, the gateway is idle but for a call that may have led. -/
theorem coherent_drained {g : Gateway σ} (hn : (g.calls.map Call.id).Nodup)
    (hq : g.queue = g.waiting) {id : CallId} (hl : ∀ j ∈ g.leaders, j = id) (o : Outcome) :
    Coherent ({ g.without id with phase := .idle : Gateway σ }.release o).1 := by
  -- The call that led is gone, and all who waited are in the queue.
  set g' : Gateway σ := { g.without id with phase := .idle } with hg'
  have hat : ∀ p, g'.idsAt p = (g.idsAt p).filter (· ≠ id) := idsAt_without g id
  have hleaders : (g'.release o).1.leaders = [] := by
    unfold leaders
    rw [idsAt_release _ o (by simp), List.filter_eq_nil_iff]
    intro j hj
    rw [hat] at hj
    obtain ⟨hj, hne⟩ := List.mem_filter.1 hj
    simp [hl j hj] at hne
  have hwaiting : (g'.release o).1.waiting = [] := by
    unfold waiting
    rw [idsAt_release _ o (by simp), List.filter_eq_nil_iff]
    intro j hj
    rw [hat] at hj
    have hmem : j ∈ g'.queue := by
      show j ∈ g.queue
      rw [hq]
      exact (List.mem_filter.1 hj).1
    simpa using hmem
  refine ⟨nodup_release (nodup_without hn id) o, ?_, .inl ⟨rfl, hleaders, rfl⟩⟩
  rw [hwaiting]
  rfl

section

variable [KeyStore σ]

/-- A call that settles a refresh leaves the gateway idle and goes on itself. -/
theorem coherent_settleLeader {g : Gateway σ} (hn : (g.calls.map Call.id).Nodup)
    (hq : g.queue = g.waiting) {call : Call} (hl : ∀ j ∈ g.leaders, j = call.id) (o : Outcome) :
    Coherent (g.settleLeader call o).1 := by
  have hd : Coherent (({ g with phase := .idle : Gateway σ }.release o).1.without call.id) := by
    rw [release_without]
    exact coherent_drained hn hq hl o
  have hp := hd.onward (proceed_onward _ call o)
  exact hp

/-! ## Steps -/

theorem Coherent.alike {g g' : Gateway σ} (h : Coherent g) (ha : Alike g g') : Coherent g' := by
  refine ⟨?_, ?_, ?_⟩
  · rw [ha.calls]
    exact h.nodup
  · rw [ha.queue, waiting, idsAt_congr ha.calls]
    exact h.queue_eq
  · rw [ha.phase, ha.queue, leaders, idsAt_congr ha.calls]
    exact h.phase

theorem Coherent.control {g : Gateway σ} (h : Coherent g) {e : Event} {moved : Moved σ}
    (ht : Control g e moved) : Coherent moved.1 := by
  cases ht with
  | ignored _ => exact h
  | @onward e g' call moved ha _ _ hs ho =>
    have h' : Coherent g' := h.alike ha
    refine Coherent.onward ?_ ho
    cases hc : g'.call? call.id with
    | none => exact h'.without_of_none hc
    | some c =>
      have hc' : g.call? call.id = some c := by
        rw [← hc]
        unfold call?
        rw [ha.calls]
      exact h'.without_of_stage hc (hs c hc').1 (hs c hc').2
  | joined hc hs hp =>
    have hw := h.without_of_stage hc (by rw [hs]; simp) (by rw [hs]; simp)
    rw [← call?_id hc] at hw
    exact hw.join hp
  | led hc hs _ hp _ _ =>
    have hw := h.without_of_stage hc (by rw [hs]; simp) (by rw [hs]; simp)
    rw [← call?_id hc] at hw
    exact hw.lead hp
  | @settled id call answer g' o hc hs =>
    have hq : g'.queue = g.queue := by obtain ⟨-, rfl, -⟩ | ⟨-, -, rfl⟩ := hs <;> rfl
    have hcalls : g'.calls = g.calls := by obtain ⟨-, rfl, -⟩ | ⟨-, -, rfl⟩ := hs <;> rfl
    refine coherent_settleLeader ?_ ?_ ?_ o
    · rw [hcalls]
      exact h.nodup
    · rw [hq, waiting, idsAt_congr hcalls]
      exact h.queue_eq
    · rw [leaders, idsAt_congr hcalls]
      exact h.leaders_of_settling hc (hs.imp And.left fun hp => hp.2.1)
  | abandoned hc hs =>
    refine coherent_drained h.nodup h.queue_eq ?_ _
    rw [← call?_id hc]
    exact h.leaders_of_settling hc (.inl hs)
  | @left id call hc hs =>
    have hl : id ∉ g.leaders := h.not_mem_leaders hc (by rw [hs]; simp)
    refine ⟨nodup_without h.nodup id, ?_, ?_⟩
    · show g.queue.filter (· ≠ id) = (g.without id).waiting
      unfold waiting
      rw [idsAt_without, h.queue_eq]
      rfl
    · show (g.phase = .idle ∧ (g.without id).leaders = [] ∧ g.queue.filter (· ≠ id) = []) ∨
        (g.phase = .refreshing ∧ ∃ j, (g.without id).leaders = [j])
      rw [show (g.without id).leaders = g.leaders from idsAt_without_of_not_mem hl]
      obtain ⟨hi, hn, hq⟩ | hr := h.phase
      · exact .inl ⟨hi, hn, by rw [hq]; rfl⟩
      · exact .inr hr
  | dropped hc hl hq => exact h.without_of_stage hc hl hq
  | changed change => exact h.changed change

/-- Every step keeps phase, queue and calls in agreement. -/
theorem Coherent.step {g : Gateway σ} (h : Coherent g) (e : Event) : Coherent (g.step e).1 :=
  h.control (step_control g e)

/-- Phase, queue and calls agree in every run. -/
theorem coherent_run (config : Config) (context : SessionContext σ) (es : List Event) :
    Coherent ((start config context).run es) :=
  run_induction (coherent_start config context) (fun _ e h => h.step e) es

end

end AccessConsole.Gateway
