import AccessConsole.Proofs.Gateway.Coherence

/-!
# One refresh at a time

* `refreshesInFlight` — read off a history: the calls whose request for a new token was sent, and
  has since been neither answered nor given up.
* `leaders_eq_refreshesInFlight` — in every run these are the calls that lead.
* `single_flight` — the gateway is refreshing exactly while one such request is on the way; else it
  is idle with an empty queue.
-/

namespace AccessConsole

namespace Gateway

variable {σ : Type}

variable [KeyStore σ]

/-! ## Leaders -/

omit [KeyStore σ] in
theorem filter_ended {ids : List CallId} {e : Event} (h : ∀ id, e.ended? = some id → id ∉ ids) :
    ids.filter (fun id => e.ended? ≠ some id) = ids := by
  rw [List.filter_eq_self]
  intro id hid
  have hne : e.ended? ≠ some id := by
    intro he
    exact h id he hid
  simpa using hne

omit [KeyStore σ] in
theorem filter_ended_self {ids : List CallId} {e : Event} {id : CallId}
    (he : e.ended? = some id) (h : ∀ j ∈ ids, j = id) :
    ids.filter (fun j => e.ended? ≠ some j) = [] := by
  rw [List.filter_eq_nil_iff]
  intro j hj
  rw [h j hj, he]
  simp

/-- The calls that lead after a step: those that led, but for the one whose request was answered
or given up, and then those that send a request for a new token. -/
theorem Coherent.leaders_control {g : Gateway σ} (h : Coherent g) {e : Event} {moved : Moved σ}
    (ht : Control g e moved) :
    moved.1.leaders =
      g.leaders.filter (fun id => e.ended? ≠ some id) ++ (refreshCalls moved).map (·.1) := by
  have h' : Coherent moved.1 := h.control ht
  cases ht with
  | ignored hi =>
    rw [filter_ended, refreshCalls, List.filterMap_nil, List.map_nil, List.append_nil]
    intro id he hl
    obtain ⟨c, hc, hs⟩ := h.mem_leaders.1 hl
    exact hi.not_leading he hc hs
  | @onward _ g' call _ ha _ he hs ho =>
    have hid : call.id ∉ g.leaders := by
      rw [h.mem_leaders]
      rintro ⟨c, hc, hl⟩
      exact (hs c hc).1 hl
    have hl : g'.leaders = g.leaders := idsAt_congr ha.calls _
    rw [ho.refreshCalls, List.map_nil, List.append_nil, ho.leaders, filter_ended]
    · rw [← hl] at hid ⊢
      exact idsAt_without_of_not_mem hid
    · intro id hie
      have hsub : some id = some call.id := (Event.subject_of_ended hie).symm.trans he
      cases hsub
      exact hid
  | @joined id call token response hc hs hp =>
    have hid : id ∉ g.leaders := h.not_mem_leaders hc (by rw [hs]; simp)
    show (g.suspend call .queued).leaders = _
    rw [refreshCalls, Gateway.join, List.filterMap_nil, List.map_nil, List.append_nil, leaders,
      idsAt_suspend, call?_id hc, idsAt_without_of_not_mem hid, filter_ended]
    · simp [leaders]
    · rintro j ⟨⟩
      exact hid
  | @led id call token response refresh hc hs _ hp _ _ =>
    have hl : g.leaders = [] := (h.idle hp).2.1
    rw [refreshCalls_lead, hl]
    -- Whoever leads now is the only one, since phase and calls still agree.
    obtain ⟨hi, -⟩ | ⟨-, j, hj⟩ := h'.phase
    · cases hi
    · have hmem : call.id ∈ (g.suspend call .leading).leaders := by
        rw [leaders, idsAt_suspend]
        simp
      rw [hj]
      change (g.suspend call .leading).leaders = [j] at hj
      rw [hj, List.mem_singleton] at hmem
      rw [hmem]
      rfl
  | @settled id call answer g' o hc hs =>
    rw [refreshCalls_settleLeader, List.map_nil, List.append_nil, filter_ended_self rfl]
    · refine (h'.idle ?_).2.1
      rw [settleLeader_phase]
      simp
    · rw [← call?_id hc]
      exact h.leaders_of_settling hc (hs.imp And.left fun hp => hp.2.1)
  | @abandoned id call hc hs =>
    rw [refreshCalls_release, List.map_nil, List.append_nil, filter_ended_self rfl]
    · refine (h'.idle ?_).2.1
      show Phase.idle ≠ .refreshing
      decide
    · rw [← call?_id hc]
      exact h.leaders_of_settling hc (.inl hs)
  | @left id call hc hs =>
    have hid : id ∉ g.leaders := h.not_mem_leaders hc (by rw [hs]; simp)
    rw [refreshCalls, List.filterMap_nil, List.map_nil, List.append_nil, filter_ended]
    · exact idsAt_without_of_not_mem hid
    · rintro j ⟨⟩
      exact hid
  | @dropped id call hc hl _ =>
    have hid : id ∉ g.leaders := h.not_mem_leaders hc hl
    rw [refreshCalls, List.filterMap_nil, List.map_nil, List.append_nil, filter_ended]
    · exact idsAt_without_of_not_mem hid
    · rintro j ⟨⟩
      exact hid
  | changed change =>
    rw [refreshCalls, List.filterMap_nil, List.map_nil, List.append_nil, filter_ended]
    · rfl
    · rintro j ⟨⟩

end Gateway

/-! ## Requests on the way -/

variable {σ : Type} [KeyStore σ]

/-- The calls whose request for a new token was sent, and has since been neither answered nor given
up, after one more step. -/
def Moment.inFlight (ids : List CallId) (m : Moment σ) : List CallId :=
  ids.filter (fun id => m.event.ended? ≠ some id) ++ m.refreshCalls.map (·.1)

/-- The calls whose request for a new token was sent, and has since been neither answered nor given
up. -/
def refreshesInFlight (history : List (Moment σ)) : List CallId := history.foldl Moment.inFlight []

namespace Gateway

theorem leaders_eq_refreshesInFlight (config : Config) (context : SessionContext σ)
    (es : List Event) :
    ((start config context).run es).leaders =
      refreshesInFlight ((start config context).history es) := by
  induction es using List.reverseRecOn with
  | nil => rfl
  | append_singleton es e ih =>
    have h := coherent_run config context es
    rw [run_concat, history_concat, refreshesInFlight, List.foldl_append,
      h.leaders_control (step_control _ e), ih]
    rfl

/-- In every run, the gateway is refreshing exactly while one request for a new token is on the
way. Otherwise it is idle and nobody waits, and so it is once no call is going on. -/
theorem single_flight (config : Config) (context : SessionContext σ) (es : List Event) :
    let g := (start config context).run es
    g.leaders = refreshesInFlight ((start config context).history es) ∧
      g.leaders.length ≤ 1 ∧
      (g.phase = .refreshing ↔ ∃ id, g.leaders = [id]) ∧
      (g.phase ≠ .refreshing → g.phase = .idle ∧ g.queue = []) ∧
      (g.calls = [] → g.phase = .idle ∧ g.queue = []) := by
  intro g
  have h : Coherent g := coherent_run config context es
  refine ⟨leaders_eq_refreshesInFlight config context es, ?_, ?_, ?_, ?_⟩
  · obtain ⟨-, hl, -⟩ | ⟨-, id, hl⟩ := h.phase
    · rw [hl]
      exact Nat.zero_le 1
    · rw [hl]
      exact Nat.le_refl 1
  · constructor
    · intro hp
      obtain ⟨hi, -⟩ | ⟨-, hl⟩ := h.phase
      · rw [hp] at hi
        cases hi
      · exact hl
    · rintro ⟨id, hid⟩
      by_contra hp
      rw [(h.idle hp).2.1] at hid
      cases hid
  · intro hp
    exact ⟨(h.idle hp).1, (h.idle hp).2.2⟩
  · intro hc
    have hl : g.leaders = [] := by
      rw [leaders, idsAt, hc]
      rfl
    obtain ⟨hi, -, hq⟩ | ⟨-, id, hid⟩ := h.phase
    · exact ⟨hi, hq⟩
    · rw [hl] at hid
      cases hid

end Gateway

end AccessConsole
