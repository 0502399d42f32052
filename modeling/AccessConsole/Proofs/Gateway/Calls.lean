import AccessConsole.Gateway.Machine
import Mathlib.Data.List.Nodup

/-!
# The calls of a gateway

How the calls of a gateway are looked up, and which of them are at a stage, after each of the few
ways in which the gateway edits them.

* `Gateway.idsAt` — the numbers of the calls whose stage passes a test, in order.
* `Gateway.leaders`, `Gateway.waiting` — the calls that lead a refresh, and those that wait for one.
* `call?_without`, `call?_suspend`, `call?_release` — looking up a call after an edit.
* `idsAt_without`, `idsAt_suspend`, `idsAt_release` — the calls at a stage after an edit.
-/

namespace AccessConsole.Gateway

variable {σ : Type}

/-- The numbers of the calls whose stage passes a test, in order. -/
def idsAt (g : Gateway σ) (p : Stage → Bool) : List CallId :=
  (g.calls.filter fun c => p c.stage).map Call.id

/-- The calls whose request for a new token is on the way. -/
def leaders (g : Gateway σ) : List CallId := g.idsAt (· = .leading)

/-- The calls that wait for a refresh and have not been told an outcome. -/
def waiting (g : Gateway σ) : List CallId := g.idsAt (· = .queued)

/-! ## Looking up a call -/

theorem call?_mem {g : Gateway σ} {id : CallId} {c : Call} (h : g.call? id = some c) :
    c ∈ g.calls :=
  List.mem_of_find?_eq_some h

theorem call?_id {g : Gateway σ} {id : CallId} {c : Call} (h : g.call? id = some c) :
    c.id = id := by
  have := List.find?_some h
  simpa using this

theorem call?_eq_none {g : Gateway σ} {id : CallId} :
    g.call? id = none ↔ ∀ c ∈ g.calls, c.id ≠ id := by
  unfold call?
  simp [List.find?_eq_none]

/-- Where no number stands twice, a call is the one that its number finds. -/
theorem call?_of_mem {g : Gateway σ} (hn : (g.calls.map Call.id).Nodup) {c : Call}
    (hc : c ∈ g.calls) : g.call? c.id = some c := by
  cases h : g.call? c.id with
  | none => exact absurd rfl (call?_eq_none.1 h c hc)
  | some d =>
    have hd : d.id = c.id := call?_id h
    rw [List.inj_on_of_nodup_map hn (call?_mem h) hc hd]

theorem call?_without (g : Gateway σ) (id j : CallId) :
    (g.without id).call? j = if j = id then none else g.call? j := by
  unfold call? without
  rw [List.find?_filter]
  split_ifs with h
  · subst h
    rw [List.find?_eq_none]
    simp
  · congr 1
    funext c
    by_cases hc : c.id = j
    · simp [hc, h]
    · simp [hc]

theorem call?_suspend (g : Gateway σ) (call : Call) (stage : Stage) (j : CallId) :
    (g.suspend call stage).call? j =
      if j = call.id then some { call with stage } else g.call? j := by
  have h : (g.suspend call stage).call? j = ((g.without call.id).call? j).or
      ([{ call with stage }].find? (·.id = j)) := by
    unfold suspend call?
    rw [List.find?_append]
  rw [h, call?_without]
  split_ifs with hj
  · subst hj
    simp
  · cases g.call? j with
    | some c => rfl
    | none => simp [Ne.symm hj]

theorem call?_without_self (g : Gateway σ) (id : CallId) : (g.without id).call? id = none := by
  rw [call?_without, if_pos rfl]

theorem call?_without_of_ne (g : Gateway σ) {id j : CallId} (h : j ≠ id) :
    (g.without id).call? j = g.call? j := by
  rw [call?_without, if_neg h]

theorem call?_suspend_self (g : Gateway σ) (call : Call) (stage : Stage) :
    (g.suspend call stage).call? call.id = some { call with stage } := by
  rw [call?_suspend, if_pos rfl]

theorem call?_suspend_of_ne (g : Gateway σ) (call : Call) (stage : Stage) {j : CallId}
    (h : j ≠ call.id) : (g.suspend call stage).call? j = g.call? j := by
  rw [call?_suspend, if_neg h]

theorem call?_release (g : Gateway σ) (o : Outcome) (j : CallId) :
    (g.release o).1.call? j = (g.call? j).map fun c =>
      if j ∈ g.queue then { c with stage := .released o } else c := by
  have hid : ∀ c : Call,
      (if c.id ∈ g.queue then { c with stage := .released o } else c).id = c.id := by
    intro c
    split_ifs <;> rfl
  unfold release call?
  simp only [List.find?_map, Function.comp_def, hid]
  cases h : g.calls.find? (·.id = j) with
  | none => rfl
  | some c =>
    have hc : c.id = j := by simpa using List.find?_some h
    simp [hc]

/-! ## Calls at a stage -/

theorem mem_idsAt {g : Gateway σ} {p : Stage → Bool} {id : CallId} :
    id ∈ g.idsAt p ↔ ∃ c ∈ g.calls, c.id = id ∧ p c.stage := by
  unfold idsAt
  rw [List.mem_map]
  constructor
  · rintro ⟨c, hc, rfl⟩
    obtain ⟨hm, hp⟩ := List.mem_filter.1 hc
    exact ⟨c, hm, rfl, hp⟩
  · rintro ⟨c, hm, rfl, hp⟩
    exact ⟨c, List.mem_filter.2 ⟨hm, hp⟩, rfl⟩

/-- Where no number stands twice, the number of a call at a stage finds a call at that stage. -/
theorem mem_idsAt_iff {g : Gateway σ} (hn : (g.calls.map Call.id).Nodup) {p : Stage → Bool}
    {id : CallId} : id ∈ g.idsAt p ↔ ∃ c, g.call? id = some c ∧ p c.stage := by
  rw [mem_idsAt]
  constructor
  · rintro ⟨c, hc, rfl, hp⟩
    exact ⟨c, call?_of_mem hn hc, hp⟩
  · rintro ⟨c, hc, hp⟩
    exact ⟨c, call?_mem hc, call?_id hc, hp⟩

theorem not_mem_idsAt_of_none {g : Gateway σ} {p : Stage → Bool} {id : CallId}
    (h : g.call? id = none) : id ∉ g.idsAt p := by
  rw [mem_idsAt]
  rintro ⟨c, hc, hid, -⟩
  exact call?_eq_none.1 h c hc hid

theorem nodup_idsAt {g : Gateway σ} (hn : (g.calls.map Call.id).Nodup) (p : Stage → Bool) :
    (g.idsAt p).Nodup :=
  hn.sublist (List.filter_sublist.map _)

theorem idsAt_congr {g g' : Gateway σ} (h : g.calls = g'.calls) (p : Stage → Bool) :
    g.idsAt p = g'.idsAt p := by
  unfold idsAt
  rw [h]

theorem idsAt_without (g : Gateway σ) (id : CallId) (p : Stage → Bool) :
    (g.without id).idsAt p = (g.idsAt p).filter (· ≠ id) := by
  unfold idsAt without
  rw [List.filter_map, List.filter_filter, List.filter_filter]
  congr 1
  apply List.filter_congr
  intro c _
  simp [Bool.and_comm]

theorem idsAt_without_of_not_mem {g : Gateway σ} {id : CallId} {p : Stage → Bool}
    (h : id ∉ g.idsAt p) : (g.without id).idsAt p = g.idsAt p := by
  rw [idsAt_without, List.filter_eq_self]
  intro j hj
  have hne : j ≠ id := by
    rintro rfl
    exact h hj
  simpa using hne

theorem idsAt_suspend (g : Gateway σ) (call : Call) (stage : Stage) (p : Stage → Bool) :
    (g.suspend call stage).idsAt p =
      (g.without call.id).idsAt p ++ if p stage then [call.id] else [] := by
  unfold suspend idsAt
  rw [List.filter_append, List.map_append]
  congr 1
  by_cases h : p stage <;> simp [h]

theorem idsAt_release (g : Gateway σ) (o : Outcome) {p : Stage → Bool}
    (hp : p (.released o) = false) :
    (g.release o).1.idsAt p = (g.idsAt p).filter (· ∉ g.queue) := by
  unfold release idsAt
  induction g.calls with
  | nil => rfl
  | cons c cs ih =>
    by_cases hq : c.id ∈ g.queue
    · by_cases hs : p c.stage <;> simp_all
    · by_cases hs : p c.stage <;> simp_all

/-! ## Numbers of calls -/

theorem nodup_without {g : Gateway σ} (hn : (g.calls.map Call.id).Nodup) (id : CallId) :
    ((g.without id).calls.map Call.id).Nodup :=
  hn.sublist (List.filter_sublist.map _)

theorem nodup_suspend {g : Gateway σ} {call : Call}
    (hn : ((g.without call.id).calls.map Call.id).Nodup) (stage : Stage) :
    ((g.suspend call stage).calls.map Call.id).Nodup := by
  have hmap : (g.suspend call stage).calls.map Call.id =
      (g.without call.id).calls.map Call.id ++ [call.id] := by
    unfold suspend
    rw [List.map_append]
    rfl
  rw [hmap, List.nodup_append]
  refine ⟨hn, List.nodup_singleton _, ?_⟩
  intro i hi j hj
  obtain ⟨c, hc, rfl⟩ := List.mem_map.1 hi
  rw [List.mem_singleton.1 hj]
  simpa using (List.mem_filter.1 hc).2

theorem nodup_release {g : Gateway σ} (hn : (g.calls.map Call.id).Nodup) (o : Outcome) :
    ((g.release o).1.calls.map Call.id).Nodup := by
  have hmap : (g.release o).1.calls.map Call.id = g.calls.map Call.id := by
    unfold release
    rw [List.map_map]
    apply List.map_congr_left
    intro c _
    simp only [Function.comp_apply]
    split_ifs <;> rfl
  rw [hmap]
  exact hn

end AccessConsole.Gateway
