import AccessConsole.Proofs.Gateway.Load
import AccessConsole.Rehearsal.Stage

/-!
# A rehearsal comes to rest

`Rehearsal.run` makes a bounded number of moves. The bound is never met: it stops because there is
nothing left to do.

* `ComesToRest` — moves are made until no effect is left and nobody is woken, without any bound.
* `Happened`, `Held`, `dispatch_cases`, `goOn_happened` — what a move is: an event happens to the
  gateway, or a request waits at its gate.
* `perform_load_lt`, `goOn_load_lt` — every move leaves less to be done.
* `comesToRest_run`, `comesToRest_iff` — a run comes to rest, and to nothing else.
-/

namespace AccessConsole.Rehearsal

open Gateway (Coherent)

variable {σ : Type}

/-! ## Gates and answers -/

/-- A request of the call waits at one of the gates. -/
def Holds (gates : List Gate) (id : CallId) : Prop :=
  ∃ gate ∈ gates, ∃ request, (id, request) ∈ gate.waiting

/-- A gate at which more requests wait than before may take the place of another. -/
theorem holds_set {gates : List Gate} {i : Nat} {gate gate' : Gate} (hi : gates[i]? = some gate)
    (hsub : gate.waiting ⊆ gate'.waiting) {id : CallId} (h : Holds gates id) :
    Holds (gates.set i gate') id := by
  obtain ⟨g, hg, request, hr⟩ := h
  obtain ⟨j, hj⟩ := List.mem_iff_getElem?.1 hg
  by_cases hij : i = j
  · subst hij
    cases hi.symm.trans hj
    exact ⟨gate', List.mem_set (List.getElem?_eq_some_iff.1 hi).1 gate', request, hsub hr⟩
  · refine ⟨g, List.mem_iff_getElem?.2 ⟨j, ?_⟩, request, hr⟩
    rw [List.getElem?_set_ne hij]
    exact hj

/-- What answers a request: the server, or a closed gate in its place. -/
inductive Answers (r : Rehearsal σ) (request : Request) : Except String Response → Prop
  | server : Answers r request (r.script.answer (Sight.ofRequest request)).1
  | gate : Answers r request (.error closedGate)

/-- The event with which a woken call goes on. -/
inductive Brings (r : Rehearsal σ) : Woken → Event → Prop
  | admitted (id : CallId) (request : Request) :
    Brings r (.admitted id request) (.answer id (r.script.answer (Sight.ofRequest request)).1)
  | turnedAway (id : CallId) : Brings r (.turnedAway id) (.answer id (.error closedGate))
  | released (id : CallId) : Brings r (.released id) (.resume id)

/-- Only requests that were noted and permits that were used tell two rehearsals apart. -/
structure Noted (r noted : Rehearsal σ) : Prop where
  gateway : noted.gateway = r.gateway
  script : noted.script = r.script
  woken : noted.woken = r.woken
  finished : noted.finished = r.finished
  gates : noted.gates.length = r.gates.length
  holds : ∀ id, Holds r.gates id → Holds noted.gates id

theorem Noted.refl (r : Rehearsal σ) : Noted r r := ⟨rfl, rfl, rfl, rfl, rfl, fun _ h => h⟩

/-- A request waits at its gate, and nothing else has happened. -/
structure Held (r : Rehearsal σ) (id : CallId) (moved : Rehearsal σ × List Effect) : Prop
    extends Noted r moved.1 where
  effects : moved.2 = []
  held : Holds moved.1.gates id

variable [KeyStore σ]

/-- Moves are made until nothing is left to do. -/
inductive ComesToRest : Rehearsal σ → List Effect → Rehearsal σ → Prop
  | rested {r : Rehearsal σ} : r.woken = [] → ComesToRest r [] r
  | performed {r r' : Rehearsal σ} {e : Effect} {rest : List Effect} :
    ComesToRest (r.perform e).1 ((r.perform e).2 ++ rest) r' → ComesToRest r (e :: rest) r'
  | wentOn {r r' : Rehearsal σ} {w : Woken} {rest : List Woken} :
    r.woken = w :: rest →
    ComesToRest ({ r with woken := rest }.goOn w).1 ({ r with woken := rest }.goOn w).2 r' →
    ComesToRest r [] r'

/-! ## Moves -/

/-- An event has happened to the gateway. Whoever waits at a gate waits there still. -/
structure Happened (r : Rehearsal σ) (e : Event) (moved : Rehearsal σ × List Effect) : Prop where
  gateway : moved.1.gateway = (r.gateway.step e).1
  effects : moved.2 = (r.gateway.step e).2
  woken : moved.1.woken = r.woken
  finished : moved.1.finished = r.finished
  gates : moved.1.gates.length = r.gates.length
  holds : ∀ id, Holds r.gates id → Holds moved.1.gates id
  script : moved.1.script = r.script ∨ ∃ sight, moved.1.script = (r.script.answer sight).2

theorem Noted.happen {r noted : Rehearsal σ} (h : Noted r noted) (e : Event) :
    Happened r e (noted.happen e) where
  gateway := h.gateway ▸ rfl
  effects := h.gateway ▸ rfl
  woken := h.woken
  finished := h.finished
  gates := h.gates
  holds := h.holds
  script := .inl h.script

theorem Noted.serve {r noted : Rehearsal σ} (h : Noted r noted) (id : CallId) (request : Request) :
    Happened r (.answer id (r.script.answer (Sight.ofRequest request)).1)
      (noted.serve id request) where
  gateway := h.gateway ▸ h.script ▸ rfl
  effects := h.gateway ▸ h.script ▸ rfl
  woken := h.woken
  finished := h.finished
  gates := h.gates
  holds := h.holds
  script := by
    right
    refine ⟨Sight.ofRequest request, ?_⟩
    rw [← h.script]
    rfl

/-- A request is answered, or it waits at its gate. -/
theorem dispatch_cases (r : Rehearsal σ) (id : CallId) (request : Request) :
    (∃ reply, Answers r request reply ∧ Happened r (.answer id reply) (r.dispatch id request)) ∨
      Held r id (r.dispatch id request) := by
  have hnoted : Noted r { r with requests := request :: r.requests } :=
    ⟨rfl, rfl, rfl, rfl, rfl, fun _ h => h⟩
  unfold dispatch
  simp only
  split
  · exact .inl ⟨_, .server, hnoted.serve id request⟩
  · split
    · exact .inl ⟨_, .server, hnoted.serve id request⟩
    · rename_i i _ _ gate hi
      split_ifs
      · exact .inl ⟨_, .gate, hnoted.happen _⟩
      · have hpassed : Noted r { r with
            requests := request :: r.requests
            gates := r.gates.set i { gate with permits := gate.permits - 1 } } := by
          refine ⟨rfl, rfl, rfl, rfl, List.length_set, ?_⟩
          intro j hj
          refine holds_set hi ?_ hj
          exact fun _ hw => hw
        exact .inl ⟨_, .server, hpassed.serve id request⟩
      · right
        refine ⟨⟨rfl, rfl, rfl, rfl, List.length_set, ?_⟩, rfl, ?_⟩
        · intro j hj
          exact holds_set hi (List.subset_append_left _ _) hj
        · exact ⟨_, List.mem_set (List.getElem?_eq_some_iff.1 hi).1 _, request,
            List.mem_append_right _ (List.mem_singleton.2 rfl)⟩

theorem goOn_happened (r : Rehearsal σ) (w : Woken) :
    ∃ e : Event, Brings r w e ∧ Happened r e (r.goOn w) := by
  cases w with
  | admitted id request => exact ⟨_, .admitted id request, (Noted.refl r).serve id request⟩
  | turnedAway id => exact ⟨_, .turnedAway id, (Noted.refl r).happen _⟩
  | released id => exact ⟨_, .released id, (Noted.refl r).happen _⟩

/-! ## What is left to do -/

/-- How many moves there can still be. -/
def load (r : Rehearsal σ) (effects : List Effect) : Nat :=
  r.gateway.load + Effect.loads effects + r.woken.length

variable {r : Rehearsal σ}

theorem Happened.coherent {e : Event} {moved : Rehearsal σ × List Effect} (h : Happened r e moved)
    (hc : Coherent r.gateway) : Coherent moved.1.gateway := by
  rw [h.gateway]
  exact hc.step e

/-- What happens leads to no more than what was to be done before. -/
theorem Happened.load_le {e : Event} {moved : Rehearsal σ × List Effect} (h : Happened r e moved)
    (hc : Coherent r.gateway) (rest : List Effect) :
    load moved.1 (moved.2 ++ rest) ≤ load r rest + e.load := by
  have hstep : (r.gateway.step e).1.load + Effect.loads (r.gateway.step e).2 ≤
      r.gateway.load + e.load := hc.load_step_le e
  unfold load
  rw [h.gateway, h.effects, h.woken, Effect.loads_append]
  omega

theorem perform_coherent (hc : Coherent r.gateway) (e : Effect) :
    Coherent (r.perform e).1.gateway := by
  cases e with
  | dispatch id request =>
    show Coherent (r.dispatch id request).1.gateway
    obtain ⟨reply, -, h⟩ | h := dispatch_cases r id request
    · exact h.coherent hc
    · rw [h.gateway]
      exact hc
  | wake id => exact hc
  | finish id result => exact hc

theorem goOn_coherent (hc : Coherent r.gateway) (w : Woken) : Coherent (r.goOn w).1.gateway := by
  obtain ⟨e, -, h⟩ := goOn_happened r w
  exact h.coherent hc

theorem perform_load_lt (hc : Coherent r.gateway) (e : Effect) (rest : List Effect) :
    load (r.perform e).1 ((r.perform e).2 ++ rest) < load r (e :: rest) := by
  cases e with
  | dispatch id request =>
    have hone : (Effect.dispatch id request).load = 1 := rfl
    have hcons : load r (.dispatch id request :: rest) = load r rest + 1 := by
      unfold load
      rw [Effect.loads_cons]
      omega
    show load (r.dispatch id request).1 ((r.dispatch id request).2 ++ rest) < _
    rw [hcons]
    obtain ⟨reply, -, h⟩ | h := dispatch_cases r id request
    · exact Nat.lt_succ_of_le (h.load_le hc rest)
    · unfold load
      rw [h.gateway, h.effects, h.woken, List.nil_append]
      omega
  | wake id =>
    have htwo : (Effect.wake id).load = 2 := rfl
    show r.gateway.load + Effect.loads rest + (r.woken ++ [Woken.released id]).length < _
    unfold load
    rw [Effect.loads_cons, List.length_append, List.length_singleton]
    omega
  | finish id result =>
    have hone : (Effect.finish id result).load = 1 := rfl
    show r.gateway.load + Effect.loads rest + r.woken.length < _
    unfold load
    rw [Effect.loads_cons]
    omega

theorem goOn_load_lt (hc : Coherent r.gateway) {w : Woken} {rest : List Woken}
    (hw : r.woken = w :: rest) :
    load ({ r with woken := rest }.goOn w).1 ({ r with woken := rest }.goOn w).2 < load r [] := by
  obtain ⟨e, hb, h⟩ := goOn_happened { r with woken := rest } w
  have hle := h.load_le hc []
  have he : e.load = 0 := by cases hb <;> rfl
  have hrest : load r [] = load { r with woken := rest } [] + 1 := by
    unfold load
    rw [hw, List.length_cons]
    rfl
  rw [List.append_nil] at hle
  omega

/-! ## Runs -/

theorem runFor_rested {n : Nat} (hw : r.woken = []) : runFor (n + 1) r [] = r := by
  simp only [runFor, hw]

theorem runFor_woken {n : Nat} {w : Woken} {rest : List Woken} (hw : r.woken = w :: rest) :
    runFor (n + 1) r [] =
      runFor n ({ r with woken := rest }.goOn w).1 ({ r with woken := rest }.goOn w).2 := by
  simp only [runFor, hw]

/-- As many moves as there can be are enough. -/
theorem runFor_comesToRest (n : Nat) : ∀ {r : Rehearsal σ} {effects : List Effect},
    Coherent r.gateway → load r effects ≤ n → ComesToRest r effects (runFor n r effects) := by
  induction n with
  | zero =>
    intro r effects _ hn
    have hlen := Effect.length_le_loads effects
    unfold load at hn
    obtain rfl : effects = [] := List.length_eq_zero_iff.1 (by omega)
    exact .rested (List.length_eq_zero_iff.1 (by omega))
  | succ n ih =>
    intro r effects hc hn
    cases effects with
    | cons e rest =>
      have hlt := perform_load_lt hc e rest
      exact .performed (ih (perform_coherent hc e) (by omega))
    | nil =>
      cases hw : r.woken with
      | nil =>
        rw [runFor_rested hw]
        exact .rested hw
      | cons w rest =>
        have hlt := goOn_load_lt hc hw
        have hless : Coherent ({ r with woken := rest } : Rehearsal σ).gateway := hc
        rw [runFor_woken hw]
        exact .wentOn hw (ih (goOn_coherent hless w) (by omega))

omit [KeyStore σ] in
theorem load_le_moves (r : Rehearsal σ) (effects : List Effect) :
    load r effects ≤ 16 * (r.gateway.calls.length + effects.length + r.woken.length + 1) := by
  have hcalls := r.gateway.load_le
  have heffects := Effect.loads_le effects
  unfold load
  omega

/-- A run comes to rest. -/
theorem comesToRest_run (hc : Coherent r.gateway) (effects : List Effect) :
    ComesToRest r effects (r.run effects) :=
  runFor_comesToRest _ hc (load_le_moves r effects)

theorem ComesToRest.unique {a b : Rehearsal σ} {effects : List Effect}
    (ha : ComesToRest r effects a) (hb : ComesToRest r effects b) : a = b := by
  induction ha with
  | rested hw =>
    cases hb with
    | rested _ => rfl
    | wentOn hw' _ => cases hw.symm.trans hw'
  | performed _ ih =>
    cases hb with
    | performed hb => exact ih hb
  | wentOn hw _ ih =>
    cases hb with
    | rested hw' => cases hw.symm.trans hw'
    | wentOn hw' hb =>
      cases hw.symm.trans hw'
      exact ih hb

/-- A run is all that the moves come to. How many it allows does not show. -/
theorem comesToRest_iff (hc : Coherent r.gateway) {effects : List Effect} {r' : Rehearsal σ} :
    ComesToRest r effects r' ↔ r' = r.run effects := by
  constructor
  · intro h
    exact h.unique (comesToRest_run hc effects)
  · rintro rfl
    exact comesToRest_run hc effects

/-- What every move keeps is so at rest. -/
theorem ComesToRest.keeps {P : Rehearsal σ → List Effect → Prop}
    (hperform : ∀ r e rest, P r (e :: rest) → P (r.perform e).1 ((r.perform e).2 ++ rest))
    (hgoOn : ∀ (r : Rehearsal σ) w rest, r.woken = w :: rest → P r [] →
      P ({ r with woken := rest }.goOn w).1 ({ r with woken := rest }.goOn w).2)
    {r r' : Rehearsal σ} {effects : List Effect} (h : ComesToRest r effects r')
    (hr : P r effects) : P r' [] ∧ r'.woken = [] := by
  induction h with
  | rested hw => exact ⟨hr, hw⟩
  | performed _ ih => exact ih (hperform _ _ _ hr)
  | wentOn hw _ ih => exact ih (hgoOn _ _ _ hw hr)

end AccessConsole.Rehearsal
