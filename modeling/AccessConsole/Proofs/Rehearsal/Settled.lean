import AccessConsole.Proofs.Gateway.Progress
import AccessConsole.Proofs.Rehearsal.Rest

/-!
# What is left when a rehearsal rests

* `Kept`, `Attended` — for every call that is going on there is something that moves it on: an
  effect, a woken call, or a request at a gate. A call that waits for a refresh needs nothing.
* `Settled` — nobody is woken, and every call waits at a gate or for a refresh.
* `Settled.send`, `login`, `cancel`, `change`, `letThrough`, `close` — whatever is done from
  outside, a rehearsal is settled again afterwards.
* `Settled.over` — where the gates hold nobody, no call is left.
-/

namespace AccessConsole.Rehearsal

open Gateway (Coherent Asked)

variable {σ : Type} {r r' : Rehearsal σ} {c : Call}

/-- The call is woken, or its request waits at a gate. -/
inductive Kept (r : Rehearsal σ) (c : Call) : Prop
  | released (o : Outcome) : c.stage = .released o → .released c.id ∈ r.woken → Kept r c
  | admitted (request : Request) :
    c.stage.isSent = true → .admitted c.id request ∈ r.woken → Kept r c
  | turnedAway : c.stage.isSent = true → .turnedAway c.id ∈ r.woken → Kept r c
  | held : c.stage.isSent = true → Holds r.gates c.id → Kept r c

/-- Nobody is left behind. -/
structure Attended (r : Rehearsal σ) (effects : List Effect) : Prop where
  coherent : Coherent r.gateway
  sees : ∀ c, r.gateway.call? c.id = some c → Asked effects c ∨ Kept r c

/-! ## What keeps a call -/

theorem Kept.mono (h : Kept r c) (hwoken : r.woken ⊆ r'.woken)
    (hholds : Holds r.gates c.id → Holds r'.gates c.id) : Kept r' c := by
  cases h with
  | released o hs hw => exact .released o hs (hwoken hw)
  | admitted request hs hw => exact .admitted request hs (hwoken hw)
  | turnedAway hs hw => exact .turnedAway hs (hwoken hw)
  | held hs hg => exact .held hs (hholds hg)

/-- When the first who is woken goes on, the others are kept. -/
theorem Kept.of_goOn {w : Woken} {rest : List Woken} {e : Event} (h : Kept r c)
    (hw : r.woken = w :: rest) (hb : Brings r' w e) (hm : ¬e.Moves c) :
    Kept { r with woken := rest } c := by
  cases h with
  | released o hs hmem =>
    rw [hw] at hmem
    obtain rfl | hmem := List.mem_cons.1 hmem
    · cases hb
      exact absurd (.resumed o hs) hm
    · exact .released o hs hmem
  | admitted request hs hmem =>
    rw [hw] at hmem
    obtain rfl | hmem := List.mem_cons.1 hmem
    · cases hb
      exact absurd (.answered _ hs) hm
    · exact .admitted request hs hmem
  | turnedAway hs hmem =>
    rw [hw] at hmem
    obtain rfl | hmem := List.mem_cons.1 hmem
    · cases hb
      exact absurd (.answered _ hs) hm
    · exact .turnedAway hs hmem
  | held hs hg => exact .held hs hg

/-- Without its first one, effects still ask for everyone whom that one is not about. -/
theorem asked_of_cons {e : Effect} {rest : List Effect} (h : Asked (e :: rest) c) :
    Asked rest c ∨ (∃ o, c.stage = .released o ∧ e = .wake c.id) ∨
      (c.stage.isSent = true ∧ ∃ request, e = .dispatch c.id request) := by
  cases h with
  | waits hs => exact .inl (.waits hs)
  | woken o hs hw =>
    obtain rfl | hw := List.mem_cons.1 hw
    · exact .inr (.inl ⟨o, hs, rfl⟩)
    · exact .inl (.woken o hs hw)
  | sent request hs hd =>
    obtain rfl | hd := List.mem_cons.1 hd
    · exact .inr (.inr ⟨hs, request, rfl⟩)
    · exact .inl (.sent request hs hd)

/-! ## At rest -/

/-- Nobody is woken, and every call waits at a gate or for a refresh. -/
structure Settled (r : Rehearsal σ) : Prop where
  coherent : Coherent r.gateway
  woken : r.woken = []
  waits : ∀ c, r.gateway.call? c.id = some c →
    c.stage = .queued ∨ (c.stage.isSent = true ∧ Holds r.gates c.id)

theorem Attended.settled (h : Attended r []) (hw : r.woken = []) : Settled r := by
  refine ⟨h.coherent, hw, ?_⟩
  intro c hc
  obtain hasked | hkept := h.sees c hc
  · cases hasked with
    | waits hs => exact .inl hs
    | woken o hs hmem => cases hmem
    | sent request hs hmem => cases hmem
  · cases hkept with
    | released o hs hmem =>
      rw [hw] at hmem
      cases hmem
    | admitted request hs hmem =>
      rw [hw] at hmem
      cases hmem
    | turnedAway hs hmem =>
      rw [hw] at hmem
      cases hmem
    | held hs hg => exact .inr ⟨hs, hg⟩

theorem Settled.attended (h : Settled r) : Attended r [] := by
  refine ⟨h.coherent, ?_⟩
  intro c hc
  obtain hs | ⟨hs, hg⟩ := h.waits c hc
  · exact .inl (.waits hs)
  · exact .inr (.held hs hg)

/-- A gateway before its first call, with a server and gates at which nobody waits. -/
theorem settled_start (config : Config) (context : SessionContext σ) (script : Script)
    (gates : List Gate) : Settled { gateway := .start config context, script, gates } := by
  refine ⟨Gateway.coherent_start config context, rfl, ?_⟩
  intro c hc
  cases hc

/-- A settled rehearsal has calls that wait only where somebody waits at a gate. -/
theorem Settled.over (h : Settled r) (hgates : ∀ id, ¬Holds r.gates id) : r.gateway.calls = [] := by
  have hsent : ∀ c ∈ r.gateway.calls, c.stage = .queued := by
    intro c hmem
    have hc := Gateway.call?_of_mem h.coherent.nodup hmem
    exact (h.waits c hc).resolve_right fun hw => hgates c.id hw.2
  -- Nobody waits for a refresh that nobody leads.
  have hleaders : r.gateway.leaders = [] := by
    rw [List.eq_nil_iff_forall_not_mem]
    intro id hid
    obtain ⟨c, hc, hs⟩ := h.coherent.mem_leaders.1 hid
    rw [hsent c (Gateway.call?_mem hc)] at hs
    cases hs
  have hqueue : r.gateway.queue = [] := by
    obtain ⟨-, -, hq⟩ | ⟨-, id, hl⟩ := h.coherent.phase
    · exact hq
    · rw [hleaders] at hl
      cases hl
  rw [List.eq_nil_iff_forall_not_mem]
  intro c hmem
  have hq : c.id ∈ r.gateway.queue :=
    h.coherent.mem_queue.2 ⟨c, Gateway.call?_of_mem h.coherent.nodup hmem, hsent c hmem⟩
  rw [hqueue] at hq
  cases hq

variable [KeyStore σ]

/-! ## Moves -/

/-- After an event everyone is attended to, if those are whom it leaves as they were. -/
theorem Happened.attended {e : Event} {moved : Rehearsal σ × List Effect}
    (h : Happened r e moved) (hc : Coherent r.gateway) (rest : List Effect)
    (hs : ∀ c, r.gateway.call? c.id = some c → moved.1.gateway.call? c.id = some c → ¬e.Moves c →
      Asked rest c ∨ Kept r c) : Attended moved.1 (moved.2 ++ rest) := by
  refine ⟨h.coherent hc, ?_⟩
  intro c hfind
  have hafter : (r.gateway.step e).1.call? c.id = some c := by
    rw [← h.gateway]
    exact hfind
  obtain hasked | ⟨hbefore, hm⟩ := hc.asked hafter
  · rw [← h.effects] at hasked
    exact .inl (hasked.mono (List.subset_append_left _ _))
  · obtain hasked | hkept := hs c hbefore hfind hm
    · exact .inl (hasked.mono (List.subset_append_right _ _))
    · exact .inr (hkept.mono (fun _ hw => h.woken ▸ hw) (h.holds c.id))

theorem Attended.perform {e : Effect} {rest : List Effect} (h : Attended r (e :: rest)) :
    Attended (r.perform e).1 ((r.perform e).2 ++ rest) := by
  cases e with
  | dispatch id request =>
    show Attended (r.dispatch id request).1 ((r.dispatch id request).2 ++ rest)
    obtain ⟨reply, -, hm⟩ | hm := dispatch_cases r id request
    · refine hm.attended h.coherent rest ?_
      intro c hc _ hmoves
      obtain hasked | hkept := h.sees c hc
      · obtain hasked | ⟨-, -, he⟩ | ⟨hs, request', he⟩ := asked_of_cons hasked
        · exact .inl hasked
        · cases he
        · cases he
          exact absurd (.answered reply hs) hmoves
      · exact .inr hkept
    · rw [hm.effects, List.nil_append]
      refine ⟨hm.gateway ▸ h.coherent, ?_⟩
      intro c hc
      rw [hm.gateway] at hc
      obtain hasked | hkept := h.sees c hc
      · obtain hasked | ⟨-, -, he⟩ | ⟨hs, request', he⟩ := asked_of_cons hasked
        · exact .inl hasked
        · cases he
        · cases he
          exact .inr (.held hs hm.held)
      · exact .inr (hkept.mono (fun _ hw => hm.woken ▸ hw) (hm.holds c.id))
  | wake id =>
    refine ⟨h.coherent, ?_⟩
    intro c hc
    obtain hasked | hkept := h.sees c hc
    · obtain hasked | ⟨o, hs, he⟩ | ⟨-, request, he⟩ := asked_of_cons hasked
      · exact .inl hasked
      · cases he
        exact .inr (.released o hs (List.mem_append_right _ (List.mem_singleton.2 rfl)))
      · cases he
    · exact .inr (hkept.mono (List.subset_append_left _ _) fun hg => hg)
  | finish id result =>
    refine ⟨h.coherent, ?_⟩
    intro c hc
    obtain hasked | hkept := h.sees c hc
    · obtain hasked | ⟨-, -, he⟩ | ⟨-, request, he⟩ := asked_of_cons hasked
      · exact .inl hasked
      · cases he
      · cases he
    · exact .inr (hkept.mono (List.Subset.refl _) fun hg => hg)

theorem Attended.goOn {w : Woken} {rest : List Woken} (h : Attended r [])
    (hw : r.woken = w :: rest) :
    Attended ({ r with woken := rest }.goOn w).1 ({ r with woken := rest }.goOn w).2 := by
  obtain ⟨e, hb, hm⟩ := goOn_happened { r with woken := rest } w
  have hcoherent : Coherent ({ r with woken := rest } : Rehearsal σ).gateway := h.coherent
  have hattended := hm.attended hcoherent [] fun c hc _ hmoves =>
    (h.sees c hc).imp_right fun hkept => hkept.of_goOn hw hb hmoves
  rw [List.append_nil] at hattended
  exact hattended

theorem Attended.run {effects : List Effect} (h : Attended r effects) :
    Settled (r.run effects) := by
  obtain ⟨hattended, hwoken⟩ := (comesToRest_run h.coherent effects).keeps
    (fun _ _ _ ha => ha.perform) (fun _ _ _ hw ha => ha.goOn hw) h
  exact hattended.settled hwoken

/-! ## What is done from outside -/

/-- An event, and everything that follows. -/
theorem Settled.after (h : Settled r) (e : Event) : Settled (r.after e) := by
  have hm := (Noted.refl r).happen e
  have hattended := hm.attended h.coherent [] fun c hc _ _ => h.attended.sees c hc
  rw [List.append_nil] at hattended
  exact hattended.run

theorem Settled.send (h : Settled r) (id : CallId) (request : Request) :
    Settled (r.send id request) := h.after _

theorem Settled.login (h : Settled r) (id : CallId) (email password : String) :
    Settled (r.login id email password) := h.after _

/-- A call that goes away does so also from the gate at which it waits. -/
theorem Settled.cancel (h : Settled r) (id : CallId) : Settled (r.cancel id) := by
  unfold Rehearsal.cancel
  simp only
  set gates := r.gates.map fun gate => { gate with waiting := gate.waiting.filter (·.1 ≠ id) }
  have hm := (Noted.refl { r with gates }).happen (.cancel id)
  have hattended := hm.attended h.coherent [] ?_
  · rw [List.append_nil] at hattended
    exact hattended.run
  · intro c hc hafter _
    have hne : c.id ≠ id := by
      rintro rfl
      cases (Gateway.step_cancel_gone r.gateway c.id).symm.trans hafter
    obtain hs | ⟨hs, gate, hgate, request, hr⟩ := h.waits c hc
    · exact .inl (.waits hs)
    · refine .inr (.held hs ⟨_, List.mem_map.2 ⟨gate, hgate, rfl⟩, request, ?_⟩)
      exact List.mem_filter.2 ⟨hr, by simpa using hne⟩

theorem Settled.change (h : Settled r) (change : Change) : Settled (r.change change).2 :=
  ⟨h.coherent.changed change, h.woken, h.waits⟩

/-- Calls that are woken at a gate are attended to, as are those whom it still holds. -/
theorem Settled.through_gate {i : Nat} {gate gate' : Gate} {woken : List Woken} (h : Settled r)
    (hi : r.gates[i]? = some gate)
    (hw : ∀ id request, (id, request) ∈ gate.waiting → (id, request) ∈ gate'.waiting ∨
      .admitted id request ∈ woken ∨ .turnedAway id ∈ woken) :
    Settled ({ r with gates := r.gates.set i gate', woken := r.woken ++ woken }.run []) := by
  apply Attended.run
  refine ⟨h.coherent, ?_⟩
  intro c hc
  obtain hs | ⟨hs, g, hg, request, hr⟩ := h.waits c hc
  · exact .inl (.waits hs)
  right
  obtain ⟨j, hj⟩ := List.mem_iff_getElem?.1 hg
  by_cases hij : i = j
  · subst hij
    cases hi.symm.trans hj
    obtain hwaits | hadmitted | haway := hw _ _ hr
    · exact .held hs ⟨gate', List.mem_set (List.getElem?_eq_some_iff.1 hi).1 gate', request, hwaits⟩
    · exact .admitted request hs (List.mem_append_right _ hadmitted)
    · exact .turnedAway hs (List.mem_append_right _ haway)
  · refine .held hs ⟨g, List.mem_iff_getElem?.2 ⟨j, ?_⟩, request, hr⟩
    rw [List.getElem?_set_ne hij]
    exact hj

/-- A gate that lets requests through holds the others. -/
theorem Settled.letThrough (h : Settled r) (i count : Nat) : Settled (r.letThrough i count) := by
  unfold Rehearsal.letThrough
  split
  · exact h
  · rename_i gate hi
    refine h.through_gate hi ?_
    intro id request hr
    rw [← List.take_append_drop count gate.waiting] at hr
    obtain hthrough | hrest := List.mem_append.1 hr
    · exact .inr (.inl (List.mem_map.2 ⟨(id, request), hthrough, rfl⟩))
    · exact .inl hrest

/-- A gate that closes holds nobody. -/
theorem Settled.close (h : Settled r) (i : Nat) : Settled (r.close i) := by
  unfold Rehearsal.close
  split
  · exact h
  · rename_i gate hi
    refine h.through_gate hi ?_
    intro id request hr
    exact .inr (.inr (List.mem_map.2 ⟨(id, request), hr, rfl⟩))

end AccessConsole.Rehearsal
