import AccessConsole.Proofs.Gateway.Edits
import AccessConsole.Proofs.Gateway.Queue

/-!
# From the beginning of a call to its end

* `Transition.purpose` — a call keeps its purpose for as long as it goes on.
* `Coherent.past_exchange` — a sign-in that goes on after its exchange has established a session.
* `Coherent.told` — a call of the queue is told the outcome of the refresh that it waits for.
-/

namespace AccessConsole

namespace Gateway

variable {σ : Type} [KeyStore σ]

/-- A call that goes on by itself changes its stage at most. -/
theorem Onward.live {g : Gateway σ} {call c : Call} {moved : Moved σ} (h : Onward g call moved)
    (hc : moved.1.call? call.id = some c) : ∃ stage, c = { call with stage } := by
  obtain ⟨stage, request, -, rfl, -⟩ := h.of_live (by rw [hc]; simp)
  cases (call?_suspend_self g call stage).symm.trans hc
  exact ⟨stage, rfl⟩

theorem settleLeader_live {g : Gateway σ} {call c : Call} {o : Outcome}
    (hc : (g.settleLeader call o).1.call? call.id = some c) : ∃ stage, c = { call with stage } := by
  rw [settleLeader_eq] at hc
  exact (proceed_onward _ call o).live hc

omit [KeyStore σ] in
theorem finishLogin_gone (g : Gateway σ) (id : CallId) : (g.finishLogin id).1.call? id = none := by
  obtain ⟨r, hr⟩ := finishLogin_eq g id
  rw [hr]
  exact call?_without_self g id

/-- A sign-in that goes on has its tokens and looks up the administrator. -/
theorem Exchanged.live {g : Gateway σ} {call c : Call} {email : String}
    {answer : Except String Response} {moved : Moved σ} (h : Exchanged g call email answer moved)
    (hc : moved.1.call? call.id = some c) :
    ∃ (tokens : TokenPair) (request : Request) (stage : Stage),
      moved = (g.changed (.establish tokens.access tokens.refresh (.ofEmail email))).begin
        { call with request } ∧ c = { call with request, stage } := by
  have hgone : ∀ g : Gateway σ, (g.without call.id).call? call.id ≠ some c := by
    intro g hsome
    rw [call?_without_self] at hsome
    cases hsome
  cases h with
  | turnedDown _ _ _ => exact absurd hc (hgone _)
  | failed _ _ _ => exact absurd hc (hgone _)
  | unstored _ _ _ _ => exact absurd hc (hgone _)
  | signedIn tokens _ _ _ =>
    rw [finishLogin_gone] at hc
    cases hc
  | @lookedUp tokens request _ _ _ =>
    obtain ⟨stage, rfl⟩ := (begin_onward _ { call with request }).live hc
    exact ⟨tokens, request, stage, rfl, rfl⟩

omit [KeyStore σ] in
/-- A leading call that goes away is gone. -/
theorem abandoned_gone (g : Gateway σ) (id : CallId) (o : Outcome) :
    ({ g.without id with phase := .idle : Gateway σ }.release o).1.call? id = none := by
  have hid : (g.without id).call? id = none := call?_without_self g id
  rw [call?_release]
  exact congrArg _ hid

/-- A call that is going on after a transition has the purpose that it had before, or it has just
begun. -/
theorem Transition.purpose {g : Gateway σ} {e : Event} {moved : Moved σ} (h : Transition g e moved)
    {id : CallId} {c' : Call} (hc' : moved.1.call? id = some c') :
    (∃ c, g.call? id = some c ∧ c'.purpose = c.purpose) ∨ e.started? = some (id, c'.purpose) := by
  by_cases hid : e.subject? = some id
  · cases h with
    | ignored _ => exact .inl ⟨c', hc', rfl⟩
    | began _ =>
      cases hid
      obtain ⟨stage, rfl⟩ := (begin_onward g ⟨id, .send, _, .bare⟩).live hc'
      exact .inr rfl
    | signingIn _ =>
      cases hid
      cases (call?_suspend_self g _ .exchange).symm.trans hc'
      exact .inr rfl
    | exchanged hc _ _ =>
      cases hid
      rw [← call?_id hc] at hc'
      obtain ⟨_, _, _, -, rfl⟩ := (exchangeAnswered_exchanged g _ _ _).live hc'
      exact .inl ⟨_, hc, rfl⟩
    | concluded hc _ _ =>
      cases hid
      rw [← call?_id hc] at hc'
      obtain ⟨stage, rfl⟩ := (conclude_onward g _ _).live hc'
      exact .inl ⟨_, hc, rfl⟩
    | @joined _ call _ _ hc _ _ _ =>
      cases hid
      rw [← call?_id hc] at hc'
      cases (call?_suspend_self g call .queued).symm.trans hc'
      exact .inl ⟨_, hc, rfl⟩
    | overtaken hc _ _ _ _ _ =>
      cases hid
      rw [← call?_id hc] at hc'
      obtain ⟨stage, rfl⟩ := (replay_onward g _ _).live hc'
      exact .inl ⟨_, hc, rfl⟩
    | @led _ call _ _ _ hc _ _ _ _ _ =>
      cases hid
      rw [← call?_id hc] at hc'
      cases (call?_suspend_self _ call .leading).symm.trans hc'
      exact .inl ⟨_, hc, rfl⟩
    | stranded hc _ _ _ _ _ =>
      cases hid
      rw [← call?_id hc] at hc'
      obtain ⟨stage, rfl⟩ := settleLeader_live hc'
      exact .inl ⟨_, hc, rfl⟩
    | settled hc _ =>
      cases hid
      rw [← call?_id hc] at hc'
      obtain ⟨stage, rfl⟩ := settleLeader_live hc'
      exact .inl ⟨_, hc, rfl⟩
    | resumed hc _ =>
      cases hid
      rw [← call?_id hc] at hc'
      obtain ⟨stage, rfl⟩ := (proceed_onward g _ _).live hc'
      exact .inl ⟨_, hc, rfl⟩
    | abandoned hc _ =>
      cases hid
      cases (abandoned_gone g id _).symm.trans hc'
    | left hc _ =>
      cases hid
      cases (call?_without_self g id).symm.trans hc'
    | dropped hc _ _ =>
      cases hid
      cases (call?_without_self g id).symm.trans hc'
    | changed _ => cases hid
  · obtain heq | ⟨-, -, o, htold⟩ := (h.control.framed hid).call
    · rw [heq] at hc'
      exact .inl ⟨c', hc', rfl⟩
    · rw [htold] at hc'
      obtain ⟨c, hc, rfl⟩ := Option.map_eq_some_iff.1 hc'
      exact .inl ⟨c, hc, rfl⟩

/-! ## Sign-ins -/

/-- A sign-in that is answered without tokens is over. -/
theorem exchangeAnswered_gone (g : Gateway σ) (call : Call) (email : String)
    {answer : Except String Response} (h : tokenPair? answer = none) :
    (g.exchangeAnswered call email answer).1.call? call.id = none := by
  have hgone : ∀ g : Gateway σ, (g.without call.id).call? call.id = none :=
    fun g => call?_without_self g call.id
  have hx := exchangeAnswered_exchanged g call email answer
  generalize g.exchangeAnswered call email answer = moved at hx ⊢
  cases hx with
  | turnedDown _ _ _ => exact hgone _
  | failed _ _ _ => exact hgone g
  | unstored _ _ ht _ => cases h.symm.trans ht
  | signedIn _ ht _ _ => cases h.symm.trans ht
  | lookedUp _ ht _ _ => cases h.symm.trans ht

/-- Nothing comes of an event that is ignored. -/
theorem Ignores.step {g : Gateway σ} {e : Event} (h : g.Ignores e) : g.step e = (g, []) := by
  cases e with
  | send id request => exact if_pos (Option.isSome_iff_ne_none.2 h)
  | login id email password => exact if_pos (Option.isSome_iff_ne_none.2 h)
  | answer id answer =>
    cases hc : g.call? id with
    | none => simp only [Gateway.step, hc]
    | some call =>
      obtain hs | ⟨o, hs⟩ := h call hc
      · simp only [Gateway.step, hc, answered, hs]
      · simp only [Gateway.step, hc, answered, hs]
  | resume id =>
    cases hc : g.call? id with
    | none => simp only [Gateway.step, hc]
    | some call =>
      simp only [Gateway.step, hc]
      split
      · rename_i o hs
        exact absurd hs (h call o hc)
      · rfl
  | cancel id =>
    have hc : g.call? id = none := h
    simp only [Gateway.step, hc]
  | change change => exact h.elim

theorem step_cancel_gone (g : Gateway σ) (id : CallId) :
    (g.step (.cancel id)).1.call? id = none := by
  cases hc : g.call? id with
  | none => simp only [step, hc]
  | some call =>
    have hid : (g.without id).call? id = none := call?_without_self g id
    simp only [step, hc, cancelled, call?_id hc]
    split
    · exact abandoned_gone g id _
    · exact hid
    · exact hid

/-- An exchange is over only when it is answered. -/
theorem Coherent.exchange_step {g : Gateway σ} (hg : Coherent g) {e : Event} {id : CallId}
    {c c' : Call} (hc : g.call? id = some c) (hs : c.stage = .exchange)
    (hc' : (g.step e).1.call? id = some c') :
    c' = c ∨ ∃ answer, e = .answer id answer := by
  by_cases hid : e.subject? = some id
  · have hignored : g.Ignores e → c' = c := by
      intro hi
      rw [hi.step, hc] at hc'
      exact (Option.some.inj hc').symm
    cases e with
    | send _ _ =>
      cases hid
      exact .inl (hignored (by simp [Ignores, hc]))
    | login _ _ _ =>
      cases hid
      exact .inl (hignored (by simp [Ignores, hc]))
    | answer _ answer =>
      cases hid
      exact .inr ⟨answer, rfl⟩
    | resume _ =>
      cases hid
      refine .inl (hignored ?_)
      intro d o hd hr
      rw [hc] at hd
      cases hd
      rw [hs] at hr
      cases hr
    | cancel _ =>
      cases hid
      rw [step_cancel_gone] at hc'
      cases hc'
    | change _ => cases hid
  · obtain heq | ⟨hq, -⟩ := ((step_control g e).framed hid).call
    · rw [heq, hc] at hc'
      exact .inl (Option.some.inj hc').symm
    · exact absurd hq (hg.not_mem_queue hc (by rw [hs]; simp))

/-- A sign-in that goes on after its exchange did so before the step, or the step has given it its
tokens. -/
theorem Coherent.past_exchange {g : Gateway σ} (hg : Coherent g) {e : Event} {id : CallId}
    {c' : Call} {email : String} (hc' : (g.step e).1.call? id = some c')
    (hp : c'.purpose = .login email) (hs : c'.stage ≠ .exchange) :
    (∃ c, g.call? id = some c ∧ c.purpose = .login email ∧ c.stage ≠ .exchange) ∨
      ∃ answer, ∃ tokens : TokenPair, e = .answer id answer ∧
        g.change? e = some (.establish tokens.access tokens.refresh (.ofEmail email)) := by
  obtain ⟨c, hc, hpc⟩ | hstart := (step_transition g e).purpose hc'
  · rw [hp] at hpc
    by_cases hex : c.stage = .exchange
    · obtain rfl | ⟨answer, rfl⟩ := hg.exchange_step hc hex hc'
      · exact absurd hex hs
      · refine .inr ⟨answer, ?_⟩
        simp only [Gateway.step, hc, answered, hex, ← hpc] at hc'
        cases ht : tokenPair? answer with
        | none =>
          rw [← call?_id hc, exchangeAnswered_gone g c email ht] at hc'
          cases hc'
        | some tokens =>
          refine ⟨tokens, rfl, ?_⟩
          rw [change?_answer hc]
          simp only [answerChange?, hex, ← hpc, exchangeChange?, ht]
    · exact .inl ⟨c, hc, hpc.symm, hex⟩
  · -- A sign-in that begins is at its exchange.
    rw [hp] at hstart
    cases e with
    | login _ _ password =>
      cases hstart
      cases hc : g.call? id with
      | some c =>
        have hi : g.Ignores (.login id email password) := by simp [Ignores, hc]
        rw [hi.step, hc] at hc'
        cases hc'
        exact .inl ⟨_, rfl, hp, hs⟩
      | none =>
        simp only [Gateway.step, hc, Option.isSome_none, Bool.false_eq_true, if_false] at hc'
        cases (call?_suspend_self g _ .exchange).symm.trans hc'
        exact absurd rfl hs
    | _ => cases hstart

/-! ## Calls of the queue -/

/-- A call that an event is about is left as it is, is sent, waits or leads. -/
theorem Control.stage {g : Gateway σ} {e : Event} {moved : Moved σ} (h : Control g e moved)
    {id : CallId} {c' : Call} (hid : e.subject? = some id) (hc' : moved.1.call? id = some c') :
    g.call? id = some c' ∨ c'.stage.isOwn = true ∨ c'.stage = .queued ∨ c'.stage = .leading := by
  have honward : ∀ {g : Gateway σ} {call : Call} {moved : Moved σ}, Onward g call moved →
      moved.1.call? call.id = some c' → c'.stage.isOwn = true := by
    intro g call moved ho hc
    obtain ⟨stage, request, hs, rfl, -⟩ := ho.of_live (by rw [hc]; simp)
    cases (call?_suspend_self g call stage).symm.trans hc
    exact hs
  cases h with
  | ignored _ => exact .inl hc'
  | onward _ _ he _ ho =>
    rw [he] at hid
    cases hid
    exact .inr (.inl (honward ho hc'))
  | @joined _ call _ _ hc _ _ =>
    cases hid
    rw [← call?_id hc] at hc'
    cases (call?_suspend_self g call .queued).symm.trans hc'
    exact .inr (.inr (.inl rfl))
  | @led _ call _ _ _ hc _ _ _ _ _ =>
    cases hid
    rw [← call?_id hc] at hc'
    cases (call?_suspend_self _ call .leading).symm.trans hc'
    exact .inr (.inr (.inr rfl))
  | @settled _ call _ g' o hc _ =>
    cases hid
    rw [← call?_id hc, settleLeader_eq] at hc'
    exact .inr (.inl (honward (proceed_onward _ call o) hc'))
  | abandoned _ _ =>
    cases hid
    cases (abandoned_gone g id _).symm.trans hc'
  | left _ _ =>
    cases hid
    cases (call?_without_self g id).symm.trans hc'
  | dropped _ _ _ =>
    cases hid
    cases (call?_without_self g id).symm.trans hc'
  | changed _ => cases hid

/-- Only the end of a refresh empties a queue for those who wait, and it tells them the outcome. -/
theorem Coherent.released_of_emptied {g : Gateway σ} (hg : Coherent g) {e : Event} {id : CallId}
    (hid : e.subject? ≠ some id) (hmem : id ∈ g.queue) (hnil : (g.step e).1.queue = []) :
    ∃ o leader c, Released g o (g.step e) ∧ g.call? leader = some c ∧ c.stage = .leading ∧
      ((∃ answer, e = .answer leader answer ∧ o = refreshOutcome answer) ∨
        (e = .cancel leader ∧ o = .failed .abandoned)) := by
  cases hg.queueStep e with
  | kept _ _ hq _ =>
    rw [← hq, hnil] at hmem
    exact absurd hmem List.not_mem_nil
  | joined _ _ _ _ hq _ _ =>
    rw [hnil] at hq
    simp at hq
  | @left j _ _ hq _ _ _ =>
    have hne : id ≠ j := by
      rintro rfl
      exact hid rfl
    rw [hnil] at hq
    exact absurd (List.mem_filter.2 ⟨hmem, by simpa using hne⟩) (hq ▸ List.not_mem_nil)
  | @settled j leader answer _ hl hls hr _ _ =>
    exact ⟨_, j, leader, hr, hl, hls, .inl ⟨answer, rfl, rfl⟩⟩
  | @abandoned j leader _ hl hls hr _ =>
    exact ⟨_, j, leader, hr, hl, hls, .inr ⟨rfl, rfl⟩⟩

/-- A call that is told an outcome was told it before, or it waited for a refresh that is over. -/
theorem Coherent.told {g : Gateway σ} (hg : Coherent g) {e : Event} {id : CallId} {c' : Call}
    {o : Outcome} (hc' : (g.step e).1.call? id = some c') (hs : c'.stage = .released o) :
    g.call? id = some c' ∨
      (id ∈ g.queue ∧ ∃ leader c, g.call? leader = some c ∧ c.stage = .leading ∧
        ((∃ answer, e = .answer leader answer ∧ o = refreshOutcome answer) ∨
          (e = .cancel leader ∧ o = .failed .abandoned))) := by
  by_cases hid : e.subject? = some id
  · obtain hsame | hown | hq | hl := (step_control g e).stage hid hc'
    · exact .inl hsame
    · rw [hs] at hown
      cases hown
    · rw [hs] at hq
      cases hq
    · rw [hs] at hl
      cases hl
  · obtain heq | ⟨hmem, hnil, -⟩ := ((step_control g e).framed hid).call
    · rw [heq] at hc'
      exact .inl hc'
    · right
      obtain ⟨o', leader, c, hr, hl, hls, hcause⟩ := hg.released_of_emptied hid hmem hnil
      obtain ⟨d, -, -, hnew⟩ := hr.told id hmem
      cases hnew.symm.trans hc'
      cases hs
      exact ⟨hmem, leader, c, hl, hls, hcause⟩

end Gateway

end AccessConsole
