import AccessConsole.Proofs.Gateway.Lifetime

/-!
# Nobody is left behind

* `Asked` — a call that waits for a refresh, or that a step has asked to send or to wake.
* `Coherent.asked` — after every step each call is asked for, or it waits on as it did before.
* `step_over` — a call that does not go away leaves the gateway with a result only.
* `Purpose.Yields`, `step_yields` — a call that is sent gives an answer, a sign-in a session.
-/

namespace AccessConsole

/-- A request is on the way for the call. -/
def Stage.isSent : Stage → Bool
  | .queued => false
  | .released _ => false
  | _ => true

theorem Stage.isSent_of_isOwn {stage : Stage} (h : stage.isOwn = true) : stage.isSent = true := by
  cases stage <;> simp_all [Stage.isOwn, Stage.isSent]

/-- What a call may give for its purpose, if it does not fail. -/
def Purpose.Yields : Purpose → Except GatewayError Reply → Prop
  | _, .error _ => True
  | .send, .ok (.response _) => True
  | .login _, .ok (.session _) => True
  | _, .ok _ => False

theorem Purpose.yields_error (purpose : Purpose) (e : GatewayError) :
    purpose.Yields (.error e) := by
  cases purpose <;> exact True.intro

theorem Purpose.yields_send (result : CallResult) :
    Purpose.send.Yields (result.map .response) := by
  cases result <;> exact True.intro

/-- The event is the one that the call waits for. -/
inductive Event.Moves (c : Call) : Event → Prop
  | answered (answer : Except String Response) :
    c.stage.isSent = true → Event.Moves c (.answer c.id answer)
  | resumed (o : Outcome) : c.stage = .released o → Event.Moves c (.resume c.id)

theorem Event.Moves.subject {c : Call} {e : Event} (h : e.Moves c) : e.subject? = some c.id := by
  cases h <;> rfl

namespace Gateway

variable {σ : Type} [KeyStore σ]

/-! ## What moves a call on -/

/-- The call waits for a refresh, or it is asked to send its request or to wake it. -/
inductive Asked (effects : List Effect) (c : Call) : Prop
  | waits : c.stage = .queued → Asked effects c
  | woken (o : Outcome) : c.stage = .released o → .wake c.id ∈ effects → Asked effects c
  | sent (request : Request) :
    c.stage.isSent = true → .dispatch c.id request ∈ effects → Asked effects c

theorem Onward.asked {g : Gateway σ} {call c : Call} {moved : Moved σ} (h : Onward g call moved)
    (hc : moved.1.call? call.id = some c) : Asked moved.2 c := by
  obtain ⟨stage, request, hs, rfl, -⟩ := h.of_live (by rw [hc]; simp)
  cases (call?_suspend_self g call stage).symm.trans hc
  exact .sent request (Stage.isSent_of_isOwn hs) (List.mem_singleton.2 rfl)

omit [KeyStore σ] in
theorem Asked.mono {effects effects' : List Effect} {c : Call} (h : Asked effects c)
    (hsub : effects ⊆ effects') : Asked effects' c := by
  cases h with
  | waits hs => exact .waits hs
  | woken o hs hw => exact .woken o hs (hsub hw)
  | sent request hs hd => exact .sent request hs (hsub hd)

omit [KeyStore σ] in
/-- An event that is ignored is not the one that a call waits for. -/
theorem Ignores.not_moves {g : Gateway σ} {e : Event} (h : g.Ignores e) {c : Call}
    (hc : g.call? c.id = some c) : ¬e.Moves c := by
  intro hm
  cases hm with
  | answered answer hs =>
    obtain hq | ⟨o, hr⟩ := h c hc
    · rw [hq] at hs
      cases hs
    · rw [hr] at hs
      cases hs
  | resumed o hs => exact h c o hc hs

/-- A call that an event is about, and that is still going on, is asked for or has been left as it
was. -/
theorem Control.asked {g : Gateway σ} {e : Event} {moved : Moved σ} (h : Control g e moved)
    {c : Call} (hid : e.subject? = some c.id) (hc : moved.1.call? c.id = some c) :
    Asked moved.2 c ∨ (g.call? c.id = some c ∧ ¬e.Moves c) := by
  cases h with
  | ignored hi => exact .inr ⟨hc, hi.not_moves hc⟩
  | @onward _ g' call _ _ _ he _ ho =>
    have heq : call.id = c.id := Option.some_inj.1 (he.symm.trans hid)
    rw [← heq] at hc
    exact .inl (ho.asked hc)
  | @joined _ call _ _ hfind _ _ =>
    have heq : call.id = c.id := (call?_id hfind).trans (Option.some_inj.1 hid)
    rw [← heq] at hc
    cases (call?_suspend_self g call .queued).symm.trans hc
    exact .inl (.waits rfl)
  | @led _ call _ _ refresh hfind _ _ _ _ _ =>
    have heq : call.id = c.id := (call?_id hfind).trans (Option.some_inj.1 hid)
    rw [← heq] at hc
    cases (call?_suspend_self _ call .leading).symm.trans hc
    exact .inl (.sent _ rfl (List.mem_singleton.2 rfl))
  | @settled _ call _ g' o hfind _ =>
    have heq : call.id = c.id := (call?_id hfind).trans (Option.some_inj.1 hid)
    rw [← heq, settleLeader_eq] at hc
    rw [settleLeader_eq]
    exact .inl (((proceed_onward _ call o).asked hc).mono (List.subset_append_right _ _))
  | @abandoned id _ _ _ =>
    cases hid
    cases (abandoned_gone g c.id _).symm.trans hc
  | left _ _ =>
    cases hid
    cases (call?_without_self g c.id).symm.trans hc
  | dropped _ _ _ =>
    cases hid
    cases (call?_without_self g c.id).symm.trans hc
  | changed _ => cases hid

/-- Whoever a step has moved is asked for, and the others wait on as before. -/
theorem Coherent.asked {g : Gateway σ} (h : Coherent g) {e : Event} {id : CallId} {c : Call}
    (hc : (g.step e).1.call? id = some c) :
    Asked (g.step e).2 c ∨ (g.call? id = some c ∧ ¬e.Moves c) := by
  have hcid : c.id = id := call?_id hc
  subst hcid
  by_cases hid : e.subject? = some c.id
  · exact (step_control g e).asked hid hc
  · obtain heq | ⟨hmem, hnil, o, htold⟩ := ((step_control g e).framed hid).call
    · rw [heq] at hc
      exact .inr ⟨hc, fun hm => hid hm.subject⟩
    · obtain ⟨o, -, -, hr, -, -, -⟩ := h.released_of_emptied hid hmem hnil
      obtain ⟨d, -, -, hnew⟩ := hr.told c.id hmem
      have hstage : c.stage = .released o := by
        cases hnew.symm.trans hc
        rfl
      rw [← hr.woken] at hmem
      exact .inl (.woken o hstage (mem_wokenBy.1 hmem))

/-! ## How a call ends -/

/-- A call that goes on by itself is still there, or it has a result. -/
theorem Onward.over {g : Gateway σ} {call : Call} {moved : Moved σ} (h : Onward g call moved) :
    moved.1.call? call.id ≠ none ∨ ∃ result, .finish call.id result ∈ moved.2 := by
  cases h with
  | @sent stage request _ _ =>
    left
    show (g.suspend call stage).call? call.id ≠ none
    rw [call?_suspend_self]
    simp
  | ended result => exact .inr ⟨result, List.mem_singleton.2 rfl⟩
  | named user result => exact .inr ⟨result, List.mem_singleton.2 rfl⟩

/-- A call that does not go away leaves the gateway with a result only. -/
theorem step_over {g : Gateway σ} {e : Event} {id : CallId} (hc : g.call? id ≠ none)
    (hcancel : e.cancelled? ≠ some id) :
    (g.step e).1.call? id ≠ none ∨ ∃ result, .finish id result ∈ (g.step e).2 := by
  by_cases hid : e.subject? = some id
  · have ht := step_control g e
    generalize g.step e = moved at ht ⊢
    cases ht with
    | ignored _ => exact .inl hc
    | onward _ _ he _ ho =>
      rw [he] at hid
      cases hid
      exact ho.over
    | @joined _ call _ _ hfind _ _ =>
      cases hid
      rw [← call?_id hfind]
      left
      show (g.suspend call .queued).call? call.id ≠ none
      rw [call?_suspend_self]
      simp
    | @led _ call _ _ _ hfind _ _ _ _ _ =>
      cases hid
      rw [← call?_id hfind]
      left
      show (Gateway.suspend { g with phase := .refreshing } call .leading).call? call.id ≠ none
      rw [call?_suspend_self]
      simp
    | @settled _ call _ g' o hfind _ =>
      cases hid
      rw [← call?_id hfind, settleLeader_eq]
      refine (proceed_onward _ call o).over.imp_right ?_
      rintro ⟨result, hr⟩
      exact ⟨result, List.mem_append_right _ hr⟩
    | abandoned _ _ =>
      cases hid
      exact absurd rfl hcancel
    | left _ _ =>
      cases hid
      exact absurd rfl hcancel
    | dropped _ _ _ =>
      cases hid
      exact absurd rfl hcancel
    | changed _ => cases hid
  · left
    obtain heq | ⟨-, -, o, htold⟩ := ((step_control g e).framed hid).call
    · rw [heq]
      exact hc
    · rw [htold]
      simpa using hc

/-- A call that begins is there, or it is over at once. -/
theorem step_started {g : Gateway σ} {e : Event} {id : CallId} {purpose : Purpose}
    (hc : g.call? id = none) (he : e.started? = some (id, purpose)) :
    (g.step e).1.call? id ≠ none ∨ ∃ result, .finish id result ∈ (g.step e).2 := by
  have hnone : (g.call? id).isSome = false := by
    rw [hc]
    rfl
  cases e with
  | send j request =>
    cases he
    simp only [step, hnone, Bool.false_eq_true, if_false]
    exact (begin_onward g ⟨id, .send, request, .bare⟩).over
  | login j email password =>
    cases he
    simp only [step, hnone, Bool.false_eq_true, if_false]
    left
    show (Gateway.suspend g ⟨id, .login email, _, .exchange⟩ .exchange).call? id ≠ none
    rw [call?_suspend, if_pos rfl]
    simp
  | _ => cases he

/-! ## What a call gives -/

omit [KeyStore σ] in
/-- All results among some effects are of one call, and of the kind that it is for. -/
def Gives (call : Call) (effects : List Effect) : Prop :=
  ∀ id result, .finish id result ∈ effects → id = call.id ∧ call.purpose.Yields result

omit [KeyStore σ] in
theorem gives_finish {g : Gateway σ} {call : Call} {result : Except GatewayError Reply}
    (h : call.purpose.Yields result) : Gives call (g.finish call.id result).2 := by
  intro id r hr
  cases List.mem_singleton.1 hr
  exact ⟨rfl, h⟩

omit [KeyStore σ] in
theorem gives_dispatching (g : Gateway σ) (call : Call) (stage : Stage) (request : Request) :
    Gives call (g.dispatching call stage request).2 := by
  intro id r hr
  cases List.mem_singleton.1 hr

omit [KeyStore σ] in
theorem Gives.after_wakes {call : Call} {effects : List Effect} (h : Gives call effects)
    (ids : List CallId) : Gives call (ids.map .wake ++ effects) := by
  intro id result hr
  refine h id result ?_
  obtain hw | hr := List.mem_append.1 hr
  · simp at hw
  · exact hr

omit [KeyStore σ] in
theorem gives_finishLogin (g : Gateway σ) {call : Call} {email : String}
    (hp : call.purpose = .login email) : Gives call (g.finishLogin call.id).2 := by
  unfold finishLogin
  split_ifs
  · refine gives_finish ?_
    rw [hp]
    exact True.intro
  · exact gives_finish (Purpose.yields_error _ _)

theorem gives_conclude (g : Gateway σ) (call : Call) (result : CallResult) :
    Gives call (g.conclude call result).2 := by
  unfold conclude
  split
  · refine gives_finish ?_
    rw [‹call.purpose = .send›]
    exact Purpose.yields_send _
  · split
    · exact gives_finishLogin (g.changed _) ‹_›
    · exact gives_finishLogin g ‹_›
  · exact gives_finish (Purpose.yields_error _ _)
  · exact gives_finishLogin g ‹_›

theorem gives_begin (g : Gateway σ) (call : Call) : Gives call (g.begin call).2 := by
  unfold begin
  split_ifs
  · exact gives_dispatching g call _ _
  · split
    · exact gives_dispatching g call _ _
    · split
      · exact gives_dispatching g call _ _
      · exact gives_conclude g call _

theorem gives_replay (g : Gateway σ) (call : Call) (token : String) :
    Gives call (g.replay call token).2 := by
  unfold replay
  split
  · exact gives_dispatching g call _ _
  · exact gives_conclude g call _

theorem gives_proceed (g : Gateway σ) (call : Call) (o : Outcome) :
    Gives call (g.proceed call o).2 := by
  cases o with
  | refreshed token => exact gives_replay g call token
  | failed reason => exact gives_conclude g call _

theorem gives_settleLeader (g : Gateway σ) (call : Call) (o : Outcome) :
    Gives call (g.settleLeader call o).2 := by
  rw [settleLeader_eq]
  exact (gives_proceed _ call o).after_wakes _

theorem Exchanged.gives {g : Gateway σ} {call : Call} {email : String}
    {answer : Except String Response} {moved : Moved σ} (h : Exchanged g call email answer moved)
    (hp : call.purpose = .login email) : Gives call moved.2 := by
  cases h with
  | turnedDown _ _ _ => exact gives_finish (Purpose.yields_error _ _)
  | failed _ _ _ => exact gives_finish (Purpose.yields_error _ _)
  | unstored _ _ _ _ => exact gives_finish (Purpose.yields_error _ _)
  | signedIn tokens _ _ _ => exact gives_finishLogin _ hp
  | @lookedUp tokens request _ _ _ => exact gives_begin _ { call with request }

/-- A result of a step is one of the call that the event is about, and of the kind that this call is
for. -/
theorem step_yields {g : Gateway σ} {e : Event} {id : CallId} {result : Except GatewayError Reply}
    (hr : .finish id result ∈ (g.step e).2) :
    ∃ purpose : Purpose, purpose.Yields result ∧
      ((∃ c, g.call? id = some c ∧ c.purpose = purpose) ∨ e.started? = some (id, purpose)) := by
  have held : ∀ {j c effects}, g.call? j = some c → Gives c effects →
      .finish id result ∈ effects → ∃ purpose : Purpose, purpose.Yields result ∧
        ((∃ c, g.call? id = some c ∧ c.purpose = purpose) ∨ e.started? = some (id, purpose)) := by
    intro j c effects hc hg hmem
    obtain ⟨rfl, hy⟩ := hg id result hmem
    rw [← call?_id hc] at hc
    exact ⟨c.purpose, hy, .inl ⟨c, hc, rfl⟩⟩
  have ht := step_transition g e
  generalize g.step e = moved at ht hr
  cases ht with
  | ignored _ => cases hr
  | @began j request _ =>
    obtain ⟨rfl, hy⟩ := gives_begin g ⟨j, .send, request, .bare⟩ id result hr
    exact ⟨.send, hy, .inr rfl⟩
  | signingIn _ => cases List.mem_singleton.1 hr
  | exchanged hc _ hp => exact held hc ((exchangeAnswered_exchanged g _ _ _).gives hp) hr
  | concluded hc _ _ => exact held hc (gives_conclude g _ _) hr
  | joined _ _ _ _ => cases hr
  | overtaken hc _ _ _ _ _ => exact held hc (gives_replay g _ _) hr
  | led _ _ _ _ _ _ => cases List.mem_singleton.1 hr
  | stranded hc _ _ _ _ _ => exact held hc (gives_settleLeader _ _ _) hr
  | settled hc _ => exact held hc (gives_settleLeader _ _ _) hr
  | resumed hc _ => exact held hc (gives_proceed g _ _) hr
  | abandoned _ _ =>
    obtain ⟨j, -, hj⟩ := List.mem_map.1 hr
    cases hj
  | left _ _ => cases hr
  | dropped _ _ _ => cases hr
  | changed _ => cases hr

/-! ## Without answers -/

/-- No refresh begins unless a server answers. -/
theorem phase_of_unanswered {g : Gateway σ} {e : Event} (hp : g.phase ≠ .refreshing)
    (he : ∀ id response, e ≠ .answer id (.ok response)) : (g.step e).1.phase ≠ .refreshing := by
  have ht := step_control g e
  generalize g.step e = moved at ht ⊢
  cases ht with
  | ignored _ => exact hp
  | onward ha _ _ _ ho =>
    rw [ho.phase, ha.phase]
    exact hp
  | joined _ _ _ => exact absurd rfl (he _ _)
  | led _ _ _ _ _ _ => exact absurd rfl (he _ _)
  | @settled _ call _ g' o _ _ =>
    have hphase : (g'.settleLeader call o).1.phase = .idle := by
      rw [settleLeader_eq]
      exact (proceed_onward _ call o).phase
    rw [hphase]
    simp
  | abandoned _ _ =>
    show Phase.idle ≠ .refreshing
    simp
  | left _ _ => exact hp
  | dropped _ _ _ => exact hp
  | changed _ => exact hp

/-- A request that is not answered changes the session only if it is one for a new token. -/
theorem Coherent.context_of_unanswered {g : Gateway σ} (h : Coherent g)
    (hp : g.phase ≠ .refreshing) (id : CallId) (text : String) :
    (g.step (.answer id (.error text))).1.context = g.context := by
  have hnone : g.change? (.answer id (.error text)) = none := by
    cases hc : g.call? id with
    | none => simp only [change?, hc, Option.bind_none]
    | some call =>
      rw [change?_answer hc]
      cases hs : call.stage with
      | leading =>
        have hmem : id ∈ g.leaders := h.mem_leaders.2 ⟨call, hc, hs⟩
        rw [(h.idle hp).2.1] at hmem
        cases hmem
      | exchange =>
        simp only [answerChange?, hs]
        cases call.purpose <;> rfl
      | first token =>
        have hstrands : ¬g.Strands token (.error text) := fun ht => Bool.false_ne_true ht.1
        simp only [answerChange?, hs, if_neg hstrands]
        exact lookedUp?_error _ _
      | bare =>
        simp only [answerChange?, hs]
        exact lookedUp?_error _ _
      | second =>
        simp only [answerChange?, hs]
        exact lookedUp?_error _ _
      | queued => simp only [answerChange?, hs]
      | released o => simp only [answerChange?, hs]
  rw [step_context, hnone]
  rfl

end Gateway

end AccessConsole
