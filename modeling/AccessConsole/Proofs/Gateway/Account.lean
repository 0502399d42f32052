import AccessConsole.Proofs.Gateway.Coherence

/-!
# What a run did for one call

* `Account`, `account` — what was sent for a call, which answers its second request got, with which
  results it ended, and where it is suspended if it is still going on.
* `account_concat`, `account_answered`, `account_unanswered` — how a step adds to it.
* `account_of_ne`, `call?_of_ne_of_queue` — a step does not send or end a call that its event is
  not about, and moves it only as it empties the queue.
-/

namespace AccessConsole.Gateway

variable {σ : Type}

/-- The answers that arrive in a run for a call when its stage passes a test. -/
def answersTo (id : CallId) (p : Stage → Bool) (history : List (Moment σ)) :
    List (Except String Response) :=
  ((answersAt p history).filter fun a => a.1 = id).map fun a => a.2

theorem answersTo_concat (id : CallId) (p : Stage → Bool) (history : List (Moment σ))
    (m : Moment σ) :
    answersTo id p (history ++ [m]) =
      answersTo id p history ++
        ((m.answer? p).toList.filter fun a => a.1 = id).map fun a => a.2 := by
  unfold answersTo
  rw [answersAt_concat, List.filter_append, List.map_append]

/-- What a run did for one call. -/
structure Account where
  /-- The requests sent for it. -/
  sent : List Request
  /-- The answers to its own request where that was on the way for the second time. -/
  answers : List (Except String Response)
  /-- The results with which it ended. -/
  results : List (Except GatewayError Reply)
  /-- The call, if it is going on. -/
  live : Option Call

/-- What was never heard of. -/
def Account.blank : Account := ⟨[], [], [], none⟩

variable [KeyStore σ]

/-- What a run that ends with a gateway did for a call. -/
def account (g : Gateway σ) (history : List (Moment σ)) (id : CallId) : Account :=
  ⟨sentFor id history, answersTo id (· = .second) history, resultsOf id history, g.call? id⟩

theorem account_concat (g : Gateway σ) (history : List (Moment σ)) (m : Moment σ) (id : CallId) :
    account m.after (history ++ [m]) id =
      { sent := (account g history id).sent ++ requestsFor id m.effects
        answers := (account g history id).answers ++
          ((m.answer? (· = .second)).toList.filter fun a => a.1 = id).map fun a => a.2
        results := (account g history id).results ++ resultsFor id m.effects
        live := m.after.call? id } := by
  unfold account
  rw [sentFor_concat, answersTo_concat, resultsOf_concat]

theorem account_of_ne {g : Gateway σ} {history : List (Moment σ)} {e : Event} {id : CallId}
    (hid : e.subject? ≠ some id) :
    account (g.step e).1 (history ++ [⟨g, e⟩]) id =
      { account g history id with live := (g.step e).1.call? id } := by
  have hf : Framed g id (g.step e) := (step_control g e).framed hid
  have hnone : ((Moment.mk g e).answer? (· = .second)).toList.filter (fun a => a.1 = id) = [] := by
    rw [List.filter_eq_nil_iff]
    rintro ⟨j, answer⟩ ha
    have hj : e.subject? = some j := Moment.subject_of_answer (Option.mem_toList.1 ha)
    have hne : j ≠ id := by
      rintro rfl
      exact hid hj
    simpa using hne
  have hstep := account_concat g history ⟨g, e⟩ id
  have hreq : requestsFor id (Moment.mk g e).effects = [] := hf.requests
  have hres : resultsFor id (Moment.mk g e).effects = [] := hf.results
  rw [hreq, hres, hnone, List.map_nil, List.append_nil, List.append_nil, List.append_nil] at hstep
  exact hstep

/-- What is done for a call as its request is answered. -/
theorem account_answered {g : Gateway σ} (history : List (Moment σ)) {id : CallId} {c : Call}
    (hc : g.call? id = some c) (answer : Except String Response) :
    account (g.step (.answer id answer)).1 (history ++ [⟨g, .answer id answer⟩]) id =
      { sent := (account g history id).sent ++ requestsFor id (g.step (.answer id answer)).2
        answers := (account g history id).answers ++ if c.stage = .second then [answer] else []
        results := (account g history id).results ++ resultsFor id (g.step (.answer id answer)).2
        live := (g.step (.answer id answer)).1.call? id } := by
  have hans := Moment.answer?_eq (m := ⟨g, .answer id answer⟩) rfl hc (· = .second)
  refine (account_concat g history ⟨g, .answer id answer⟩ id).trans ?_
  rw [hans]
  by_cases hs : c.stage = .second
  · simp only [hs, decide_true, if_true, Option.toList_some, List.filter_singleton]
    rfl
  · simp only [hs, decide_false, if_false, Bool.false_eq_true, Option.toList_none, List.filter_nil,
      List.map_nil]
    rfl

/-- What is done for a call where no answer to a second request arrives. -/
theorem account_unanswered {g : Gateway σ} (history : List (Moment σ)) {e : Event}
    (he : (Moment.mk g e).answer? (· = .second) = none) (id : CallId) :
    account (g.step e).1 (history ++ [⟨g, e⟩]) id =
      { sent := (account g history id).sent ++ requestsFor id (g.step e).2
        answers := (account g history id).answers
        results := (account g history id).results ++ resultsFor id (g.step e).2
        live := (g.step e).1.call? id } := by
  refine (account_concat g history ⟨g, e⟩ id).trans ?_
  rw [he, Option.toList_none, List.filter_nil, List.map_nil, List.append_nil]
  rfl

/-- A step that leaves the queue as it is, or somebody in it, moves no call that its event is not
about. -/
theorem call?_of_ne_of_queue {g : Gateway σ} {e : Event} {id : CallId} (hid : e.subject? ≠ some id)
    (hq : (g.step e).1.queue = g.queue ∨ (g.step e).1.queue ≠ []) :
    (g.step e).1.call? id = g.call? id := by
  obtain heq | ⟨hmem, hnil, -⟩ := ((step_control g e).framed hid).call
  · exact heq
  · obtain hsame | hne := hq
    · rw [← hsame, hnil] at hmem
      exact absurd hmem List.not_mem_nil
    · exact absurd hnil hne

/-- A step that ignores its event adds nothing. -/
theorem account_ignored {g : Gateway σ} {history : List (Moment σ)} {e : Event} {id : CallId}
    (hstep : g.step e = (g, [])) (ha : (Moment.mk g e).answer? (· = .second) = none) :
    account (g.step e).1 (history ++ [⟨g, e⟩]) id = account g history id := by
  rw [account_unanswered history ha, hstep]
  simp [requestsFor, resultsFor, account]

end AccessConsole.Gateway
