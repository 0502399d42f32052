import AccessConsole.Proofs.Gateway.Control
import AccessConsole.Proofs.Gateway.Edits

/-!
# No refresh for a stale token

A call that is turned down takes the lead if the session still holds the token that the call went
out with, and also if the session holds no access token at all. In the second case the call may
have carried a token. Then the session has ended, and there is no refresh token either.

* `Session.Orphaned` — a refresh token without an access token. No change of a session leads to it,
  so only a session that was restored so can be in it.
* `FirstSent` — what is known of the calls whose request is on the way for the first time.
* `refresh_for_current_token` — a request for a new token is sent only for a call turned down with
  the access token that the session holds, and with the refresh token that it holds.
-/

namespace AccessConsole

/-! ## Sessions without an access token -/

/-- There is a refresh token without an access token. -/
def Session.Orphaned (s : Session) : Prop := s.access = none ∧ s.refresh ≠ none

theorem Session.not_orphaned_of_access {s : Session} {token : String}
    (h : s.access = some token) : ¬s.Orphaned := by
  rintro ⟨ha, -⟩
  rw [ha] at h
  cases h

theorem Session.not_orphaned_empty : ¬Session.Orphaned {} := by
  rintro ⟨-, hr⟩
  exact hr rfl

/-- No change takes the access token away and leaves the refresh token. -/
theorem Change.orphaned {change : Change} {s : Session} (h : (change.session s).Orphaned) :
    s.Orphaned := by
  cases change with
  | establish access refresh user => exact absurd h (Session.not_orphaned_of_access rfl)
  | setTokens access refresh => exact absurd h (Session.not_orphaned_of_access rfl)
  | setUser user => exact h
  | clear => exact absurd h Session.not_orphaned_empty
  | expire => exact absurd h Session.not_orphaned_empty

namespace Gateway

variable {σ : Type} [KeyStore σ]

theorem changed_orphaned {g : Gateway σ} {change : Change}
    (h : (g.changed change).context.session.Orphaned) : g.context.session.Orphaned := by
  rw [changed_session] at h
  exact Change.orphaned h

theorem Alike.orphaned {g g' : Gateway σ} (ha : Alike g g') (h : g'.context.session.Orphaned) :
    g.context.session.Orphaned := by
  cases ha with
  | refl => exact h
  | changed change => exact changed_orphaned h

theorem Onward.orphaned {g : Gateway σ} {call : Call} {moved : Moved σ} (ho : Onward g call moved)
    (h : moved.1.context.session.Orphaned) : g.context.session.Orphaned := by
  cases ho with
  | sent _ _ => exact h
  | ended result => exact h
  | named user result => exact changed_orphaned h

/-- No step takes the access token away and leaves the refresh token. -/
theorem Control.orphaned {g : Gateway σ} {e : Event} {moved : Moved σ} (hs : Control g e moved)
    (h : moved.1.context.session.Orphaned) : g.context.session.Orphaned := by
  cases hs with
  | onward ha _ _ _ ho => exact ha.orphaned (ho.orphaned h)
  | settled o _ hg =>
    rw [settleLeader_context] at h
    obtain ⟨-, rfl, -⟩ | ⟨-, -, rfl⟩ := hg
    · exact changed_orphaned h
    · have hg : { g with phase := .refreshing : Gateway σ }.context.session.Orphaned :=
        changed_orphaned h
      exact hg
  | changed change => exact changed_orphaned h
  | _ => exact h

/-- A step that asks for a new token leaves the session as it is. -/
theorem change?_of_refreshCalls {g : Gateway σ} {e : Event} {id : CallId} {request : Request}
    (h : (id, request) ∈ refreshCalls (g.step e)) : g.change? e = none := by
  obtain ⟨call, token, response, refresh, rfl, h401, hc, hs, -, hr, -, -⟩ :=
    (step_control g e).refreshCalls h
  rw [change?_rejected hc hs h401, if_neg]
  rintro ⟨-, -, -, hnone⟩
  rw [hr] at hnone
  cases hnone

/-! ## Calls on the way for the first time -/

/-- A call that begins goes out with the token of the session. -/
theorem Onward.first {g : Gateway σ} {call : Call} {moved : Moved σ} (ho : Onward g call moved)
    {c : Call} {token : Option String} (hc : moved.1.call? call.id = some c)
    (hs : c.stage = .first token) :
    token = moved.1.context.session.access ∧
      ∃ request, c.request.outbound? token = some request ∧
        requestsFor call.id moved.2 = [request] := by
  obtain ⟨stage, request, -, rfl, hfirst⟩ := ho.of_live (by rw [hc]; simp)
  cases (call?_suspend_self g call stage).symm.trans hc
  obtain ⟨ht, hr⟩ := hfirst token hs
  exact ⟨ht, request, hr, by simp [requestsFor, dispatching]⟩

/-- A call whose request is on the way for the first time was on the way before the step and
nothing more was sent for it, or it has just gone out with the token of the session. -/
theorem Control.first {g : Gateway σ} {e : Event} {moved : Moved σ} (h : Control g e moved)
    {id : CallId} {c : Call} {token : Option String} (hc : moved.1.call? id = some c)
    (hs : c.stage = .first token) :
    (g.call? id = some c ∧ requestsFor id moved.2 = []) ∨
      (token = moved.1.context.session.access ∧
        ∃ request, c.request.outbound? token = some request ∧
          requestsFor id moved.2 = [request]) := by
  by_cases hid : e.subject? = some id
  · -- Of the calls that the event is about, only one that goes on by itself is sent.
    cases h with
    | ignored _ => exact .inl ⟨hc, rfl⟩
    | onward ha _ he _ ho =>
      rw [he] at hid
      cases hid
      exact .inr (ho.first hc hs)
    | @joined j call _ _ hj _ _ =>
      cases hid
      rw [← call?_id hj] at hc
      cases (call?_suspend_self g call .queued).symm.trans hc
      cases hs
    | @led j call _ _ _ hj _ _ _ _ _ =>
      cases hid
      rw [← call?_id hj] at hc
      cases (call?_suspend_self _ call .leading).symm.trans hc
      cases hs
    | @settled j call _ g' o hj _ =>
      cases hid
      rw [← call?_id hj, settleLeader_eq] at hc ⊢
      obtain ⟨ht, request, hr, hsent⟩ := (proceed_onward _ call o).first hc hs
      refine .inr ⟨ht, request, hr, ?_⟩
      simp only [requestsFor_wakes]
      exact hsent
    | @abandoned j call hj _ =>
      cases hid
      rw [call?_release] at hc
      change ((g.without id).call? id).map _ = some c at hc
      rw [call?_without_self] at hc
      cases hc
    | @left j call hj _ =>
      cases hid
      cases (call?_without_self g id).symm.trans hc
    | @dropped j call hj _ _ =>
      cases hid
      cases (call?_without_self g id).symm.trans hc
    | changed _ => cases hid
  · have hf := h.framed hid
    obtain heq | ⟨-, -, o, htold⟩ := hf.call
    · exact .inl ⟨by rw [← heq, hc], hf.requests⟩
    · rw [htold] at hc
      obtain ⟨c', -, rfl⟩ := Option.map_eq_some_iff.1 hc
      cases hs

/-! ## Runs -/

/-- What is known of the calls whose request is on the way for the first time: it is what was last
sent for the call, and while there is a refresh token without an access token, none of them carries
a token. -/
structure FirstSent (g : Gateway σ) (history : List (Moment σ)) : Prop where
  last : ∀ id c token, g.call? id = some c → c.stage = .first token →
    ∃ request, c.request.outbound? token = some request ∧
      (sentFor id history).getLast? = some request
  orphaned : g.context.session.Orphaned → ∀ id c token, g.call? id = some c →
    c.stage = .first token → token = none

theorem FirstSent.step {g : Gateway σ} {history : List (Moment σ)} (h : FirstSent g history)
    (e : Event) : FirstSent (g.step e).1 (history ++ [⟨g, e⟩]) := by
  have hstep := step_control g e
  refine ⟨?_, ?_⟩
  · intro id c token hc hs
    have hsent : sentFor id (history ++ [⟨g, e⟩]) =
        sentFor id history ++ requestsFor id (g.step e).2 := sentFor_concat id history ⟨g, e⟩
    rw [hsent]
    obtain ⟨hg, hnone⟩ | ⟨-, request, hr, hone⟩ := hstep.first hc hs
    · rw [hnone, List.append_nil]
      exact h.last id c token hg hs
    · rw [hone, List.getLast?_concat]
      exact ⟨request, hr, rfl⟩
  · intro ho id c token hc hs
    obtain ⟨hg, -⟩ | ⟨ht, -⟩ := hstep.first hc hs
    · exact h.orphaned (hstep.orphaned ho) id c token hg hs
    · rw [ht]
      exact ho.1

theorem firstSent_run (config : Config) (context : SessionContext σ) (es : List Event) :
    FirstSent ((start config context).run es) ((start config context).history es) := by
  induction es using List.reverseRecOn with
  | nil =>
    refine ⟨?_, ?_⟩
    · rintro id c token ⟨⟩
    · rintro - id c token ⟨⟩
  | append_singleton es e ih =>
    rw [run_concat, history_concat]
    exact ih.step e

/-- In every run, a request for a new token is sent only for a call that is turned down with the
very access token that the session holds at that moment, or without one where it holds none, and it
carries the refresh token of the session. No answer to a call that went out with another token
starts one. -/
theorem refresh_for_current_token (config : Config) (context : SessionContext σ)
    (es : List Event) (e : Event) :
    let history := (start config context).history es
    let g := (start config context).run es
    let m : Moment σ := ⟨g, e⟩
    (∀ id request, (id, request) ∈ m.refreshCalls →
      ∃ call response refresh sent,
        e = .answer id (.ok response) ∧ response.status = 401 ∧
        g.call? id = some call ∧ call.stage = .first g.context.session.access ∧
        call.request.outbound? g.context.session.access = some sent ∧
        (sentFor id history).getLast? = some sent ∧
        g.context.session.refresh = some refresh ∧
        request = refreshRequest g.config refresh ∧
        m.after.context = g.context) ∧
    ∀ id call token answer, g.call? id = some call → call.stage = .first token →
      token ≠ g.context.session.access → e = .answer id answer → m.refreshCalls = [] := by
  intro history g m
  have hfirst : FirstSent g history := firstSent_run config context es
  -- A call may lead without the token of the session only where the session has none. If it also
  -- has a refresh token then, no call on the way carries a token either.
  have htoken : ∀ id call token, g.call? id = some call → call.stage = .first token →
      g.context.session.access = none ∨ token = g.context.session.access →
      g.context.session.refresh ≠ none → token = g.context.session.access := by
    rintro id call token hc hs (hnone | heq) hr
    · rw [hfirst.orphaned ⟨hnone, hr⟩ id call token hc hs, hnone]
    · exact heq
  refine ⟨?_, ?_⟩
  · intro id request hm
    obtain ⟨call, token, response, refresh, he, h401, hc, hs, ht, hr, hreq, hcontext⟩ :=
      (step_control g e).refreshCalls hm
    have hcurrent := htoken id call token hc hs ht (by rw [hr]; simp)
    rw [hcurrent] at hs
    obtain ⟨sent, hout, hlast⟩ := hfirst.last id call _ hc hs
    exact ⟨call, response, refresh, sent, he, h401, hc, hs, hout, hlast, hr, hreq, hcontext⟩
  · intro id call token answer hc hs hne he
    rw [List.eq_nil_iff_forall_not_mem]
    rintro ⟨j, request⟩ hm
    obtain ⟨call', token', response, refresh, he', -, hc', hs', ht, hr, -, -⟩ :=
      (step_control g e).refreshCalls hm
    rw [he] at he'
    cases he'
    rw [hc] at hc'
    cases hc'
    rw [hs] at hs'
    cases hs'
    exact hne (htoken id call token hc hs ht (by rw [hr]; simp))

end Gateway

end AccessConsole
