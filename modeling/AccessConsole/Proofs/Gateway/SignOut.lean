import AccessConsole.Proofs.Gateway.Edits
import AccessConsole.Proofs.Gateway.Lifetime
import AccessConsole.Proofs.Gateway.SharedRefresh
import AccessConsole.Proofs.Gateway.SingleFlight

/-!
# After a sign-out

A sign-out empties the session, and with nobody signing in the calls that are still going on leave
it empty: whoever is turned down finds no refresh token and fails. The exception is a refresh whose
request was on the way at the sign-out. If it is answered with tokens, the session holds them.

* `Event.signsIn`, `Event.keepsOut` — the events with which a sign-in begins, and those after which
  nobody is signed in who was not before.
* `RemovesTexts`, `SessionContext.Forgotten` — a store from which texts can be removed, and one that
  holds nothing of a session.
* `SignedOut`, `SignedOut.step` — nothing but an answered refresh brings a session back.
* `signed_out_until_refresh_answered` — this holds in every state after a sign-out.
* `refresh_undoes_sign_out` — a run in which the refresh is answered.
-/

namespace AccessConsole

/-- A sign-in begins with the event. -/
def Event.signsIn : Event → Bool
  | .login .. => true
  | _ => false

/-- Nobody signs in with the event, and nobody gives the session anything from outside. -/
def Event.keepsOut : Event → Bool
  | .login .. => false
  | .change c => c.ends
  | _ => true

theorem Event.signsIn_of_keepsOut {e : Event} (h : e.keepsOut = true) : e.signsIn = false := by
  cases e <;> first | rfl | cases h

/-! ## Stores -/

/-- Removing a text works: the text is gone then, and those under other keys are still there. -/
structure RemovesTexts (σ : Type) [KeyStore σ] : Prop where
  gone : ∀ (store : σ) (key : String), KeyStore.get (KeyStore.remove store key).2 key = .ok none
  kept : ∀ (store : σ) (key other : String), other ≠ key →
    KeyStore.get (KeyStore.remove store key).2 other = KeyStore.get store other

theorem removesTexts_memoryStore : RemovesTexts MemoryStore := by
  refine ⟨?_, ?_⟩
  · intro store key
    show Except.ok ((store.entries.erase key).get? key) = _
    simp [Entries.get?, Entries.erase, List.find?_filter]
  · intro store key other hne
    show Except.ok ((store.entries.erase key).get? other) = Except.ok (store.entries.get? other)
    unfold Entries.get? Entries.erase
    rw [List.find?_filter]
    congr 3
    funext entry
    by_cases h : entry.1 = other
    · simp [h, hne]
    · simp [h]

variable {σ : Type} [KeyStore σ]

/-- The store holds nothing of a session. -/
def SessionContext.Forgotten (context : SessionContext σ) : Prop :=
  ∀ key ∈ [accessKey, refreshKey, userKey], KeyStore.get context.store key = .ok none

/-- A change that ends the session takes its texts out of the store. -/
theorem SessionContext.forgotten_of_ends (hr : RemovesTexts σ) (context : SessionContext σ)
    {change : Change} (h : change.ends = true) : (context.after change).Forgotten := by
  have hstore : (context.after change).store =
      runAll [.remove accessKey, .remove refreshKey, .remove userKey] context.store := by
    unfold after apply
    cases change <;> first | rfl | cases h
  have hkeys : accessKey ≠ refreshKey ∧ accessKey ≠ userKey ∧ refreshKey ≠ userKey := by decide
  intro key hkey
  simp only [List.mem_cons, List.not_mem_nil, or_false] at hkey
  rw [hstore]
  simp only [runAll, List.foldl_cons, List.foldl_nil, Write.run]
  obtain rfl | rfl | rfl := hkey
  · rw [hr.kept _ _ _ hkeys.2.1, hr.kept _ _ _ hkeys.1, hr.gone]
  · rw [hr.kept _ _ _ hkeys.2.2, hr.gone]
  · rw [hr.gone]

namespace Gateway

/-! ## Steps -/

/-- Only sends are going on. -/
def OnlySends (g : Gateway σ) : Prop := ∀ id c, g.call? id = some c → c.purpose = .send

theorem OnlySends.step {g : Gateway σ} (h : g.OnlySends) {e : Event} (he : e.signsIn = false) :
    (g.step e).1.OnlySends := by
  intro id c hc
  obtain ⟨c₀, hc₀, hp⟩ | hstart := (step_transition g e).purpose hc
  · rw [hp]
    exact h id c₀ hc₀
  · cases e with
    | send _ _ => exact (congrArg Prod.snd (Option.some.inj hstart)).symm
    | login _ _ _ => cases he
    | _ => cases hstart

omit [KeyStore σ] in
/-- While nobody signs in, a change ends the session, or it is made by a refresh that hands out a
token. -/
theorem OnlySends.change {g : Gateway σ} (h : g.OnlySends) {e : Event} (he : e.keepsOut = true)
    {change : Change} (hchange : g.change? e = some change) :
    change.ends = true ∨
      ∃ token refresh, change = .setTokens token refresh ∧ HandsOut token ⟨g, e⟩ := by
  obtain rfl | ⟨id, answer, call, rfl, hc, hw⟩ := change?_cases hchange
  · exact .inl he
  · cases hw with
    | refreshed hs =>
      cases ho : refreshOutcome answer with
      | failed reason =>
        rw [refreshChange_of_failed ho]
        exact .inl rfl
      | refreshed token =>
        obtain ⟨refresh, hr⟩ := refreshChange_of_refreshed ho
        refine .inr ⟨token, refresh, hr, id, answer, ?_, ho⟩
        rw [Moment.answer?_eq rfl hc, hs]
        rfl
    | ended => exact .inl rfl
    | signedIn _ hp _ =>
      rw [h id call hc] at hp
      cases hp
    | named _ _ hp =>
      rw [h id call hc] at hp
      cases hp

/-- Only sends are going on, and nothing is left of a session. -/
structure SignedOut (g : Gateway σ) : Prop where
  sends : g.OnlySends
  session : g.context.session = {}
  forgotten : RemovesTexts σ → g.context.Forgotten

theorem SignedOut.of_ends {g g' : Gateway σ} {change : Change} (hsends : g'.OnlySends)
    (hends : change.ends = true) (hc : g'.context = g.context.after change) : SignedOut g' := by
  refine ⟨hsends, ?_, ?_⟩
  · rw [hc, SessionContext.after_session, Change.session_of_ends hends]
  · intro hr
    rw [hc]
    exact g.context.forgotten_of_ends hr hends

/-- Nothing but an answered refresh brings a session back. -/
theorem SignedOut.step {g : Gateway σ} (h : SignedOut g) {e : Event} (he : e.keepsOut = true)
    (ho : ∀ token, ¬HandsOut token ⟨g, e⟩) : SignedOut (g.step e).1 := by
  have hc : (g.step e).1.context = g.context.edited (g.change? e) := step_context g e
  cases hchange : g.change? e with
  | none =>
    rw [hchange] at hc
    refine ⟨h.sends.step (Event.signsIn_of_keepsOut he), ?_, ?_⟩
    · rw [hc]
      exact h.session
    · rw [hc]
      exact h.forgotten
  | some change =>
    rw [hchange] at hc
    obtain hends | ⟨token, _, -, hout⟩ := h.sends.change he hchange
    · exact .of_ends (h.sends.step (Event.signsIn_of_keepsOut he)) hends hc
    · exact absurd hout (ho token)

/-- Nobody brings a user back. -/
theorem OnlySends.user_step {g : Gateway σ} (h : g.OnlySends) {e : Event}
    (he : e.keepsOut = true) (hu : g.context.session.user = none) :
    (g.step e).1.context.session.user = none := by
  rw [step_context]
  cases hchange : g.change? e with
  | none => exact hu
  | some change =>
    show (g.context.after change).session.user = none
    rw [SessionContext.after_session]
    obtain hends | ⟨token, refresh, rfl, -⟩ := h.change he hchange
    · rw [Change.session_of_ends hends]
    · exact hu

/-! ## Refreshes on the way -/

omit [KeyStore σ] in
/-- A token is handed out only to a call that leads. -/
theorem HandsOut.leader {g : Gateway σ} (hg : Coherent g) {e : Event} {token : String}
    (h : HandsOut token ⟨g, e⟩) : g.leaders ≠ [] := by
  obtain ⟨id, answer, ha, -⟩ := h
  obtain ⟨-, c, hc, hs⟩ := Moment.of_answer ha
  have hid : id ∈ g.leaders := hg.mem_leaders.2 ⟨c, hc, by simpa using hs⟩
  exact List.ne_nil_of_mem hid

/-- No refresh begins where there is no refresh token. -/
theorem leaders_step_of_refresh_none {g : Gateway σ} (hg : Coherent g)
    (hr : g.context.session.refresh = none) (hl : g.leaders = []) (e : Event) :
    (g.step e).1.leaders = [] := by
  rw [hg.leaders_control (step_control g e), hl, List.filter_nil, List.nil_append,
    List.map_eq_nil_iff, List.eq_nil_iff_forall_not_mem]
  rintro ⟨id, request⟩ hm
  obtain ⟨_, _, _, refresh, -, -, -, -, -, hsome, -, -⟩ := (step_control g e).refreshCalls hm
  rw [hr] at hsome
  cases hsome

/-! ## Runs -/

omit [KeyStore σ] in
/-- A sign-out itself hands nothing out. -/
theorem not_handsOut_clear (g : Gateway σ) (token : String) :
    ¬HandsOut token ⟨g, .change .clear⟩ := by
  rintro ⟨id, answer, ha, -⟩
  cases (Moment.of_answer ha).1

/-- What holds after a sign-out of a gateway `g₀` with sends only, as the history goes on. -/
structure AfterSignOut (g₀ g : Gateway σ) (history : List (Moment σ)) : Prop where
  coherent : Coherent g
  sends : g.OnlySends
  user : g.context.session.user = none
  out : (∀ m ∈ history, ∀ token, ¬HandsOut token m) → SignedOut g
  /-- If no refresh was on the way, none has begun since. -/
  alone : g₀.leaders = [] → g.leaders = [] ∧ ∀ m ∈ history, ∀ token, ¬HandsOut token m

theorem afterSignOut_clear {g : Gateway σ} (hg : Coherent g) (h : g.OnlySends) :
    AfterSignOut g (g.step (.change .clear)).1 [⟨g, .change .clear⟩] := by
  have hout : SignedOut (g.step (.change .clear)).1 := .of_ends (h.step rfl) rfl rfl
  refine ⟨hg.step _, hout.sends, by rw [hout.session], fun _ => hout, ?_⟩
  intro hl
  refine ⟨hl, ?_⟩
  intro m hm
  rw [List.mem_singleton.1 hm]
  exact not_handsOut_clear g

theorem AfterSignOut.step {g₀ g : Gateway σ} {history : List (Moment σ)}
    (h : AfterSignOut g₀ g history) {e : Event} (he : e.keepsOut = true) :
    AfterSignOut g₀ (g.step e).1 (history ++ [⟨g, e⟩]) := by
  refine ⟨h.coherent.step e, h.sends.step (Event.signsIn_of_keepsOut he),
    h.sends.user_step he h.user, ?_, ?_⟩
  · intro hno
    have hbefore : SignedOut g := h.out fun m hm => hno m (List.mem_append_left _ hm)
    exact hbefore.step he (hno _ List.mem_concat_self)
  · intro hl
    obtain ⟨hnow, hno⟩ := h.alone hl
    have hsession : g.context.session = {} := (h.out hno).session
    refine ⟨leaders_step_of_refresh_none h.coherent (by rw [hsession]) hnow e, ?_⟩
    intro m hm token hout
    obtain hold | hnew := List.mem_append.1 hm
    · exact hno m hold token hout
    · rw [List.mem_singleton.1 hnew] at hout
      exact hout.leader h.coherent hnow

theorem afterSignOut_run {g : Gateway σ} (hg : Coherent g) (h : g.OnlySends) {later : List Event}
    (hlater : ∀ e ∈ later, e.keepsOut = true) :
    AfterSignOut g (g.run (.change .clear :: later)) (g.history (.change .clear :: later)) := by
  induction later using List.reverseRecOn with
  | nil => exact afterSignOut_clear hg h
  | append_singleton later e ih =>
    rw [← List.cons_append, run_concat, history_concat]
    exact (ih fun e he => hlater e (List.mem_append_left _ he)).step
      (hlater e List.mem_concat_self)

/-- A sign-out with no sign-in going on or beginning later is final, except for a refresh whose
request was on the way then. No user is held ever after. As long as no refresh hands out a token,
nothing is held at all, in memory or in a store from which texts can be removed, and if none was on
the way at the sign-out, none ever does. -/
theorem signed_out_until_refresh_answered (config : Config) (context : SessionContext σ)
    (before later : List Event)
    (hsends : ∀ c ∈ ((start config context).run before).calls, c.purpose = .send)
    (hlater : ∀ e ∈ later, e.keepsOut = true) :
    let g := (start config context).run before
    let history := g.history (.change .clear :: later)
    let g' := g.run (.change .clear :: later)
    g'.context.session.user = none ∧
      ((∀ m ∈ history, ∀ token, ¬HandsOut token m) →
        g'.context.session = {} ∧ g'.context.isAuthenticated = false ∧
        (RemovesTexts σ → g'.context.Forgotten)) ∧
      (g.leaders = [] → ∀ m ∈ history, ∀ token, ¬HandsOut token m) := by
  intro g history g'
  have hg : g.OnlySends := fun _ c hc => hsends c (call?_mem hc)
  have h : AfterSignOut g g' history :=
    afterSignOut_run (coherent_run config context before) hg hlater
  refine ⟨h.user, ?_, fun hl => (h.alone hl).2⟩
  intro hno
  have hout : SignedOut g' := h.out hno
  refine ⟨hout.session, ?_, hout.forgotten⟩
  rw [SessionContext.isAuthenticated, hout.session]
  rfl

/-! A sign-out while a request for a new token is on the way. -/

/-- A call is turned down and leads a refresh. -/
def refreshOnTheWay : List Event := [.send 0 (.new .get "u/0"), .answer 0 (.ok ⟨401, ""⟩)]

/-- The refresh fails after the sign-out, and so does a call that is sent later. -/
def failedRefresh : List Event :=
  [.answer 0 (.error "down"), .send 1 (.new .get "u/1"), .answer 1 (.ok ⟨401, ""⟩)]

/-- The refresh fails, and nothing is left of the session, in memory or in the store. -/
theorem signed_out_after_failed_refresh :
    let g := ((start sampleConfig sampleContext).run refreshOnTheWay).run
      (.change .clear :: failedRefresh)
    g.context.session = {} ∧ g.context.isAuthenticated = false ∧ g.context.Forgotten := by
  have hsends : ∀ c ∈ ((start sampleConfig sampleContext).run refreshOnTheWay).calls,
      c.purpose = .send := by decide +kernel
  have hfailed : ∀ m ∈ ((start sampleConfig sampleContext).run refreshOnTheWay).history
      (.change .clear :: failedRefresh), ∀ a ∈ m.answer? (· = .leading),
      refreshOutcome a.2 = .failed (.refreshFailed "down") := by decide +kernel
  have hno : ∀ m ∈ ((start sampleConfig sampleContext).run refreshOnTheWay).history
      (.change .clear :: failedRefresh), ∀ token, ¬HandsOut token m := by
    rintro m hm token ⟨id, answer, ha, ho⟩
    have hf : refreshOutcome answer = _ := hfailed m hm (id, answer) ha
    rw [ho] at hf
    cases hf
  obtain ⟨hsession, hout, hforgotten⟩ := (signed_out_until_refresh_answered sampleConfig
    sampleContext refreshOnTheWay failedRefresh hsends (by decide)).2.1 hno
  exact ⟨hsession, hout, hforgotten removesTexts_memoryStore⟩

/-- The refresh succeeds, and there is a session again. -/
theorem refresh_undoes_sign_out :
    ¬∀ (config : Config) (context : SessionContext MemoryStore) (before later : List Event),
      (∀ c ∈ ((start config context).run before).calls, c.purpose = .send) →
      (∀ e ∈ later, e.keepsOut = true) →
      (((start config context).run before).run (.change .clear :: later)).context.session = {} := by
  intro h
  have hsends : ∀ c ∈ ((start sampleConfig sampleContext).run refreshOnTheWay).calls,
      c.purpose = .send := by decide +kernel
  have hempty := h sampleConfig sampleContext refreshOnTheWay
    [.answer 0 (.ok ⟨200, "\x7b\"access\":\"b\"\x7d"⟩)] hsends (by decide)
  have haccess : (((start sampleConfig sampleContext).run refreshOnTheWay).run
      [.change .clear, .answer 0 (.ok ⟨200, "\x7b\"access\":\"b\"\x7d"⟩)]).context.session.access =
        some "b" := by decide +kernel
  rw [hempty] at haccess
  cases haccess

end Gateway

end AccessConsole
