import AccessConsole.Proofs.Gateway.Freshness
import AccessConsole.Proofs.Gateway.SharedRefresh
import AccessConsole.Proofs.Session.Texts

/-!
# The status of a session and its tokens

The status is written beside the session and not read off it, and by each change on its own.

* `Moment.change?` — the change that is made to the session.
* `SessionContext.Tells` — the status tells whether there is an access token. Every change keeps it.
* `Informed`, `Informed.step` — what is known of a session since it was restored.
* `refresh_run`, `refresh_of_ended` — once a session has ended, there is no refresh token until
  tokens are set.
* `status_tells_tokens` — this holds in every run from a restored session, over any store.
* `stray_token_is_tried_once` — a session that is restored without an access token.
-/

namespace AccessConsole

/-! ## Changes -/

/-- Tokens are set, in a sign-in or by a refresh. -/
def Change.setsTokens : Change → Bool
  | .establish .. => true
  | .setTokens .. => true
  | _ => false

/-- A change that leaves a refresh token without an access token changes the user only. -/
theorem Change.kept_of_orphaned {change : Change} {s : Session}
    (h : (change.session s).Orphaned) :
    change.setsTokens = false ∧ change.ends = false ∧
      (change.session s).access = s.access ∧ (change.session s).refresh = s.refresh := by
  cases change with
  | establish access refresh user => exact absurd h (Session.not_orphaned_of_access rfl)
  | setTokens access refresh => exact absurd h (Session.not_orphaned_of_access rfl)
  | setUser user => exact ⟨rfl, rfl, rfl, rfl⟩
  | clear => exact absurd h Session.not_orphaned_empty
  | expire => exact absurd h Session.not_orphaned_empty

/-- Only where tokens are set can a refresh token come from. -/
theorem Change.refresh_of_not_setsTokens {change : Change} {s : Session}
    (h : change.setsTokens = false) (hs : s.refresh = none) :
    (change.session s).refresh = none := by
  cases change with
  | establish access refresh user => cases h
  | setTokens access refresh => cases h
  | setUser user => exact hs
  | clear => rfl
  | expire => rfl

variable {σ : Type}

namespace Moment

/-- The change that is made to the session. -/
def change? (m : Moment σ) : Option Change := m.before.change? m.event

/-- Tokens are set. -/
def setsTokens (m : Moment σ) : Bool := m.change?.any Change.setsTokens

/-- The session ends: somebody signs out, or it expires. -/
def ends (m : Moment σ) : Bool := m.change?.any Change.ends

end Moment

variable [KeyStore σ]

/-! ## The status -/

namespace SessionContext

/-- The status tells whether there is an access token. -/
def Tells (context : SessionContext σ) : Prop :=
  context.status = .authenticated ↔ context.session.access ≠ none

theorem Tells.after {context : SessionContext σ} (h : context.Tells) (change : Change) :
    (context.after change).Tells := by
  unfold Tells
  rw [after_session, after_status]
  cases change with
  | establish access refresh user => simp [Change.status?, Change.session]
  | setTokens access refresh => simp [Change.status?, Change.session]
  | setUser user => exact h
  | clear => simp [Change.status?, Change.session]
  | expire => simp [Change.status?, Change.session]

theorem Tells.edited {context : SessionContext σ} (h : context.Tells) (change : Option Change) :
    (context.edited change).Tells := by
  cases change with
  | none => exact h
  | some change => exact h.after change

theorem tells_of_restore {store : σ} {context : SessionContext σ}
    (h : restore store = .ok context) : context.Tells := by
  obtain ⟨access, refresh, user, -, -, -, rfl⟩ := restore_ok h
  cases access <;> simp [Tells]

end SessionContext

namespace Gateway

/-! ## Since the session was restored -/

/-- What is known of a session since it was restored. A refresh token without an access token has
been there from the start: no change but of the user has been made. -/
structure Informed (restored : SessionContext σ) (g : Gateway σ) (history : List (Moment σ)) :
    Prop where
  status : g.context.Tells
  orphaned : g.context.session.Orphaned →
    g.context.session.access = restored.session.access ∧
      g.context.session.refresh = restored.session.refresh ∧
      ∀ m ∈ history, m.setsTokens = false ∧ m.ends = false

theorem Informed.step {restored : SessionContext σ} {g : Gateway σ} {history : List (Moment σ)}
    (h : Informed restored g history) (e : Event) :
    Informed restored (g.step e).1 (history ++ [⟨g, e⟩]) := by
  have hcontext : (g.step e).1.context = g.context.edited (g.change? e) := step_context g e
  refine ⟨hcontext ▸ h.status.edited _, ?_⟩
  rw [hcontext]
  intro ho
  cases hchange : g.change? e with
  | none =>
    rw [hchange] at ho
    obtain ⟨ha, hr, hall⟩ := h.orphaned ho
    refine ⟨ha, hr, ?_⟩
    intro m hm
    obtain hm | hm := List.mem_append.1 hm
    · exact hall m hm
    · rw [List.mem_singleton.1 hm]
      simp [Moment.setsTokens, Moment.ends, Moment.change?, hchange]
  | some change =>
    rw [hchange] at ho
    have ho' : (change.session g.context.session).Orphaned := by
      rw [← g.context.after_session change]
      exact ho
    obtain ⟨hsets, hends, hsame, hsame'⟩ := Change.kept_of_orphaned ho'
    obtain ⟨ha, hr, hall⟩ := h.orphaned (Change.orphaned ho')
    show (g.context.after change).session.access = _ ∧
      (g.context.after change).session.refresh = _ ∧ _
    rw [SessionContext.after_session, hsame, hsame']
    refine ⟨ha, hr, ?_⟩
    intro m hm
    obtain hm | hm := List.mem_append.1 hm
    · exact hall m hm
    · rw [List.mem_singleton.1 hm]
      simp [Moment.setsTokens, Moment.ends, Moment.change?, hchange, hsets, hends]

theorem informed_run (config : Config) {store : σ} {context : SessionContext σ}
    (hrestore : SessionContext.restore store = .ok context) (es : List Event) :
    Informed context ((start config context).run es) ((start config context).history es) := by
  induction es using List.reverseRecOn with
  | nil => exact ⟨SessionContext.tells_of_restore hrestore, fun _ => ⟨rfl, rfl, by simp⟩⟩
  | append_singleton es e ih =>
    rw [run_concat, history_concat]
    exact ih.step e

/-! ## After the session has ended -/

/-- Without a refresh token no request for a new token is sent. -/
theorem refreshCalls_of_refresh_none {g : Gateway σ} (h : g.context.session.refresh = none)
    (e : Event) : (Moment.mk g e).refreshCalls = [] := by
  rw [List.eq_nil_iff_forall_not_mem]
  rintro ⟨id, request⟩ hm
  obtain ⟨_, _, _, refresh, -, -, -, -, -, hr, -, -⟩ := (step_control g e).refreshCalls hm
  rw [h] at hr
  cases hr

/-- No request for a new token is sent in a step that changes the session. -/
theorem refreshCalls_of_ends {m : Moment σ} (h : m.ends = true) : m.refreshCalls = [] := by
  rw [List.eq_nil_iff_forall_not_mem]
  rintro ⟨id, request⟩ hm
  have hnone : m.change? = none := change?_of_refreshCalls hm
  rw [Moment.ends, hnone] at h
  cases h

/-- No refresh token comes up in a step that sets no tokens. -/
theorem refresh_step {g : Gateway σ} {e : Event} (h : g.context.session.refresh = none)
    (he : (Moment.mk g e).setsTokens = false) : (g.step e).1.context.session.refresh = none := by
  rw [step_context]
  cases hchange : g.change? e with
  | none => exact h
  | some change =>
    show (g.context.after change).session.refresh = none
    rw [SessionContext.after_session]
    apply Change.refresh_of_not_setsTokens _ h
    simpa [Moment.setsTokens, Moment.change?, hchange] using he

theorem refresh_of_ends {g : Gateway σ} {e : Event} (he : (Moment.mk g e).ends = true) :
    (g.step e).1.context.session.refresh = none := by
  obtain ⟨change, hchange, hends⟩ := (Option.any_eq_true _ _).1 he
  rw [step_context, show g.change? e = some change from hchange]
  show (g.context.after change).session.refresh = none
  rw [SessionContext.after_session, Change.session_of_ends hends]

/-- Without a refresh token, there is none as long as no tokens are set. -/
theorem refresh_run {g : Gateway σ} (h : g.context.session.refresh = none) {es : List Event}
    (hes : ∀ k ∈ g.history es, k.setsTokens = false) :
    (g.run es).context.session.refresh = none := by
  induction es generalizing g with
  | nil => exact h
  | cons e es ih =>
    obtain ⟨he, hrest⟩ := List.forall_mem_cons.1 hes
    exact ih (refresh_step h he) hrest

/-- After the session has ended there is no refresh token as long as no tokens are set. -/
theorem refresh_of_ended {g : Gateway σ} {es : List Event} {earlier between rest : List (Moment σ)}
    {m n : Moment σ} (hhistory : g.history es = earlier ++ m :: (between ++ n :: rest))
    (hm : m.ends = true) (hbetween : ∀ k ∈ between, k.setsTokens = false) :
    n.before.context.session.refresh = none := by
  obtain ⟨-, es₂, -, -, hlater⟩ := history_around hhistory
  obtain ⟨es₃, -, rfl, hn, -⟩ := history_around hlater.symm
  rw [hn]
  exact refresh_run (refresh_of_ends hm) hbetween

/-- In every run from a session that was restored, over any store: each step makes one change at
most to the session. The status tells at all times whether there is an access token. A refresh token
without an access token was restored so, and since then no tokens have been set and the session has
not ended. Where the session ends no request for a new token is sent, nor is any later one until
tokens have been set. -/
theorem status_tells_tokens (config : Config) {store : σ} {context : SessionContext σ}
    (hrestore : SessionContext.restore store = .ok context) (es : List Event) :
    let history := (start config context).history es
    let now := ((start config context).run es).context
    (∀ m ∈ history, m.after.context = m.before.context.edited m.change?) ∧
      (now.status = .authenticated ↔ now.session.access ≠ none) ∧
      (now.session.access = none → now.session.refresh ≠ none →
        KeyStore.get store accessKey = .ok none ∧
          KeyStore.get store refreshKey = .ok now.session.refresh ∧
          ∀ m ∈ history, m.setsTokens = false ∧ m.ends = false) ∧
      (∀ m ∈ history, m.ends = true → m.refreshCalls = []) ∧
      ∀ earlier m between n rest, history = earlier ++ m :: (between ++ n :: rest) →
        m.ends = true → n.refreshCalls ≠ [] → ∃ k ∈ between, k.setsTokens = true := by
  intro history now
  have h : Informed context ((start config context).run es) history :=
    informed_run config hrestore es
  refine ⟨fun m _ => step_context m.before m.event, h.status, ?_,
    fun m _ => refreshCalls_of_ends, ?_⟩
  · intro ha hr
    obtain ⟨ha', hr', hall⟩ := h.orphaned ⟨ha, hr⟩
    obtain ⟨access, refresh, user, haccess, hrefresh, -, rfl⟩ := SessionContext.restore_ok hrestore
    refine ⟨?_, ?_, hall⟩
    · rw [haccess, ← ha]
      exact congrArg _ ha'.symm
    · rw [hrefresh]
      exact congrArg _ hr'.symm
  · intro earlier m between n rest hhistory hm hn
    by_contra hnone
    apply hn
    have hbetween : ∀ k ∈ between, k.setsTokens = false := by
      intro k hk
      rw [← Bool.not_eq_true]
      intro hsets
      exact hnone ⟨k, hk, hsets⟩
    exact refreshCalls_of_refresh_none (refresh_of_ended hhistory hm hbetween) n.event

/-- A store that holds a refresh token and nothing else. -/
def strayToken : MemoryStore := ⟨[("refresh_token", "r")]⟩

/-- The session that is restored from it. -/
def strayContext : SessionContext MemoryStore :=
  { store := strayToken, session := { refresh := some "r" }, status := .signedOut }

/-- The refresh of the first call fails, and a second call is turned down as well. -/
def strayRun : List Event := [
  .send 0 (.new .get "u/0"),
  .answer 0 (.ok ⟨401, ""⟩),
  .answer 0 (.error "down"),
  .change (.setUser (.ofEmail "c@x")),
  .send 1 (.new .get "u/1"),
  .answer 1 (.ok ⟨401, ""⟩)]

/-- The refresh token is tried once, and nobody is told to be signed in, then or before. -/
theorem stray_token_is_tried_once :
    SessionContext.restore strayToken = .ok strayContext ∧
      let history := (start sampleConfig strayContext).history strayRun
      let now := ((start sampleConfig strayContext).run strayRun).context
      (refreshCallsOf history).map Prod.fst = [0] ∧
        now.session.access = none ∧ now.status ≠ .authenticated ∧
        ∀ earlier m between n rest, history = earlier ++ m :: (between ++ n :: rest) →
          m.ends = true → n.refreshCalls = [] := by
  have hrestore : SessionContext.restore strayToken = .ok strayContext := by rfl
  have hunset : ∀ m ∈ (start sampleConfig strayContext).history strayRun,
      m.setsTokens = false := by decide +kernel
  have hnone : ((start sampleConfig strayContext).run strayRun).context.session.access = none := by
    decide +kernel
  obtain ⟨-, hstatus, -, -, hlater⟩ := status_tells_tokens sampleConfig hrestore strayRun
  refine ⟨hrestore, by decide +kernel, hnone, fun h => hstatus.1 h hnone, ?_⟩
  intro earlier m between n rest hhistory hm
  by_contra hn
  obtain ⟨k, hk, hsets⟩ := hlater earlier m between n rest hhistory hm hn
  have hmem : k ∈ (start sampleConfig strayContext).history strayRun := by
    rw [hhistory]
    simp [hk]
  rw [hunset k hmem] at hsets
  cases hsets

end Gateway

end AccessConsole
