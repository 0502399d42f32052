import AccessConsole.Proofs.Gateway.Freshness
import AccessConsole.Proofs.Gateway.Lifetime
import AccessConsole.Proofs.Gateway.SharedRefresh
import AccessConsole.Proofs.Gateway.SingleFlight
import Mathlib.Logic.Function.Basic

/-!
# Where a session comes from

What a session holds should come from one sign-in. A refresh and the lookup of an administrator are
answered later, and nothing tells the gateway then that the session is still the one they were
asked for. If the tokens of a sign-in have arrived meanwhile, parts of two sign-ins are mixed.

* `Origins` — the sign-in that each part of the session comes from.
* `originsOf` — the same, read off a history.
* `Overtaken`, `WritesLate` — a call that was pending when the tokens of a sign-in arrived, and such
  a call that writes to the session when it is answered.
* `Unmixed`, `Unmixed.step` — what a session and the pending calls come from, unless they have been
  overtaken.
* `session_has_one_origin` — the session comes from one sign-in in every run in which nothing is
  written late.
* `overtaken_answers_mix_sign_ins` — runs in which it is.
-/

namespace AccessConsole

/-! ## Origins -/

/-- The sign-in that each part of the session comes from. Sign-ins are numbered as their tokens
arrive, and 0 is the session that was there at the start. -/
structure Origins where
  latest : Nat := 0
  access : Nat := 0
  refresh : Nat := 0
  user : Nat := 0
  /-- The sign-in whose tokens came with this call. -/
  brought : CallId → Nat := fun _ => 0
  /-- Where the refresh token came from that this call last asked for a new token with. -/
  asked : CallId → Nat := fun _ => 0

namespace Origins

/-- Calls ask for a new token with the refresh token of the session. -/
def ask (o : Origins) (ids : List CallId) : Origins :=
  { o with asked := fun id => if id ∈ ids then o.refresh else o.asked id }

/-- The answer to a call makes a change. A new token comes from where the refresh token came from,
and a user from the sign-in of the call. -/
def write (o : Origins) (id : CallId) : Change → Origins
  | .establish .. =>
    { o with
      latest := o.latest + 1
      access := o.latest + 1
      refresh := o.latest + 1
      user := o.latest + 1
      brought := Function.update o.brought id (o.latest + 1) }
  | .setTokens _ refresh =>
    { o with
      access := o.asked id
      refresh := if refresh.isSome then o.asked id else o.refresh }
  | .setUser _ => { o with user := o.brought id }
  | .clear => o
  | .expire => o

variable {σ : Type} [KeyStore σ]

/-- The origins after a step. -/
def note (o : Origins) (m : Moment σ) : Origins :=
  let asked := o.ask (m.refreshCalls.map (·.1))
  match m.event, m.before.change? m.event with
  | .answer id _, some change => asked.write id change
  | _, _ => asked

end Origins

/-- The tokens of a sign-in are new. -/
def Change.signsIn : Change → Bool
  | .establish .. => true
  | _ => false

/-- Only new tokens begin a sign-in, and bring it with their call. -/
theorem Origins.write_kept {change : Change} (h : change.signsIn = false) (o : Origins)
    (id : CallId) :
    (o.write id change).latest = o.latest ∧ (o.write id change).asked = o.asked ∧
      (o.write id change).brought = o.brought := by
  cases change with
  | establish _ _ _ => cases h
  | _ => exact ⟨rfl, rfl, rfl⟩

/-- All that a session holds comes from one sign-in. -/
structure Session.ComesFrom (s : Session) (o : Origins) (n : Nat) : Prop where
  access : s.access ≠ none → o.access = n
  refresh : s.refresh ≠ none → o.refresh = n
  user : s.user ≠ none → o.user = n

theorem Session.ComesFrom.empty (o : Origins) (n : Nat) : Session.ComesFrom {} o n :=
  ⟨fun h => absurd rfl h, fun h => absurd rfl h, fun h => absurd rfl h⟩

/-- What is written from the latest sign-in leaves all of the session from the latest sign-in. -/
theorem Session.ComesFrom.write {s : Session} {o : Origins} (h : s.ComesFrom o o.latest)
    {id : CallId} {change : Change}
    (hasked : ∀ access refresh, change = .setTokens access refresh → o.asked id = o.latest)
    (hbrought : ∀ user, change = .setUser user → o.brought id = o.latest) :
    (change.session s).ComesFrom (o.write id change) (o.write id change).latest := by
  cases change with
  | establish access refresh user => exact ⟨fun _ => rfl, fun _ => rfl, fun _ => rfl⟩
  | setTokens access refresh =>
    have ha : o.asked id = o.latest := hasked access refresh rfl
    refine ⟨fun _ => ha, ?_, h.user⟩
    intro hr
    cases refresh with
    | some _ => exact ha
    | none => exact h.refresh hr
  | setUser user => exact ⟨h.access, h.refresh, fun _ => hbrought user rfl⟩
  | clear => exact .empty _ _
  | expire => exact .empty _ _

/-- The session is given something from outside. -/
def Event.grants : Event → Bool
  | .change c => !c.ends
  | _ => false

/-- The call has asked for a new token. -/
def Call.awaitsToken (c : Call) : Bool := c.stage = .leading

/-- The call is a sign-in that has its tokens, and has still to learn who has signed in. -/
def Call.awaitsUser (c : Call) : Bool := c.purpose ≠ .send && c.stage ≠ .exchange

variable {σ : Type}

/-- The tokens of a sign-in arrive. -/
def Moment.signsIn (m : Moment σ) : Bool := (m.before.change? m.event).any Change.signsIn

namespace Gateway

/-! ## Calls that are overtaken -/

/-- The tokens of a sign-in have arrived while the call was pending in this way, and it has been
going on ever since. -/
def Overtaken (pending : Call → Bool) (id : CallId) (history : List (Moment σ)) : Prop :=
  ∃ earlier m since, history = earlier ++ m :: since ∧ m.signsIn = true ∧
    (m.before.call? id).any pending = true ∧ ∀ n ∈ since, n.before.call? id ≠ none

/-- The answer to a call that has been overtaken is written to the session: a token that was asked
for before, or a user who has signed in before. -/
inductive WritesLate (history : List (Moment σ)) (g : Gateway σ) (e : Event) : Prop
  | token {id : CallId} {answer : Except String Response} {access : String}
      {refresh : Option String} :
    e = .answer id answer → g.change? e = some (.setTokens access refresh) →
    Overtaken Call.awaitsToken id history → WritesLate history g e
  | user {id : CallId} {answer : Except String Response} {user : CurrentUser} :
    e = .answer id answer → g.change? e = some (.setUser user) →
    Overtaken Call.awaitsUser id history → WritesLate history g e

theorem Overtaken.concat {pending : Call → Bool} {id : CallId} {history : List (Moment σ)}
    (h : Overtaken pending id history) {m : Moment σ} (hm : m.before.call? id ≠ none) :
    Overtaken pending id (history ++ [m]) := by
  obtain ⟨earlier, first, since, rfl, hsigns, hpending, hsince⟩ := h
  refine ⟨earlier, first, since ++ [m], by simp, hsigns, hpending, ?_⟩
  intro n hn
  obtain hold | hnew := List.mem_append.1 hn
  · exact hsince n hold
  · rw [List.mem_singleton.1 hnew]
    exact hm

/-- The tokens of a sign-in arrive while the call is pending. -/
theorem Overtaken.now {pending : Call → Bool} {id : CallId} {history : List (Moment σ)}
    {m : Moment σ} {c : Call} (hsigns : m.signsIn = true) (hc : m.before.call? id = some c)
    (hpending : pending c = true) : Overtaken pending id (history ++ [m]) := by
  refine ⟨history, m, [], rfl, hsigns, ?_, List.forall_mem_nil _⟩
  rw [hc]
  exact hpending

/-- A pending call that is to write from the latest sign-in still does after a step, or it has been
overtaken. -/
theorem Overtaken.or_kept {pending : Call → Bool} {id : CallId} {history : List (Moment σ)}
    {m : Moment σ} {c : Call} {p : Prop} (h : p ∨ Overtaken pending id history)
    (hc : m.before.call? id = some c) (hpending : pending c = true) :
    (p ∧ m.signsIn = false) ∨ Overtaken pending id (history ++ [m]) := by
  obtain hp | hover := h
  · cases hsigns : m.signsIn with
    | false => exact .inl ⟨hp, rfl⟩
    | true => exact .inr (.now hsigns hc hpending)
  · exact .inr (hover.concat (by rw [hc]; simp))

variable [KeyStore σ]

/-- Nothing is written late in a run in which no call is pending when the tokens of a sign-in
arrive. -/
theorem not_writesLate_of_quiet {g : Gateway σ} {es : List Event}
    (hquiet : ∀ m ∈ g.history es, m.signsIn = true →
      ∀ c ∈ m.before.calls, c.awaitsToken = false ∧ c.awaitsUser = false)
    (before : List Event) (e : Event) (hupTo : before ++ [e] <+: es) :
    ¬WritesLate (g.history before) (g.run before) e := by
  have hnone : ∀ {pending : Call → Bool} {id : CallId},
      (∀ c, pending c = true → ¬(c.awaitsToken = false ∧ c.awaitsUser = false)) →
      ¬Overtaken pending id (g.history before) := by
    rintro pending id hp ⟨earlier, m, since, hsplit, hsigns, hpending, -⟩
    obtain ⟨c, hc, hpc⟩ := (Option.any_eq_true _ _).1 hpending
    have hm : m ∈ g.history es := by
      obtain ⟨rest, rfl⟩ := hupTo
      rw [List.append_assoc, history_append, hsplit]
      simp
    exact hp c hpc (hquiet m hm hsigns c (call?_mem hc))
  rintro (⟨-, -, hover⟩ | ⟨-, -, hover⟩)
  · exact hnone (fun c hc hq => by simp [hc] at hq) hover
  · exact hnone (fun c hc hq => by simp [hc] at hq) hover

/-! ## Steps -/

/-- The origins after a history. -/
def originsOf (history : List (Moment σ)) : Origins := history.foldl Origins.note {}

theorem originsOf_concat (history : List (Moment σ)) (m : Moment σ) :
    originsOf (history ++ [m]) = (originsOf history).note m := by
  unfold originsOf
  rw [List.foldl_concat]

/-- The session comes from the latest sign-in, and so does what pending calls are to write, unless
they have been overtaken. -/
structure Unmixed (g : Gateway σ) (o : Origins) (history : List (Moment σ)) : Prop where
  session : g.context.session.ComesFrom o o.latest
  leading : ∀ id ∈ g.leaders, o.asked id = o.latest ∨ Overtaken Call.awaitsToken id history
  lookups : ∀ id c email, g.call? id = some c → c.purpose = .login email → c.stage ≠ .exchange →
    o.brought id = o.latest ∨ Overtaken Call.awaitsUser id history

/-- Unless the tokens of a sign-in arrive, origins are only noted of calls that ask for a new token
and of what is written. -/
theorem note_kept (o : Origins) {m : Moment σ} (h : m.signsIn = false) :
    (o.note m).latest = o.latest ∧
      (o.note m).asked = (o.ask (m.refreshCalls.map (·.1))).asked ∧
      (o.note m).brought = o.brought := by
  unfold Origins.note
  split
  · rename_i id answer change _ hchange
    have hkept : change.signsIn = false := by
      rw [Moment.signsIn, hchange] at h
      exact h
    exact Origins.write_kept hkept _ id
  · exact ⟨rfl, rfl, rfl⟩

/-- No call asks for a new token in a step that writes to the session. -/
theorem note_answer (o : Origins) {g : Gateway σ} {id : CallId} {answer : Except String Response}
    {change : Change} (h : g.change? (.answer id answer) = some change) :
    o.note ⟨g, .answer id answer⟩ = o.write id change := by
  have hnone : (Moment.mk g (.answer id answer)).refreshCalls = [] := by
    rw [List.eq_nil_iff_forall_not_mem]
    rintro ⟨j, request⟩ hm
    rw [change?_of_refreshCalls hm] at h
    cases h
  have hask : o.ask [] = o := by simp [Origins.ask]
  simp only [Origins.note, h, hnone, List.map_nil, hask]

section

variable {g : Gateway σ} {o : Origins} {history : List (Moment σ)} {e : Event}

/-- A call that leads after a step has asked with a refresh token of the latest sign-in, and no
sign-in has come in between, or it has been overtaken. -/
theorem Unmixed.leads (hg : Coherent g) (h : Unmixed g o history) {id : CallId}
    (hid : id ∈ (g.step e).1.leaders) :
    ((o.ask ((refreshCalls (g.step e)).map (·.1))).asked id = o.latest ∧
      (Moment.mk g e).signsIn = false) ∨ Overtaken Call.awaitsToken id (history ++ [⟨g, e⟩]) := by
  simp only [Origins.ask]
  by_cases hm : id ∈ (refreshCalls (g.step e)).map (·.1)
  · rw [if_pos hm]
    left
    obtain ⟨⟨_, request⟩, hcall, rfl⟩ := List.mem_map.1 hm
    obtain ⟨_, _, _, refresh, -, -, -, -, -, hr, -, -⟩ := (step_control g e).refreshCalls hcall
    refine ⟨h.session.refresh (by rw [hr]; simp), ?_⟩
    show (g.change? e).any _ = false
    rw [change?_of_refreshCalls hcall]
    rfl
  · rw [if_neg hm]
    rw [hg.leaders_control (step_control g e)] at hid
    have hold : id ∈ g.leaders := by
      obtain hold | hnew := List.mem_append.1 hid
      · exact (List.mem_filter.1 hold).1
      · exact absurd hnew hm
    obtain ⟨c, hc, hs⟩ := hg.mem_leaders.1 hold
    exact Overtaken.or_kept (h.leading id hold) hc (by simpa [Call.awaitsToken] using hs)

/-- A sign-in that has its tokens is the latest one, or it has been overtaken. -/
theorem Unmixed.looksUp (hg : Coherent g) (h : Unmixed g o history) {id : CallId} {c' : Call}
    {email : String} (hc' : (g.step e).1.call? id = some c') (hp : c'.purpose = .login email)
    (hs : c'.stage ≠ .exchange) :
    ((o.brought id = o.latest ∧ (Moment.mk g e).signsIn = false) ∨
        Overtaken Call.awaitsUser id (history ++ [⟨g, e⟩])) ∨
      ∃ answer, ∃ tokens : TokenPair, e = .answer id answer ∧
        g.change? e = some (.establish tokens.access tokens.refresh (.ofEmail email)) := by
  refine (hg.past_exchange hc' hp hs).imp_left ?_
  rintro ⟨c, hc, hpc, hsc⟩
  exact Overtaken.or_kept (h.lookups id c email hc hpc hsc) hc
    (by simp [Call.awaitsUser, hpc, hsc])

/-- What is not written late leaves all of the session from one sign-in. -/
theorem Unmixed.session_step (hg : Coherent g) (h : Unmixed g o history)
    (hgrants : e.grants = false) (hlate : ¬WritesLate history g e) :
    (g.step e).1.context.session.ComesFrom (o.note ⟨g, e⟩) (o.note ⟨g, e⟩).latest := by
  rw [step_context]
  cases hchange : g.change? e with
  | none =>
    have hnote : o.note ⟨g, e⟩ = o.ask ((refreshCalls (g.step e)).map (·.1)) := by
      simp only [Origins.note, hchange]
      rfl
    rw [hnote]
    exact ⟨h.session.access, h.session.refresh, h.session.user⟩
  | some change =>
    rw [SessionContext.edited, SessionContext.after_session]
    obtain rfl | ⟨id, answer, call, rfl, hc, hw⟩ := change?_cases hchange
    · -- Somebody signs out.
      have hends : change.ends = true := by simpa [Event.grants] using hgrants
      rw [Change.session_of_ends hends]
      exact .empty _ _
    · rw [note_answer o hchange]
      refine h.session.write ?_ ?_
      · rintro access refresh rfl
        have hl : id ∈ g.leaders := hg.mem_leaders.2 ⟨call, hc, hw.stage_of_setTokens rfl⟩
        obtain hasked | hover := h.leading id hl
        · exact hasked
        · exact absurd (.token rfl hchange hover) hlate
      · rintro user rfl
        obtain ⟨⟨email, hp⟩, hs⟩ := hw.login_of_setUser rfl
        obtain hbrought | hover := h.lookups id call email hc hp hs
        · exact hbrought
        · exact absurd (.user rfl hchange hover) hlate

/-- A step in which nothing is written late or from outside keeps all of the session from one
sign-in. -/
theorem Unmixed.step (hg : Coherent g) (h : Unmixed g o history) (hgrants : e.grants = false)
    (hlate : ¬WritesLate history g e) :
    Unmixed (g.step e).1 (o.note ⟨g, e⟩) (history ++ [⟨g, e⟩]) := by
  refine ⟨h.session_step hg hgrants hlate, ?_, ?_⟩
  · intro id hid
    refine (h.leads hg hid).imp_left ?_
    rintro ⟨hasked, hno⟩
    obtain ⟨hlatest, ha, -⟩ := note_kept o hno
    rw [hlatest, ha]
    exact hasked
  · intro id c' email hc' hp hs
    obtain hkept | ⟨answer, tokens, rfl, hnew⟩ := h.looksUp hg hc' hp hs
    · refine hkept.imp_left ?_
      rintro ⟨hb, hno⟩
      obtain ⟨hlatest, -, hbrought⟩ := note_kept o hno
      rw [hlatest, hbrought]
      exact hb
    · rw [note_answer o hnew]
      exact .inl (Function.update_self id _ _)

end

/-! ## Runs -/

theorem unmixed_run {config : Config} {context : SessionContext σ} {es : List Event}
    (hgrants : ∀ e ∈ es, e.grants = false)
    (hlate : ∀ before e, before ++ [e] <+: es →
      ¬WritesLate ((start config context).history before) ((start config context).run before) e) :
    Unmixed ((start config context).run es) (originsOf ((start config context).history es))
      ((start config context).history es) := by
  induction es using List.reverseRecOn with
  | nil =>
    refine ⟨⟨fun _ => rfl, fun _ => rfl, fun _ => rfl⟩, ?_, ?_⟩
    · rintro id ⟨⟩
    · rintro id c email ⟨⟩
  | append_singleton es e ih =>
    rw [run_concat, history_concat, originsOf_concat]
    have hbefore := ih (fun e he => hgrants e (List.mem_append_left _ he))
      fun before e hupTo => hlate before e (hupTo.trans (List.prefix_append _ _))
    exact hbefore.step (coherent_run config context es) (hgrants e List.mem_concat_self)
      (hlate es e List.prefix_rfl)

/-- All that a session holds comes from the latest sign-in, as long as no call writes to it that was
still waiting for a new token or for the lookup of its administrator when the tokens of that sign-in
arrived. -/
theorem session_has_one_origin (config : Config) (context : SessionContext σ) (es : List Event)
    (hgrants : ∀ e ∈ es, e.grants = false)
    (hlate : ∀ before e, before ++ [e] <+: es →
      ¬WritesLate ((start config context).history before) ((start config context).run before) e) :
    let origins := originsOf ((start config context).history es)
    ((start config context).run es).context.session.ComesFrom origins origins.latest :=
  (unmixed_run hgrants hlate).session

/-! Sign-ins with a lookup, and a refresh of the session that was there at the start. -/

/-- The session is refreshed, and then somebody signs in and is looked up. -/
def refreshThenSignIn : List Event := [
  .send 0 (.new .get "u/0"), .answer 0 (.ok ⟨401, ""⟩),
  .answer 0 (.ok ⟨200, "\x7b\"access\":\"b\"\x7d"⟩), .answer 0 (.ok ⟨200, ""⟩),
  .login 1 "c@x" "p", .answer 1 (tokensAnswer "c" "s"), .answer 1 (.ok ⟨200, "\x7b\"id\":7\x7d"⟩)]

/-- Tokens and user are those of the sign-in. -/
theorem sign_in_after_refresh_has_one_origin :
    let origins := originsOf ((start lookupConfig sampleContext).history refreshThenSignIn)
    ((start lookupConfig sampleContext).run refreshThenSignIn).context.session.ComesFrom origins
      origins.latest := by
  refine session_has_one_origin lookupConfig sampleContext refreshThenSignIn (by decide)
    (not_writesLate_of_quiet ?_)
  decide +kernel

/-- Somebody signs in while a refresh is on the way. -/
def signInDuringRefresh : List Event := [
  .send 0 (.new .get "u/0"), .answer 0 (.ok ⟨401, ""⟩),
  .login 1 "c@x" "p", .answer 1 (tokensAnswer "c" "s"),
  .answer 0 (.ok ⟨200, "\x7b\"access\":\"b\"\x7d"⟩)]

/-- Somebody signs in while who signed in before is looked up. -/
def signInDuringLookup : List Event := [
  .login 0 "b@x" "p", .answer 0 (tokensAnswer "b" "r"),
  .login 1 "c@x" "p", .answer 1 (tokensAnswer "c" "s"),
  .answer 1 (.ok ⟨200, "\x7b\"id\":7\x7d"⟩), .answer 0 (.ok ⟨200, "\x7b\"id\":6\x7d"⟩)]

/-- The session after some events comes from more than one sign-in. -/
def Mixed (es : List Event) : Prop :=
  ¬∃ n, ((start lookupConfig sampleContext).run es).context.session.ComesFrom
    (originsOf ((start lookupConfig sampleContext).history es)) n

theorem mixed_of_differ {es : List Event}
    (hheld : let s := ((start lookupConfig sampleContext).run es).context.session
      s.access ≠ none ∧ s.refresh ≠ none ∧ s.user ≠ none)
    (hdiffer : let o := originsOf ((start lookupConfig sampleContext).history es)
      ¬(o.access = o.refresh ∧ o.refresh = o.user)) : Mixed es := by
  rintro ⟨n, ha, hr, hu⟩
  obtain ⟨haccess, hrefresh, huser⟩ := hheld
  exact hdiffer ⟨(ha haccess).trans (hr hrefresh).symm, (hr hrefresh).trans (hu huser).symm⟩

/-- In the one run the session holds the access token of the old session and the refresh token of
the new one, in the other the tokens of one sign-in and the user of another. -/
theorem overtaken_answers_mix_sign_ins : Mixed signInDuringRefresh ∧ Mixed signInDuringLookup :=
  ⟨mixed_of_differ (by decide +kernel) (by decide +kernel),
    mixed_of_differ (by decide +kernel) (by decide +kernel)⟩

end Gateway

end AccessConsole
