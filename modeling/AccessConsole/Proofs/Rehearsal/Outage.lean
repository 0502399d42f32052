import AccessConsole.Proofs.Gateway.Progress
import AccessConsole.Proofs.Rehearsal.Rest
import AccessConsole.Proofs.Session.Texts
import AccessConsole.Rehearsal.Launch

/-!
# Servers that cannot be reached

* `Unreached` — the session is as it was, no refresh is going on, and no server answers.
* `Unreached.carryOut` — where no server answers, only a sign-out changes the session.
* `Launch.run_unreachable` — a program that cannot reach its server changes no file, unless it is
  told to sign out.
-/

namespace AccessConsole.Rehearsal

open Gateway (Coherent)

variable {σ : Type} {r : Rehearsal σ} {id : CallId} {purpose : Purpose}
  {context : SessionContext σ}

theorem answer_unreachable (text : String) (s : Sight) :
    (Script.unreachable text).answer s = (.error text, Script.unreachable text) := by
  simp [Script.unreachable, Script.answer, Rule.applies]

/-- The session is as it was before, no refresh is going on, and the server cannot be reached. -/
structure Unreached (context : SessionContext σ) (r : Rehearsal σ) : Prop where
  coherent : Coherent r.gateway
  context : r.gateway.context = context
  phase : r.gateway.phase ≠ .refreshing
  script : ∃ text, r.script = Script.unreachable text

/-- Without a server no request is answered. -/
theorem Unreached.answers (hu : Unreached context r) {request : Request}
    {reply : Except String Response} (ha : Answers r request reply) :
    ∃ text, reply = .error text := by
  obtain ⟨text, ht⟩ := hu.script
  cases ha with
  | server =>
    rw [ht, answer_unreachable]
    exact ⟨text, rfl⟩
  | gate => exact ⟨closedGate, rfl⟩

variable [KeyStore σ]

/-- An event that is no answer of a server, and that makes no change to the session. -/
theorem Happened.unreached {e : Event} {moved : Rehearsal σ × List Effect}
    (h : Happened r e moved) (hu : Unreached context r)
    (he : ∀ id response, e ≠ .answer id (.ok response))
    (hcontext : (r.gateway.step e).1.context = r.gateway.context) : Unreached context moved.1 where
  coherent := h.coherent hu.coherent
  context := by rw [h.gateway, hcontext, hu.context]
  phase := by
    rw [h.gateway]
    exact Gateway.phase_of_unanswered hu.phase he
  script := by
    obtain ⟨text, ht⟩ := hu.script
    refine ⟨text, ?_⟩
    obtain hs | ⟨sight, hs⟩ := h.script
    · rw [hs, ht]
    · rw [hs, ht, answer_unreachable]

theorem Unreached.unanswered {j : CallId} {text : String} {moved : Rehearsal σ × List Effect}
    (hu : Unreached context r) (h : Happened r (.answer j (.error text)) moved) :
    Unreached context moved.1 := by
  refine h.unreached hu ?_ (hu.coherent.context_of_unanswered hu.phase j text)
  rintro id response ⟨⟩

theorem Unreached.perform (hu : Unreached context r) (e : Effect) :
    Unreached context (r.perform e).1 := by
  cases e with
  | dispatch j request =>
    show Unreached context (r.dispatch j request).1
    obtain ⟨reply, ha, hm⟩ | hm := dispatch_cases r j request
    · obtain ⟨text, rfl⟩ := hu.answers ha
      exact hu.unanswered hm
    · refine ⟨?_, ?_, ?_, ?_⟩
      · rw [hm.gateway]
        exact hu.coherent
      · rw [hm.gateway]
        exact hu.context
      · rw [hm.gateway]
        exact hu.phase
      · rw [hm.script]
        exact hu.script
  | wake j => exact ⟨hu.coherent, hu.context, hu.phase, hu.script⟩
  | finish j result => exact ⟨hu.coherent, hu.context, hu.phase, hu.script⟩

theorem Unreached.goOn (hu : Unreached context r) (w : Woken) :
    Unreached context (r.goOn w).1 := by
  obtain ⟨e, hb, hm⟩ := goOn_happened r w
  cases hb with
  | admitted j request =>
    have hserver : Answers r request (r.script.answer (Sight.ofRequest request)).1 := .server
    obtain ⟨text, ht⟩ := hu.answers hserver
    rw [ht] at hm
    exact hu.unanswered hm
  | turnedAway j => exact hu.unanswered hm
  | released j =>
    refine hm.unreached hu ?_ ?_
    · rintro id response ⟨⟩
    · rw [Gateway.step_context]
      rfl

/-- Where the server cannot be reached, a call that begins leaves the session as it was. -/
theorem Unreached.after (hu : Unreached context r) {e : Event}
    (he : e.started? = some (id, purpose)) : (r.after e).gateway.context = context := by
  have hm := (Noted.refl r).happen e
  have hbegun : Unreached context (r.happen e).1 := by
    refine hm.unreached hu ?_ ?_
    · rintro j response rfl
      cases he
    · rw [Gateway.step_context]
      cases e <;> first | rfl | cases he
  have hrest := comesToRest_run hbegun.coherent (r.happen e).2
  refine (hrest.keeps (P := fun r _ => Unreached context r) ?_ ?_ hbegun).1.context
  · intro r e _ h
    exact h.perform e
  · intro r w rest _ h
    have hless : Unreached context { r with woken := rest } :=
      ⟨h.coherent, h.context, h.phase, h.script⟩
    exact hless.goOn w

/-- Where the server cannot be reached, only a sign-out changes the session. -/
theorem Unreached.carryOut (hu : Unreached context r) {plan : Plan} (hplan : plan ≠ .logout) :
    (r.carryOut plan).2.gateway.context = context := by
  cases plan with
  | finish report => exact hu.context
  | logout => exact absurd rfl hplan
  | login email password => exact hu.after (e := .login 0 email password) rfl
  | call request report => exact hu.after (e := .send 0 request) rfl

end AccessConsole.Rehearsal

namespace AccessConsole

open Rehearsal (Script)

/-- Only the command to sign out is carried out by signing out. -/
theorem Command.plan_ne_logout {command : Command} (h : command ≠ .logout) (config : Config)
    (session : Session) (status : AuthStatus) (input : Bytes) :
    command.plan config session status input ≠ .logout := by
  cases command with
  | login email password =>
    cases password with
    | some password => simp [Command.plan]
    | none =>
      unfold Command.plan
      simp only
      split <;> simp
  | logout => exact absurd rfl h
  | status => simp [Command.plan]
  | request method path data =>
    unfold Command.plan Plan.forRequest
    simp only
    split
    · simp
    · split
      · simp
      · split <;> simp
  | resource command =>
    unfold Command.plan
    simp only
    split_ifs
    · simp
    · split <;> simp

/-- A program that cannot reach its server changes no file, unless it is told to sign out. -/
theorem Launch.run_unreachable (p : Launch) (text : String) :
    (p.run (Script.unreachable text)).2 = p.files ∨
      ∃ settings, commandLine.read p.environment p.arguments = .ok (settings, .logout) := by
  unfold Launch.run
  cases hread : commandLine.read p.environment p.arguments with
  | error refusal => exact .inl rfl
  | ok found =>
    obtain ⟨settings, command⟩ := found
    by_cases hcommand : command = .logout
    · exact .inr ⟨settings, by rw [hcommand]⟩
    left
    simp only
    cases hrestore : SessionContext.restore
        (⟨settings.sessionPath p.environment, p.files⟩ : FileStore) with
    | error e => rfl
    | ok context =>
      have hunreached : Rehearsal.Unreached context
          { gateway := .start (settings.config p.environment) context
            script := Script.unreachable text } :=
        ⟨Gateway.coherent_start _ _, rfl, by simp [Gateway.start], text, rfl⟩
      obtain ⟨_, _, _, -, -, -, hcontext⟩ := SessionContext.restore_ok hrestore
      have hkept := hunreached.carryOut (command.plan_ne_logout hcommand
        (settings.config p.environment) context.session context.status p.input)
      have hstore : context.store.files = p.files := by rw [hcontext]
      exact (congrArg (fun c : SessionContext FileStore => c.store.files) hkept).trans hstore

end AccessConsole
