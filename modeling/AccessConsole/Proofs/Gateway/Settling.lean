import AccessConsole.Proofs.Gateway.Transition

/-!
# A call that is alone

While one call is going on and nothing else happens, all that comes is answers to its requests.

* `Post`, `Settles` — whatever is answered, the call comes to an end, and then a postcondition holds
  of what was sent and answered, of the result, and of the gateway.
* `Settles.mono`, `Settles.run` — a weaker postcondition, and the run for given answers.
* `Gateway.single` — a gateway with one call, and what the call does there.
-/

namespace AccessConsole.Gateway

variable {σ : Type} [KeyStore σ]

/-- Requests with their answers, in order. -/
abbrev Exchanges := List (Request × Except String Response)

/-- What is to hold when a call is over: of its exchanges and its result, of the context before the
last event, and of the gateway. -/
abbrev Post (σ : Type) :=
  Exchanges → Except GatewayError Reply → SessionContext σ → Gateway σ → Prop

/-- Whatever is answered to the requests of a call, after a move it comes to an end, and then the
postcondition holds. The context is the one before the move. -/
inductive Settles (id : CallId) : Post σ → SessionContext σ → Moved σ → Prop
  | ended {post : Post σ} {before : SessionContext σ} {g : Gateway σ}
    {result : Except GatewayError Reply} :
    post [] result before g → Settles id post before (g, [.finish id result])
  | sent {post : Post σ} {before : SessionContext σ} {g : Gateway σ} {request : Request} :
    (∀ answer, Settles id (fun rest => post ((request, answer) :: rest)) g.context
      (g.step (.answer id answer))) →
    Settles id post before (g, [.dispatch id request])

theorem Settles.mono {id : CallId} {post post' : Post σ} {before : SessionContext σ} {m : Moved σ}
    (h : Settles id post before m)
    (himp : ∀ exchanges result last g, post exchanges result last g →
      post' exchanges result last g) : Settles id post' before m := by
  induction h generalizing post' with
  | ended hpost => exact .ended (himp _ _ _ _ hpost)
  | sent _ ih => exact .sent fun answer => ih answer fun rest => himp (_ :: rest)

/-- However the requests are answered in turn, they are sent one after the other, and then the
result is given. -/
theorem Settles.run {id : CallId} {post : Post σ} {g : Gateway σ} {e : Event}
    (h : Settles id post g.context (g.step e)) (answers : ℕ → Except String Response) :
    ∃ (exchanges : Exchanges) (result : Except GatewayError Reply),
      let es := e :: exchanges.map fun x => .answer id x.2
      exchanges.map (·.2) = (List.range exchanges.length).map answers ∧
        (g.history es).flatMap Moment.effects =
          (exchanges.map fun x => .dispatch id x.1) ++ [.finish id result] ∧
        post exchanges result (g.run es.dropLast).context (g.run es) := by
  generalize hm : g.step e = m at h
  generalize hb : g.context = before at h
  induction h generalizing g e answers with
  | @ended post before g' result hpost =>
    refine ⟨[], result, rfl, ?_, ?_⟩
    · show (g.step e).2 ++ [] = _
      rw [hm]
      rfl
    · show post [] result g.context (g.step e).1
      rw [hm, hb]
      exact hpost
  | @sent post before g' request _ ih =>
    obtain ⟨exchanges, result, hanswers, heffects, hpost⟩ :=
      ih (answers 0) (fun i => answers (i + 1)) rfl rfl
    refine ⟨(request, answers 0) :: exchanges, result, ?_, ?_, ?_⟩
    · rw [List.length_cons, List.range_succ_eq_map, List.map_cons, List.map_cons, hanswers,
        List.map_map]
      rfl
    · show (g.step e).2 ++ ((g.step e).1.history _).flatMap Moment.effects = _
      rw [hm]
      exact congrArg (.dispatch id request :: ·) heffects
    · show post _ result ((g.step e).1.run _).context ((g.step e).1.run _)
      rw [hm]
      exact hpost

/-! ## One call -/

omit [KeyStore σ] in
/-- A gateway with one call. -/
def single (config : Config) (context : SessionContext σ) (phase : Phase) (call : Call) :
    Gateway σ :=
  { config, context, phase, calls := [call] }

section

variable {config : Config} {context : SessionContext σ} {phase : Phase} {call held : Call}

omit [KeyStore σ] in
theorem single_call? : (single config context phase held).call? held.id = some held := by
  simp [single, call?]

omit [KeyStore σ] in
theorem single_finish (hid : held.id = call.id) (result : Except GatewayError Reply) :
    (single config context phase held).finish call.id result =
      ({ config, context, phase }, [.finish call.id result]) := by
  simp [single, finish, without, hid]

omit [KeyStore σ] in
theorem single_dispatching (hid : held.id = call.id) (stage : Stage) (request : Request) :
    (single config context phase held).dispatching call stage request =
      (single config context phase { call with stage }, [.dispatch call.id request]) := by
  simp [single, dispatching, suspend, without, hid]

theorem single_changed (change : Change) :
    (single config context phase held).changed change =
      single config (context.after change) phase held := rfl

/-- Nobody waits for the refresh that the call leads. -/
theorem single_settleLeader (call : Call) (o : Outcome) :
    (single config context phase held).settleLeader call o =
      (single config context .idle held).proceed call o := by
  rw [settleLeader_eq]
  have hrelease :
      ({ single config context phase held with phase := .idle : Gateway σ }.release o).1 =
        single config context .idle held := by
    simp [single, release]
  rw [hrelease]
  exact Prod.ext rfl (List.nil_append _)

end

end AccessConsole.Gateway
