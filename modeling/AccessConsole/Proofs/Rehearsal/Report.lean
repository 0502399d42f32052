import AccessConsole.Proofs.Rehearsal.Settled
import AccessConsole.Rehearsal.Launch

/-!
# Every command reports

* `Due` — a call is going on, or it is over with results of the kind that it is for.
* `Settled.after_result` — without gates a call that begins is over when the rehearsal rests.
* `command_isSome`, `Launch.run_of_context` — a command that is carried out without gates has a
  report, and a program that finds its session ends with it.
-/

namespace AccessConsole.Rehearsal

open Gateway (Coherent)

variable {σ : Type} {r r' : Rehearsal σ} {effects effects' : List Effect} {id : CallId}
  {purpose : Purpose}

/-- A call has ended with a result, or is just about to. -/
def Ends (r : Rehearsal σ) (effects : List Effect) (id : CallId)
    (result : Except GatewayError Reply) : Prop :=
  .finish id result ∈ effects ∨ (id, result) ∈ r.finished

/-- A call is going on, or it is over; all its results are of the kind that it is for. -/
structure Due (id : CallId) (purpose : Purpose) (r : Rehearsal σ) (effects : List Effect) :
    Prop where
  live : ∀ c, r.gateway.call? id = some c → c.purpose = purpose
  yields : ∀ result, Ends r effects id result → purpose.Yields result
  there : r.gateway.call? id ≠ none ∨ ∃ result, Ends r effects id result

theorem Due.congr (h : Due id purpose r effects) (hg : r'.gateway = r.gateway)
    (hends : ∀ result, Ends r' effects' id result ↔ Ends r effects id result) :
    Due id purpose r' effects' := by
  refine ⟨?_, ?_, ?_⟩
  · rw [hg]
    exact h.live
  · intro result hr
    exact h.yields result ((hends result).1 hr)
  · rw [hg]
    refine h.there.imp_right ?_
    rintro ⟨result, hr⟩
    exact ⟨result, (hends result).2 hr⟩

/-- At rest a call that was due and is not going on has a result. -/
theorem Due.result (h : Due id purpose r []) (hc : r.gateway.call? id = none) :
    ∃ result, r.result? id = some result ∧ purpose.Yields result := by
  obtain hlive | ⟨result, hr⟩ := h.there
  · exact absurd hc hlive
  have hmem : (id, result) ∈ r.finished := hr.resolve_left List.not_mem_nil
  have hsome : (r.finished.find? (·.1 = id)).isSome := by
    rw [List.find?_isSome]
    exact ⟨_, hmem, by simp⟩
  obtain ⟨⟨j, last⟩, hlast⟩ := Option.isSome_iff_exists.1 hsome
  obtain rfl : j = id := by simpa using List.find?_some hlast
  refine ⟨last, ?_, h.yields last (.inr (List.mem_of_find?_eq_some hlast))⟩
  unfold result?
  rw [hlast]
  rfl

variable [KeyStore σ]

/-! ## Moves -/

/-- The events of a rehearsal that is left to itself begin no call and take none away. -/
theorem Happened.due {e : Event} {moved : Rehearsal σ × List Effect} {rest : List Effect}
    (h : Happened r e moved) (hstart : e.started? = none) (hcancel : e.cancelled? = none)
    (hd : Due id purpose r rest) : Due id purpose moved.1 (moved.2 ++ rest) := by
  refine ⟨?_, ?_, ?_⟩
  · intro c' hc'
    rw [h.gateway] at hc'
    obtain ⟨c, hc, hp⟩ | hs := (Gateway.step_transition r.gateway e).purpose hc'
    · rw [hp, hd.live c hc]
    · rw [hstart] at hs
      cases hs
  · intro result hr
    unfold Ends at hr
    rw [h.effects, h.finished, List.mem_append, or_assoc] at hr
    obtain hnew | hold := hr
    · obtain ⟨purpose', hy, ⟨c, hc, hp⟩ | hs⟩ := Gateway.step_yields hnew
      · rw [← hd.live c hc, hp]
        exact hy
      · rw [hstart] at hs
        cases hs
    · exact hd.yields result hold
  · unfold Ends
    rw [h.gateway, h.effects, h.finished]
    obtain hlive | ⟨result, hr⟩ := hd.there
    · have hcancel' : e.cancelled? ≠ some id := by
        rw [hcancel]
        simp
      obtain hlive | ⟨result, hr⟩ := Gateway.step_over hlive hcancel'
      · exact .inl hlive
      · exact .inr ⟨result, .inl (List.mem_append_left _ hr)⟩
    · exact .inr ⟨result, hr.imp_left (List.mem_append_right _)⟩

theorem Due.perform {e : Effect} {rest : List Effect} (h : Due id purpose r (e :: rest)) :
    Due id purpose (r.perform e).1 ((r.perform e).2 ++ rest) := by
  cases e with
  | dispatch j request =>
    show Due id purpose (r.dispatch j request).1 ((r.dispatch j request).2 ++ rest)
    have hrest : Due id purpose r rest := h.congr rfl fun result => by simp [Ends]
    obtain ⟨reply, -, hm⟩ | hm := dispatch_cases r j request
    · exact hm.due rfl rfl hrest
    · rw [hm.effects, List.nil_append]
      refine hrest.congr hm.gateway fun result => ?_
      unfold Ends
      rw [hm.finished]
  | wake j => exact h.congr rfl fun result => by simp [Ends, Rehearsal.perform]
  | finish j result =>
    refine h.congr rfl fun result' => ?_
    simp only [Ends, Rehearsal.perform, List.nil_append, List.mem_cons, Effect.finish.injEq,
      Prod.mk.injEq]
    tauto

theorem Due.goOn {w : Woken} {rest : List Woken} (h : Due id purpose r [])
    (hw : r.woken = w :: rest) :
    Due id purpose ({ r with woken := rest }.goOn w).1 ({ r with woken := rest }.goOn w).2 := by
  obtain ⟨e, hb, hm⟩ := goOn_happened { r with woken := rest } w
  have hrest : Due id purpose { r with woken := rest } [] := h.congr rfl fun _ => Iff.rfl
  have hdue : Due id purpose ({ r with woken := rest }.goOn w).1
      (({ r with woken := rest }.goOn w).2 ++ []) := by
    cases hb with
    | admitted j request => exact hm.due rfl rfl hrest
    | turnedAway j => exact hm.due rfl rfl hrest
    | released j => exact hm.due rfl rfl hrest
  rw [List.append_nil] at hdue
  exact hdue

theorem ComesToRest.gates_length (h : ComesToRest r effects r') :
    r'.gates.length = r.gates.length := by
  induction h with
  | rested _ => rfl
  | @performed r r' e rest _ ih =>
    rw [ih]
    cases e with
    | dispatch j request =>
      obtain ⟨reply, -, hm⟩ | hm := dispatch_cases r j request
      · exact hm.gates
      · exact hm.gates
    | wake j => rfl
    | finish j result => rfl
  | @wentOn r r' w rest _ _ ih =>
    obtain ⟨e, -, hm⟩ := goOn_happened { r with woken := rest } w
    rw [ih]
    exact hm.gates

/-! ## Calls -/

/-- A call begins. -/
theorem due_happen {e : Event} (hc : r.gateway.call? id = none)
    (hf : ∀ result, (id, result) ∉ r.finished) (he : e.started? = some (id, purpose)) :
    Due id purpose (r.happen e).1 (r.happen e).2 := by
  refine ⟨?_, ?_, ?_⟩
  · intro c' hc'
    obtain ⟨c, hc₀, -⟩ | hs := (Gateway.step_transition r.gateway e).purpose hc'
    · rw [hc] at hc₀
      cases hc₀
    · rw [he] at hs
      cases hs
      rfl
  · intro result hr
    obtain ⟨purpose', hy, ⟨c, hc₀, -⟩ | hs⟩ :=
      Gateway.step_yields (hr.resolve_right (hf result))
    · rw [hc] at hc₀
      cases hc₀
    · rw [he] at hs
      cases hs
      exact hy
  · refine (Gateway.step_started hc he).imp_right ?_
    rintro ⟨result, hr⟩
    exact ⟨result, .inl hr⟩

/-- Without gates a call that begins is over when the rehearsal rests. -/
theorem Settled.after_result {e : Event} (h : Settled r) (hgates : r.gates = [])
    (hf : ∀ result, (id, result) ∉ r.finished) (he : e.started? = some (id, purpose)) :
    (r.after e).gateway.calls = [] ∧
      ∃ result, (r.after e).result? id = some result ∧ purpose.Yields result := by
  have hnobody : ∀ j, ¬Holds r.gates j := by
    rintro j ⟨gate, hgate, -⟩
    rw [hgates] at hgate
    cases hgate
  have hnone : r.gateway.call? id = none := by
    unfold Gateway.call?
    rw [h.over hnobody]
    rfl
  have hcoherent : Coherent (r.happen e).1.gateway := h.coherent.step e
  have hrest := comesToRest_run hcoherent (r.happen e).2
  have hgates' : (r.after e).gates = [] := by
    have hlen := hrest.gates_length
    rw [show (r.happen e).1.gates = [] from hgates] at hlen
    exact List.length_eq_zero_iff.1 hlen
  have hover : (r.after e).gateway.calls = [] := by
    refine (h.after e).over ?_
    rintro j ⟨gate, hgate, -⟩
    rw [hgates'] at hgate
    cases hgate
  have hdue : Due id purpose (r.after e) [] := (hrest.keeps (fun _ _ _ hd => Due.perform hd)
    (fun _ _ _ hw hd => Due.goOn hd hw) (due_happen hnone hf he)).1
  refine ⟨hover, hdue.result ?_⟩
  unfold Gateway.call?
  rw [hover]
  rfl

/-! ## Commands -/

/-- A plan that is carried out without gates has a report. -/
theorem Settled.carryOut_isSome (h : Settled r) (hgates : r.gates = []) (hf : r.finished = [])
    (plan : Plan) : ((r.carryOut plan).1).isSome := by
  have hnew : ∀ result, ((0 : CallId), result) ∉ r.finished := by
    intro result
    rw [hf]
    exact List.not_mem_nil
  cases plan with
  | finish report => rfl
  | logout => rfl
  | login email password =>
    obtain ⟨-, result, hr, hy⟩ := h.after_result hgates hnew
      (e := .login 0 email password) rfl
    have hresult : (r.login 0 email password).result? 0 = some result := hr
    unfold carryOut
    simp only [hresult]
    cases result with
    | error e => rfl
    | ok reply =>
      cases reply with
      | response response => exact hy.elim
      | session session => rfl
  | call request report =>
    obtain ⟨-, result, hr, hy⟩ := h.after_result hgates hnew (e := .send 0 request) rfl
    have hresult : (r.send 0 request).result? 0 = some result := hr
    unfold carryOut
    simp only [hresult]
    cases result with
    | error e => rfl
    | ok reply =>
      cases reply with
      | response response => rfl
      | session session => exact hy.elim

/-- A command that is carried out without gates has a report. -/
theorem command_isSome (config : Config) (context : SessionContext σ) (script : Script)
    (command : Command) (input : Bytes) :
    ((Rehearsal.command { gateway := .start config context, script } command input).1).isSome :=
  (settled_start config context script []).carryOut_isSome rfl rfl _

end AccessConsole.Rehearsal

namespace AccessConsole

open Rehearsal (Script)

/-- A program that finds its command and its session ends with the report of the command. -/
theorem Launch.run_of_context {p : Launch} {settings : Settings} {command : Command}
    {context : SessionContext FileStore}
    (hread : commandLine.read p.environment p.arguments = .ok (settings, command))
    (hrestore : SessionContext.restore
      (⟨settings.sessionPath p.environment, p.files⟩ : FileStore) = .ok context)
    (script : Script) :
    ∃ report r, Rehearsal.command
        { gateway := .start (settings.config p.environment) context, script } command p.input =
          (some report, r) ∧
      p.run script = (.ofReport report, r.gateway.context.store.files) := by
  obtain ⟨report, hreport⟩ := Option.isSome_iff_exists.1
    (Rehearsal.command_isSome (settings.config p.environment) context script command p.input)
  refine ⟨report, _, Prod.ext hreport rfl, ?_⟩
  unfold Launch.run
  rw [hread]
  simp only [hrestore]
  refine Prod.ext ?_ rfl
  exact congrArg (fun r => Ending.ofReport (r.getD (.ok []))) hreport

end AccessConsole
