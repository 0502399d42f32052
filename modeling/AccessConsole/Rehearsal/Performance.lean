import AccessConsole.CommandLine.Plan
import AccessConsole.Rehearsal.Stage

/-!
# Commands in rehearsal

* `Rehearsal.carryOut` — a plan carried out in a rehearsal.
* `Rehearsal.command` — a command carried out in a rehearsal.
-/

namespace AccessConsole.Rehearsal

variable {σ : Type} [KeyStore σ]

/-- A plan carried out. There is no report while its call is held back. -/
def carryOut (r : Rehearsal σ) : Plan → Option Report × Rehearsal σ
  | .finish report => (some report, r)
  | .logout => (some Plan.logoutReport, (r.change .clear).2)
  | .login email password =>
    let r := r.login 0 email password
    (match r.result? 0 with
      | some (.ok (.session session)) => some (Plan.loginReport email (.ok session))
      | some (.error e) => some (Plan.loginReport email (.error e))
      | _ => none, r)
  | .call request report =>
    let r := r.send 0 request
    (match r.result? 0 with
      | some (.ok (.response response)) => some (report (.ok response))
      | some (.error e) => some (report (.error e))
      | _ => none, r)

/-- A command carried out, with what can be typed in. -/
def command (r : Rehearsal σ) (command : Command) (input : Bytes) : Option Report × Rehearsal σ :=
  let context := r.gateway.context
  r.carryOut (command.plan r.gateway.config context.session context.status input)

end AccessConsole.Rehearsal
