import AccessConsole.CommandLine.Program
import AccessConsole.Rehearsal.Performance

/-!
# The program in rehearsal

* `Launch` — what the program finds when it starts.
* `Launch.run` — how it ends, and the files it leaves, against a scripted server.
-/

namespace AccessConsole

open Rehearsal (Script)

/-- What the program finds when it starts. -/
structure Launch where
  /-- The words of the command line, without the name of the program. -/
  arguments : List String
  environment : Environment
  /-- What is typed in. -/
  input : Bytes
  files : FileSystem

/-- How the program ends, and the files it leaves. -/
def Launch.run (p : Launch) (script : Script) : Ending × FileSystem :=
  match commandLine.read p.environment p.arguments with
  | .error refusal => (.ofRefusal refusal, p.files)
  | .ok (settings, command) =>
    let store : FileStore := ⟨settings.sessionPath p.environment, p.files⟩
    match SessionContext.restore store with
    | .error e => (.ofStoreError e, p.files)
    | .ok context =>
      let gateway := { config := settings.config p.environment, context }
      let (report, r) := Rehearsal.command { gateway, script } command p.input
      (.ofReport (report.getD (.ok [])), r.gateway.context.store.files)

end AccessConsole
