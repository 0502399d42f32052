import AccessConsole.CommandLine.Program
import AccessConsole.Http.Wire
import Std.Async.DNS
import Std.Async.TCP

/-!
# The command-line program

The outer layer: it reads the command line, the environment, the session file and what is typed
in, sends requests over TCP, makes the calls to the file system, and prints.

What a command does is decided by `commandLine`, `Command.plan` and `Gateway.step`. The session
file is held as a model file while the program runs; each time the gateway has changed it, the
calls of `FileCall.replace` are made on the real one.
-/

namespace AccessConsole.Program

open Std.Async (Async)
open Std.Net (IPAddr SocketAddress)

/-! ## Network -/

/-- Everything that arrives until the connection ends. -/
partial def receive (socket : Std.Async.TCP.Socket.Client) (sofar : ByteArray) :
    Async ByteArray := do
  match ← socket.recv? 65536 with
  | none => return sofar
  | some bytes => receive socket (sofar ++ bytes)

/-- What a server sends in answer to some bytes. -/
def exchange (a : Address) (bytes : Bytes) : Async Bytes := do
  let hosts ← Std.Async.DNS.getAddrInfo a.host ""
  match hosts[0]? with
  | none => throw (.userError "host not found")
  | some ip =>
    let server : SocketAddress := match ip with
      | .v4 addr => .v4 ⟨addr, a.port⟩
      | .v6 addr => .v6 ⟨addr, a.port⟩
    let socket ← Std.Async.TCP.Socket.Client.mk
    socket.connect server
    socket.send ⟨bytes.toArray⟩
    let answer ← receive socket ByteArray.empty
    return answer.data.toList

/-- The answer to a request, or why there is none. -/
def link (request : Request) : IO (Except String Response) := do
  match Address.ofUrl? request.url request.query with
  | none => return .error "no server can be reached by this URL"
  | some address =>
    try
      let bytes ← (exchange address (request.wire address)).block
      match Response.ofWire? request.method bytes with
      | some response => return .ok response
      | none => return .error "the answer is not complete"
    catch e => return .error e.toString

/-! ## Files -/

/-- A path as the system takes it. -/
def systemPath (path : Path) : String := path.toBytes.lossyText

/-- A call is made to the real file system. -/
def carryOut : FileCall → IO Unit
  | .makeDirectory path => IO.FS.createDirAll (systemPath path)
  | .create path => IO.FS.writeBinFile (systemPath path) ByteArray.empty
  | .append path bytes => do
    let file ← IO.FS.Handle.mk (systemPath path) .append
    file.write ⟨bytes.toArray⟩
    file.flush
  | .restrict path permissions =>
    let right (shift : Nat) : IO.AccessRight :=
      { read := permissions.getLsbD (shift + 2), write := permissions.getLsbD (shift + 1)
        execution := permissions.getLsbD shift }
    IO.setAccessRights (systemPath path) { user := right 6, group := right 3, other := right 0 }
  | .rename source target => IO.FS.rename (systemPath source) (systemPath target)

/-- The path of the model file. -/
def modelPath : Path := Path.ofText "session"

/-- The model file with the content of the real one. A file that cannot be read is a directory in
the model, since that cannot be read either. -/
def snapshot (path : Path) : IO FileStore := do
  let place : Location := [Bytes.ofText "session"]
  let none : FileSystem := {}
  try
    let content ← IO.FS.readBinFile (systemPath path)
    return ⟨modelPath, none.put place (.file content.data.toList FileCall.ownerOnly)⟩
  catch
    | .noFileOrDirectory .. => return ⟨modelPath, none⟩
    | _ => return ⟨modelPath, none.put place (.directory FileSystem.rootPermissions)⟩

/-- The real file follows the model file, unless the system refuses. -/
def follow (path : Path) (before after : FileStore) : IO Bool := do
  try
    if before.files ≠ after.files then
      if let .ok content := after.files.read modelPath then
        for call in FileCall.replace path (path.withExtension FileStore.besideExtension) content do
          carryOut call
    return true
  catch _ => return false

/-! ## Commands -/

/-- The result of a call that goes on with an event. Its effects are carried out in order until it
is over. A call does not depend on the file, but a sign-in whose new session cannot be kept fails:
it is `fresh` until the file changes for the first time. -/
partial def settle (path : Path) (fresh : Bool) (g : Gateway FileStore) (event : Event)
    (waiting : List Effect) : IO (Except GatewayError Reply) := do
  let (h, effects) := g.step event
  let kept ← follow path g.context.store h.context.store
  if fresh && !kept && h.context.session.access.isSome then
    return .error (.storage (.io (.refused systemMessage)))
  let fresh := fresh && g.context.store.files = h.context.store.files
  match effects ++ waiting with
  | [] => return .error (.transport "no answer")
  | .finish _ result :: _ => return result
  | .wake id :: rest => settle path fresh h (.resume id) rest
  | .dispatch id request :: rest => settle path fresh h (.answer id (← link request)) rest

/-- A plan is carried out. -/
def run (path : Path) (g : Gateway FileStore) : Plan → IO Report
  | .finish report => return report
  | .logout => do
    let (_, context) := g.context.apply .clear
    let _ ← follow path g.context.store context.store
    return Plan.logoutReport
  | .login email password => do
    match ← settle path true g (.login 0 email password) [] with
    | .ok (.session session) => return Plan.loginReport email (.ok session)
    | .ok (.response _) => return .ok []
    | .error e => return Plan.loginReport email (.error e)
  | .call request report => do
    match ← settle path false g (.send 0 request) [] with
    | .ok (.response response) => return report (.ok response)
    | .ok (.session _) => return .ok []
    | .error e => return report (.error e)

/-- The first line of what is typed in; bytes that are no text if it is none. -/
def typedLine : IO Bytes := do
  try return Bytes.ofText (← (← IO.getStdin).getLine)
  catch _ => return [0xff]

/-- The variables that the program looks at. -/
def variableNames : List String :=
  [Config.apiUrlVariable, Config.authEndpointsVariable, Config.requestSecsVariable,
   Config.connectSecsVariable, CommandLine.sessionFileVariable, CommandLine.passwordVariable,
   Settings.homeVariable]

/-- The environment of the program. -/
def environment : IO Environment :=
  variableNames.filterMapM fun name => do
    return (← IO.getEnv name).map fun value => (name, Bytes.ofText value)

/-- A summary of the grammar. -/
def usage : String :=
  "Usage: radius-console [--api-url URL] [--session-file FILE] COMMAND ...\nCommands: " ++
    ", ".intercalate (commandLine.commands.map (·.1)) ++ "\n"

/-- The program ends. -/
def finish (ending : Ending) : IO UInt32 := do
  if let some output := ending.output then IO.print output
  if let some failure := ending.failure then IO.eprintln failure
  return ending.code.toUInt32

end AccessConsole.Program

open AccessConsole Program in
/-- The program: a command line is read and its command is carried out. -/
def main (arguments : List String) : IO UInt32 := do
  let env ← environment
  match commandLine.read env arguments with
  | .error refusal =>
    match refusal with
    | .usage => IO.eprint usage
    | .help => IO.print usage
    finish (.ofRefusal refusal)
  | .ok (settings, command) =>
    let path := settings.sessionPath env
    let store ← snapshot path
    match SessionContext.restore store with
    | .error e => finish (.ofStoreError e)
    | .ok context =>
      let input ← match command with
        | .login _ none => typedLine
        | _ => pure []
      let config := settings.config env
      let plan := command.plan config context.session context.status input
      finish (.ofReport (← run path { config, context } plan))
