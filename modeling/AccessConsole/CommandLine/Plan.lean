import AccessConsole.CommandLine.Command
import AccessConsole.CommandLine.Password
import AccessConsole.Gateway.Machine
import AccessConsole.Json.Untyped
import AccessConsole.Resource.Admin
import AccessConsole.Resource.Attribute
import AccessConsole.Resource.Authorization
import AccessConsole.Resource.RadSec
import AccessConsole.Resource.User

/-!
# What commands do

A command makes at most one call. What is known before it is made decides on a plan.

* `Report` — what a command prints, or why it fails.
* `Task` — a call, and the report on its result.
* `ResourceCommand.task` — the tasks of commands on resources.
* `Plan`, `Command.plan` — what is to be done for a command.
-/

namespace AccessConsole

/-- What a command prints, text by text, each with a line end after it; or why it fails. -/
abbrev Report := Except CommandError (List String)

/-! ## Commands on resources -/

/-- A call, and the report on its result. -/
structure Task where
  request : Config → Request
  report : CallResult → Report

namespace Task

variable {α : Type}

/-- An operation whose result is told by some texts. -/
def telling (op : Operation α) (texts : α → List String) : Task where
  request := op.request
  report r :=
    match op.result r with
    | .ok a => .ok (texts a)
    | .error e => .error (.console (.gateway e))

/-- An operation whose result is printed as an indented document (`print_json`). -/
def printing (op : Operation α) : Task := telling op fun a => [(op.write a).pretty]

end Task

/-- The task of a command on devices. -/
def DeviceCommand.task : DeviceCommand → Task
  | .list page => .printing (Device.list page)
  | .get id => .printing (Device.get id)
  | .delete id =>
    .telling (Device.delete id) fun _ => ["deleted NAS " ++ Text.Decimal.text id.toInt]
  | .byGroup group => .printing (Device.byGroup group)

/-- The task of a command on groups. -/
def GroupCommand.task : GroupKind → GroupCommand → Task
  | .nas, .list page => .printing (Device.listGroups page)
  | .nas, .get id => .printing (Device.getGroup id)
  | .nas, .tree => .telling Device.flattenedGroupTree fun groups => groups.map Group.line
  | .user, .list page => .printing (UserGroup.list page)
  | .user, .get id => .printing (UserGroup.get id)
  | .user, .tree => .telling UserGroup.flattenedTree fun groups => groups.map Group.line

/-- The task of looking at a resource. -/
def Lookup.task : LookupKind → Lookup → Task
  | .vendor, .list page => .printing (Vendor.list page)
  | .vendor, .get id => .printing (Vendor.get id)
  | .secret, .list page => .printing (Secret.list page)
  | .secret, .get id => .printing (Secret.get id)
  | .radSec, .list page => .printing (RadSec.list page)
  | .radSec, .get id => .printing (RadSec.get id)
  | .user, .list page => .printing (User.list page)
  | .user, .get id => .printing (User.get id)
  | .attributeGroup, .list page => .printing (AttributeGroup.list page)
  | .attributeGroup, .get id => .printing (AttributeGroup.get id)

/-- The task of a command on administrators. -/
def AdminCommand.task : AdminCommand → Task
  | .list page => .printing (Admin.list page)
  | .me => .printing Admin.me

/-- The task of a command on keys, if its input is valid. -/
def ApiKeyCommand.task : ApiKeyCommand → Except InvalidInput Task
  | .list page => .ok (.printing (ApiKey.list page))
  | .create name days => do return .printing (ApiKey.create (← ApiKeyCreate.new name days))
  | .revoke id => .ok (.printing (ApiKey.revoke id))

/-- The task of a command on resources, if its input is valid (`run_resource`). -/
def ResourceCommand.task : ResourceCommand → Except InvalidInput Task
  | .device command => .ok command.task
  | .group kind command => .ok (command.task kind)
  | .lookup kind query => .ok (query.task kind)
  | .admin command => .ok command.task
  | .attributes id => .ok (.printing (Attribute.byGroup id))
  | .identifierTypes => .ok (.printing IdentifierType.listAll)
  | .timezones => .ok (.printing Timezone.list)
  | .apiKey command => command.task

/-! ## Plans -/

/-- What is to be done for a command. -/
inductive Plan
  /-- Nothing more: the report is known. -/
  | finish (report : Report)
  /-- The session ends. -/
  | logout
  | login (email password : String)
  | call (request : Request) (report : CallResult → Report)

namespace Plan

/-- The report on a sign-out. -/
def logoutReport : Report := .ok ["logged out"]

/-- The report on a sign-in (the end of `run_login`). -/
def loginReport (email : String) : Except GatewayError Session → Report
  | .ok session =>
    .ok ["logged in as " ++ (session.user.map CurrentUser.displayName).getD email]
  | .error e => .error (.gateway e)

/-- The report on the session (`run_status`). -/
def statusReport (config : Config) (session : Session) (status : AuthStatus) : Report :=
  let user := match session.user with
    | some user => (CurrentUser.codec.write user).sorted
    | none => .null
  .ok [(Json.record
    [("api_url", Json.text config.apiUrl), ("authenticated", .bool session.access.isSome),
     ("status", Json.text status.name), ("user", user)]).pretty]

/-- The report on any call: the document of the answer, or else its text (the end of
`run_request`). -/
def callReport : CallResult → Report
  | .ok response =>
    match Json.readUntyped? response.body with
    | some document => .ok [document.pretty]
    | none => .ok [response.body]
  | .error e => .error (.gateway e)

/-- The plan to make any call (`run_request`). The method is looked at before the body. -/
def forRequest (config : Config) (method path : String) (data : Option String) : Plan :=
  match Method.ofText? method with
  | none => .finish (.error (.invalidMethod method))
  | some method =>
    let request := Request.new method (config.endpoint path)
    match data with
    | none => .call request callReport
    | some data =>
      match Json.readUntyped? data with
      | some body => .call (request.withJson body) callReport
      | none => .finish (.error .invalidJson)

end Plan

/-- The plan for a command, given what is known of the session and what can be typed in (`run`). -/
def Command.plan (command : Command) (config : Config) (session : Session) (status : AuthStatus)
    (input : Bytes) : Plan :=
  match command with
  | .login email (some password) => .login email password
  | .login email none =>
    match Password.ofInput input with
    | .ok password => .login email password
    | .error e => .finish (.error e)
  | .logout => .logout
  | .status => .finish (Plan.statusReport config session status)
  | .request method path data => Plan.forRequest config method path data
  | .resource command =>
    if session.access.isNone then .finish (.error .notLoggedIn)
    else
      match command.task with
      | .ok task => .call (task.request config) task.report
      | .error i => .finish (.error (.console (.invalidInput i)))

end AccessConsole
