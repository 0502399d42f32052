import AccessConsole.CommandLine.Argument
import AccessConsole.FileSystem.Path
import AccessConsole.Resource.ApiKey
import AccessConsole.Resource.Group

/-!
# Commands

* `Command`, `ResourceCommand` — what can be asked for on the command line.
* `Settings` — what holds for all commands.
* `commandLine` — the grammar of the command line.
-/

namespace AccessConsole

/-- To look at a kind of resource (`ListGetSubcommand`). -/
inductive Lookup
  | list (page : PageParams)
  | get (id : Int64)
  deriving DecidableEq, Repr

/-- To do something with devices (`NasSubcommand`). -/
inductive DeviceCommand
  | list (page : PageParams)
  | get (id : Int64)
  | delete (id : Int64)
  | byGroup (group : Int64)
  deriving DecidableEq, Repr

/-- To look at groups (`GroupSubcommand`). -/
inductive GroupCommand
  | list (page : PageParams)
  | get (id : Int64)
  /-- The hierarchy, one line for each group. -/
  | tree
  deriving DecidableEq, Repr

/-- To look at administrators (`AdminSubcommand`). -/
inductive AdminCommand
  | list (page : PageParams)
  | me
  deriving DecidableEq, Repr

/-- To do something with keys (`ApiKeySubcommand`). -/
inductive ApiKeyCommand
  | list (page : PageParams)
  | create (name : String) (days : UInt16)
  | revoke (id : Int64)
  deriving DecidableEq, Repr

/-- The kinds of resource that can only be looked at. -/
inductive LookupKind
  | vendor
  | secret
  | radSec
  | user
  | attributeGroup
  deriving DecidableEq, Repr

/-- A command that needs somebody signed in (`Resource`). -/
inductive ResourceCommand
  | device (command : DeviceCommand)
  | group (kind : GroupKind) (command : GroupCommand)
  | lookup (kind : LookupKind) (lookup : Lookup)
  | admin (command : AdminCommand)
  | attributes (group : Int64)
  | identifierTypes
  | timezones
  | apiKey (command : ApiKeyCommand)
  deriving DecidableEq, Repr

/-- What can be asked for (`Command`). -/
inductive Command
  | login (email : String) (password : Option String)
  | logout
  | status
  /-- Any call, with a document as its body. -/
  | request (method path : String) (data : Option String)
  | resource (command : ResourceCommand)
  deriving DecidableEq, Repr

/-- What holds for all commands (`Cli`). -/
structure Settings where
  apiUrl : Option String
  sessionFile : Option Path
  deriving DecidableEq, Repr

namespace CommandLine

/-! ## Variables -/

/-- The variable with the path of the session file. -/
def sessionFileVariable : String := "RADIUS_CONSOLE_SESSION_FILE"

/-- The variable with the password to sign in with. -/
def passwordVariable : String := "RADIUS_CONSOLE_PASSWORD"

/-! ## Values -/

/-- A whole number between two bounds. -/
def number? (low high : Int) (s : String) : Option Int := Text.Decimal.signed? low high s.toList

/-- An id. -/
def id? (s : String) : Option Int64 :=
  (number? Int64.minValue.toInt Int64.maxValue.toInt s).map Int64.ofInt

/-- A page number or size. -/
def count? (s : String) : Option UInt32 :=
  (number? 0 (UInt32.size - 1) s).map fun n => n.toNat.toUInt32

/-- A number of days. -/
def days? (s : String) : Option UInt16 :=
  (number? 0 (UInt16.size - 1) s).map fun n => n.toNat.toUInt16

/-- The path that bytes spell; no bytes spell none. -/
def path? (b : Bytes) : Option Path := if b.isEmpty then none else some (Path.ofBytes b)

/-! ## Forms -/

variable {β : Type}

/-- A command without arguments. -/
def bare (command : β) : Form β := ⟨.nil, fun _ => command⟩

/-- A command on an id. -/
def onId (name : String) (build : Int64 → β) : Form β :=
  ⟨.cons (.positional name id?) .nil, fun (id, _) => build id⟩

/-- A command on a page. -/
def onPage (build : PageParams → β) : Form β :=
  ⟨.cons (.defaulted "page" count? PageParams.default.page) <|
   .cons (.defaulted "page-size" count? PageParams.default.size) .nil,
   fun (page, size, _) => build (PageParams.ofNumbers page size)⟩

/-- The further commands of a kind that can only be looked at. -/
def lookups (build : Lookup → β) : Branch β := .family
  [("list", onPage fun page => build (.list page)), ("get", onId "id" fun id => build (.get id))]

/-- The further commands on groups. -/
def groups (build : GroupCommand → β) : Branch β := .family
  [("list", onPage fun page => build (.list page)), ("get", onId "id" fun id => build (.get id)),
   ("tree", bare (build .tree))]

/-- The command to sign in. -/
def login : Form Command :=
  ⟨.cons (.positional "email" some) <|
   .cons (.orVariable "password" some passwordVariable Bytes.text?) .nil,
   fun (email, password, _) => .login email password⟩

/-- The command to make any call. -/
def request : Form Command :=
  ⟨.cons (.positional "method" some) <|
   .cons (.positional "path" some) <|
   .cons (.optional "data" some) .nil,
   fun (method, path, data, _) => .request method path data⟩

/-- The command to make a key. -/
def createKey : Form ApiKeyCommand :=
  ⟨.cons (.required "name" some) <|
   .cons (.defaulted "days" days? ApiKey.defaultDays) .nil,
   fun (name, days, _) => .create name days⟩

/-- A form whose command is part of another command. -/
def within {γ : Type} (form : Form β) (f : β → γ) : Form γ :=
  ⟨form.arguments, fun values => f (form.build values)⟩

/-- The commands that need somebody signed in. -/
def resources : List (String × Branch ResourceCommand) :=
  [("nas", .family
     [("list", onPage fun page => .device (.list page)),
      ("get", onId "id" fun id => .device (.get id)),
      ("delete", onId "id" fun id => .device (.delete id)),
      ("by-group", onId "group-id" fun group => .device (.byGroup group))]),
   ("nas-group", groups (.group .nas)),
   ("vendor", lookups (.lookup .vendor)),
   ("secret", lookups (.lookup .secret)),
   ("radsec", lookups (.lookup .radSec)),
   ("admin", .family
     [("list", onPage fun page => .admin (.list page)), ("me", bare (.admin .me))]),
   ("user", lookups (.lookup .user)),
   ("user-group", groups (.group .user)),
   ("attribute-group", lookups (.lookup .attributeGroup)),
   ("attribute", .single (onId "group-id" .attributes)),
   ("identifier-types", .single (bare .identifierTypes)),
   ("timezones", .single (bare .timezones)),
   ("api-key", .family
     [("list", onPage fun page => .apiKey (.list page)),
      ("create", within createKey .apiKey),
      ("revoke", onId "id" fun id => .apiKey (.revoke id))])]

/-- A branch whose commands are part of other commands. -/
def branchWithin {γ : Type} (branch : Branch β) (f : β → γ) : Branch γ :=
  match branch with
  | .single form => .single (within form f)
  | .family members => .family (members.map fun m => (m.1, within m.2 f))

end CommandLine

open CommandLine in
/-- The grammar of the command line (`Cli`). -/
def commandLine : Grammar Settings Command where
  arguments :=
    .cons (.orVariable "api-url" some Config.apiUrlVariable Bytes.text?) <|
    .cons (.orVariable "session-file" (path? ∘ Bytes.ofText) sessionFileVariable path?) .nil
  general := fun (apiUrl, sessionFile, _) => ⟨apiUrl, sessionFile⟩
  commands :=
    [("login", .single login), ("logout", .single (bare .logout)),
     ("status", .single (bare .status)), ("request", .single request)] ++
    resources.map fun m => (m.1, branchWithin m.2 .resource)

end AccessConsole
