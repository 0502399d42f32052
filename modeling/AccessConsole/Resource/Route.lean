import AccessConsole.Http.Message
import AccessConsole.Paging

/-!
# Routes

A route says where in the API something is done: a method, a path and a query. Paths are made of
fixed words and ids, and some end with a slash.

* `Segment`, `Route` — the parts of a path, and a route.
* `Route.path` — the text of the path.
* `DeviceRoute`, `VendorRoute` and so on — what can be done with each resource.
* `Endpoint` — what can be done with all of them, and `Endpoint.route`.
-/

namespace AccessConsole

/-! ## Routes -/

/-- A part of a path between two slashes. -/
inductive Segment
  | word (text : String)
  | id (n : Int64)
  deriving DecidableEq, Repr

/-- The text of a part. -/
def Segment.text : Segment → String
  | .word text => text
  | .id n => Text.Decimal.text n.toInt

/-- A place in the API. -/
structure Route where
  method : Method
  segments : List Segment
  /-- The path ends with a slash. -/
  slash : Bool
  query : List (String × String) := []
  deriving DecidableEq, Repr

namespace Route

/-- The path of a route: a slash before each part, and one after the last if the route says so. -/
def path (r : Route) : String :=
  String.ofList
    (r.segments.flatMap (fun s => '/' :: s.text.toList) ++ if r.slash then ['/'] else [])

/-- The query that names one id. -/
def idQuery (name : String) (n : Int64) : List (String × String) :=
  [(name, Text.Decimal.text n.toInt)]

end Route

/-! ## Devices, their authorizations and their groups -/

/-- Devices, their authorizations and their groups. -/
inductive DeviceRoute
  | list (page : PageParams)
  | get (id : Int64)
  | create
  | update (id : Int64)
  | delete (id : Int64)
  | byGroup (group : Int64)
  | authorized (user identifier : Int64)
  | available (user identifier : Int64)
  | authorize (user identifier nas : Int64)
  | revoke (user identifier nas : Int64)
  | authorizeAll (user identifier : Int64)
  | revokeAll (user identifier : Int64)
  | listGroups (page : PageParams)
  | getGroup (id : Int64)
  | createGroup
  | updateGroup (id : Int64)
  | deleteGroup (id : Int64)
  | groupTree
  deriving DecidableEq, Repr

/-- Where it is done. -/
def DeviceRoute.route : DeviceRoute → Route
  | .list page => ⟨.get, [.word "nas", .word "nas"], true, page.query⟩
  | .get id => ⟨.get, [.word "nas", .word "nas", .id id], true, []⟩
  | .create => ⟨.post, [.word "nas", .word "nas"], true, []⟩
  | .update id => ⟨.patch, [.word "nas", .word "nas", .id id], false, []⟩
  | .delete id => ⟨.delete, [.word "nas", .word "nas", .id id], false, []⟩
  | .byGroup group => ⟨.get, [.word "nas", .word "by_group"], false, Route.idQuery "group_id" group⟩
  | .authorized user identifier =>
    ⟨.get, [.word "nas", .word "authorized", .id user, .id identifier], false, []⟩
  | .available user identifier =>
    ⟨.get, [.word "nas", .word "available", .id user, .id identifier], false, []⟩
  | .authorize user identifier nas =>
    ⟨.post, [.word "nas", .word "authorize", .id user, .id identifier, .id nas], false, []⟩
  | .revoke user identifier nas =>
    ⟨.delete, [.word "nas", .word "authorize", .id user, .id identifier, .id nas], false, []⟩
  | .authorizeAll user identifier =>
    ⟨.post, [.word "nas", .word "authorize-all", .id user, .id identifier], false, []⟩
  | .revokeAll user identifier =>
    ⟨.delete, [.word "nas", .word "authorize-all", .id user, .id identifier], false, []⟩
  | .listGroups page => ⟨.get, [.word "nas", .word "groups"], true, page.query⟩
  | .getGroup id => ⟨.get, [.word "nas", .word "groups", .id id], false, []⟩
  | .createGroup => ⟨.post, [.word "nas", .word "groups"], true, []⟩
  | .updateGroup id => ⟨.patch, [.word "nas", .word "groups", .id id], true, []⟩
  | .deleteGroup id => ⟨.delete, [.word "nas", .word "groups", .id id], false, []⟩
  | .groupTree => ⟨.get, [.word "nas", .word "groups", .word "tree"], true, []⟩

/-! ## Vendors -/

/-- Vendors. -/
inductive VendorRoute
  | list (page : PageParams)
  | listAll
  | get (id : Int64)
  | create
  | replace (id : Int64)
  | update (id : Int64)
  | delete (id : Int64)
  deriving DecidableEq, Repr

/-- Where it is done. -/
def VendorRoute.route : VendorRoute → Route
  | .list page => ⟨.get, [.word "nas", .word "vendors"], false, page.query⟩
  | .listAll => ⟨.get, [.word "nas", .word "vendors", .word "list_all"], true, []⟩
  | .get id => ⟨.get, [.word "nas", .word "vendors", .id id], true, []⟩
  | .create => ⟨.post, [.word "nas", .word "vendors"], false, []⟩
  | .replace id => ⟨.put, [.word "nas", .word "vendors", .id id], true, []⟩
  | .update id => ⟨.patch, [.word "nas", .word "vendors", .id id], true, []⟩
  | .delete id => ⟨.delete, [.word "nas", .word "vendors", .id id], true, []⟩

/-! ## Shared secrets -/

/-- Shared secrets. -/
inductive SecretRoute
  | list (page : PageParams)
  | get (id : Int64)
  | create
  | update (id : Int64)
  | delete (id : Int64)
  | encrypt (id : Int64)
  | decrypt (id : Int64)
  deriving DecidableEq, Repr

/-- Where it is done. -/
def SecretRoute.route : SecretRoute → Route
  | .list page => ⟨.get, [.word "radius", .word "secrets"], false, page.query⟩
  | .get id => ⟨.get, [.word "radius", .word "secrets", .id id], false, []⟩
  | .create => ⟨.post, [.word "radius", .word "secrets"], false, []⟩
  | .update id => ⟨.patch, [.word "radius", .word "secrets", .id id], false, []⟩
  | .delete id => ⟨.delete, [.word "radius", .word "secrets", .id id], false, []⟩
  | .encrypt id => ⟨.post, [.word "radius", .word "secrets", .id id, .word "encrypt"], false, []⟩
  | .decrypt id => ⟨.post, [.word "radius", .word "secrets", .id id, .word "decrypt"], false, []⟩

/-! ## RadSec sources -/

/-- RadSec sources. -/
inductive RadSecRoute
  | list (page : PageParams)
  | listAll
  | get (id : Int64)
  | create
  | update (id : Int64)
  | delete (id : Int64)
  deriving DecidableEq, Repr

/-- Where it is done. -/
def RadSecRoute.route : RadSecRoute → Route
  | .list page => ⟨.get, [.word "radsec", .word "sources"], true, page.query⟩
  | .listAll => ⟨.get, [.word "radsec", .word "sources", .word "list_all"], true, []⟩
  | .get id => ⟨.get, [.word "radsec", .word "sources", .id id], false, []⟩
  | .create => ⟨.post, [.word "radsec", .word "sources"], true, []⟩
  | .update id => ⟨.patch, [.word "radsec", .word "sources", .id id], true, []⟩
  | .delete id => ⟨.delete, [.word "radsec", .word "sources", .id id], true, []⟩

/-! ## Administrators and their groups -/

/-- Administrators and their groups. -/
inductive AdminRoute
  | list (page : PageParams)
  | get (id : Int64)
  | create
  | update (id : Int64)
  | delete (id : Int64)
  | activate (id : Int64)
  | deactivate (id : Int64)
  | sendInvitation (id : Int64)
  | sendPasswordReset (id : Int64)
  | me
  | updateMe
  | changePassword
  | listGroups (page : PageParams)
  | getGroup (id : Int64)
  | createGroup
  | updateGroup (id : Int64)
  | deleteGroup (id : Int64)
  | members (group : Int64)
  | addMember (group : Int64)
  | removeMember (group user : Int64)
  deriving DecidableEq, Repr

/-- Where it is done. -/
def AdminRoute.route : AdminRoute → Route
  | .list page => ⟨.get, [.word "admin-users", .word "users"], true, page.query⟩
  | .get id => ⟨.get, [.word "admin-users", .word "users", .id id], true, []⟩
  | .create => ⟨.post, [.word "admin-users", .word "users"], true, []⟩
  | .update id => ⟨.patch, [.word "admin-users", .word "users", .id id], true, []⟩
  | .delete id => ⟨.delete, [.word "admin-users", .word "users", .id id], true, []⟩
  | .activate id =>
    ⟨.post, [.word "admin-users", .word "users", .id id, .word "activate"], false, []⟩
  | .deactivate id =>
    ⟨.post, [.word "admin-users", .word "users", .id id, .word "deactivate"], false, []⟩
  | .sendInvitation id =>
    ⟨.post, [.word "admin-users", .word "users", .id id, .word "send-invitation"], false, []⟩
  | .sendPasswordReset id =>
    ⟨.post, [.word "admin-users", .word "users", .id id, .word "send-password-reset"], false, []⟩
  | .me => ⟨.get, [.word "admin-users", .word "me"], true, []⟩
  | .updateMe => ⟨.patch, [.word "admin-users", .word "me"], true, []⟩
  | .changePassword => ⟨.post, [.word "admin-users", .word "change-password"], true, []⟩
  | .listGroups page => ⟨.get, [.word "admin-users", .word "groups"], true, page.query⟩
  | .getGroup id => ⟨.get, [.word "admin-users", .word "groups", .id id], true, []⟩
  | .createGroup => ⟨.post, [.word "admin-users", .word "groups"], true, []⟩
  | .updateGroup id => ⟨.patch, [.word "admin-users", .word "groups", .id id], true, []⟩
  | .deleteGroup id => ⟨.delete, [.word "admin-users", .word "groups", .id id], true, []⟩
  | .members group =>
    ⟨.get, [.word "admin-users", .word "groups", .id group, .word "members"], true, []⟩
  | .addMember group =>
    ⟨.post, [.word "admin-users", .word "groups", .id group, .word "members"], true, []⟩
  | .removeMember group user =>
    ⟨.delete,
      [.word "admin-users", .word "groups", .id group, .word "members", .id user],
      false, []⟩

/-! ## Subscribers -/

/-- Subscribers. -/
inductive UserRoute
  | list (page : PageParams)
  | get (id : Int64)
  | create
  | update (id : Int64)
  | delete (id : Int64)
  deriving DecidableEq, Repr

/-- Where it is done. -/
def UserRoute.route : UserRoute → Route
  | .list page => ⟨.get, [.word "users", .word "users"], true, page.query⟩
  | .get id => ⟨.get, [.word "users", .word "users", .id id], true, []⟩
  | .create => ⟨.post, [.word "users", .word "users"], true, []⟩
  | .update id => ⟨.patch, [.word "users", .word "users", .id id], true, []⟩
  | .delete id => ⟨.delete, [.word "users", .word "users", .id id], true, []⟩

/-! ## Groups of subscribers -/

/-- Groups of subscribers. -/
inductive UserGroupRoute
  | list (page : PageParams)
  | listAll
  | get (id : Int64)
  | create
  | update (id : Int64)
  | delete (id : Int64)
  | tree
  deriving DecidableEq, Repr

/-- Where it is done. -/
def UserGroupRoute.route : UserGroupRoute → Route
  | .list page => ⟨.get, [.word "users", .word "groups"], true, page.query⟩
  | .listAll => ⟨.get, [.word "users", .word "groups", .word "list_all"], true, []⟩
  | .get id => ⟨.get, [.word "users", .word "groups", .id id], true, []⟩
  | .create => ⟨.post, [.word "users", .word "groups"], true, []⟩
  | .update id => ⟨.patch, [.word "users", .word "groups", .id id], true, []⟩
  | .delete id => ⟨.delete, [.word "users", .word "groups", .id id], true, []⟩
  | .tree => ⟨.get, [.word "users", .word "groups", .word "tree"], true, []⟩

/-! ## Authorizations of the identifier of a subscriber -/

/-- Authorizations of the identifier of a subscriber. -/
inductive AuthorizationRoute
  | list (user identifier : Int64)
  | availableNas (user identifier : Int64)
  | create (user identifier : Int64)
  | update (user identifier id : Int64)
  | delete (user identifier id : Int64)
  deriving DecidableEq, Repr

/-- The parts of the path of an identifier. -/
def identifierSegments (user identifier : Int64) : List Segment :=
  [.word "users", .word "users", .id user, .word "identifiers", .id identifier]

/-- Where it is done. -/
def AuthorizationRoute.route : AuthorizationRoute → Route
  | .list user identifier =>
    ⟨.get, identifierSegments user identifier ++ [.word "nas-authorizations"], true, []⟩
  | .availableNas user identifier =>
    ⟨.get, identifierSegments user identifier ++ [.word "available-nas"], true, []⟩
  | .create user identifier =>
    ⟨.post, identifierSegments user identifier ++ [.word "nas-authorizations"], true, []⟩
  | .update user identifier id =>
    ⟨.patch, identifierSegments user identifier ++ [.word "nas-authorizations", .id id], true, []⟩
  | .delete user identifier id =>
    ⟨.delete, identifierSegments user identifier ++ [.word "nas-authorizations", .id id], true, []⟩

/-! ## Attribute groups -/

/-- Attribute groups. -/
inductive AttributeGroupRoute
  | list (page : PageParams)
  | get (id : Int64)
  | create
  | update (id : Int64)
  | delete (id : Int64)
  deriving DecidableEq, Repr

/-- Where it is done. -/
def AttributeGroupRoute.route : AttributeGroupRoute → Route
  | .list page => ⟨.get, [.word "radius", .word "attribute-groups"], false, page.query⟩
  | .get id => ⟨.get, [.word "radius", .word "attribute-groups", .id id], true, []⟩
  | .create => ⟨.post, [.word "radius", .word "attribute-groups"], false, []⟩
  | .update id => ⟨.patch, [.word "radius", .word "attribute-groups", .id id], true, []⟩
  | .delete id => ⟨.delete, [.word "radius", .word "attribute-groups", .id id], true, []⟩

/-! ## Attributes -/

/-- Attributes. -/
inductive AttributeRoute
  | list (group : Int64) (page : PageParams)
  | byGroup (group : Int64)
  | get (id : Int64)
  | create
  | update (id : Int64)
  | delete (id : Int64)
  deriving DecidableEq, Repr

/-- Where it is done. -/
def AttributeRoute.route : AttributeRoute → Route
  | .list group page =>
    ⟨.get, [.word "radius", .word "attributes"], true, Route.idQuery "group" group ++ page.query⟩
  | .byGroup group =>
    ⟨.get,
      [.word "radius", .word "attributes", .word "by_group"],
      true, Route.idQuery "group_id" group⟩
  | .get id => ⟨.get, [.word "radius", .word "attributes", .id id], true, []⟩
  | .create => ⟨.post, [.word "radius", .word "attributes"], true, []⟩
  | .update id => ⟨.patch, [.word "radius", .word "attributes", .id id], true, []⟩
  | .delete id => ⟨.delete, [.word "radius", .word "attributes", .id id], true, []⟩

/-! ## Keys for machines -/

/-- Keys for machines. -/
inductive ApiKeyRoute
  | list (page : PageParams)
  | get (id : Int64)
  | create
  | delete (id : Int64)
  | revoke (id : Int64)
  | activate (id : Int64)
  deriving DecidableEq, Repr

/-- Where it is done. -/
def ApiKeyRoute.route : ApiKeyRoute → Route
  | .list page => ⟨.get, [.word "api-keys"], true, page.query⟩
  | .get id => ⟨.get, [.word "api-keys", .id id], true, []⟩
  | .create => ⟨.post, [.word "api-keys"], true, []⟩
  | .delete id => ⟨.delete, [.word "api-keys", .id id], true, []⟩
  | .revoke id => ⟨.post, [.word "api-keys", .id id, .word "revoke"], true, []⟩
  | .activate id => ⟨.post, [.word "api-keys", .id id, .word "activate"], true, []⟩

/-! ## Lists that never change: kinds of identifiers, and timezones -/

/-- Lists that never change: kinds of identifiers, and timezones. -/
inductive ReferenceRoute
  | identifierTypes
  | timezones
  deriving DecidableEq, Repr

/-- Where it is done. -/
def ReferenceRoute.route : ReferenceRoute → Route
  | .identifierTypes =>
    ⟨.get, [.word "users", .word "identifier-types", .word "list_all"], true, []⟩
  | .timezones => ⟨.get, [.word "shared", .word "timezones"], true, []⟩

/-! ## All resources -/

/-- What can be done in the API, with the ids and the page that say where. -/
inductive Endpoint
  | nas (r : DeviceRoute)
  | vendor (r : VendorRoute)
  | secret (r : SecretRoute)
  | radSec (r : RadSecRoute)
  | admin (r : AdminRoute)
  | user (r : UserRoute)
  | userGroup (r : UserGroupRoute)
  | authorization (r : AuthorizationRoute)
  | attributeGroup (r : AttributeGroupRoute)
  | attribute (r : AttributeRoute)
  | apiKey (r : ApiKeyRoute)
  | reference (r : ReferenceRoute)
  deriving DecidableEq, Repr

/-- Where it is done. -/
def Endpoint.route : Endpoint → Route
  | .nas r => r.route
  | .vendor r => r.route
  | .secret r => r.route
  | .radSec r => r.route
  | .admin r => r.route
  | .user r => r.route
  | .userGroup r => r.route
  | .authorization r => r.route
  | .attributeGroup r => r.route
  | .attribute r => r.route
  | .apiKey r => r.route
  | .reference r => r.route

end AccessConsole
