import AccessConsole.Proofs.Resource.RoutePath
import AccessConsole.Resource.Admin

/-!
# Operations read off their requests

* `Endpoint.read?` — the endpoint with a method, the parts of a path and a query.
* `Endpoint.readsBack` — every endpoint is read back from where it is done.
* `Endpoint.ofRequest?`, `Operation.ofRequest?_request` — the same for the request of an operation.
* `request_tells_operation` — requests to one place are for one operation, with the same ids and the
  same page.
* `members_of_one_group_share_place` — the administrator that joins a group stands in the body
  alone.
-/

namespace AccessConsole

/-! ## Queries -/

/-- The page that a query asks for. -/
def PageParams.ofQuery? : List (String × String) → Option PageParams
  | [("page", page), ("page_size", size)] => do
    return ⟨← CommandLine.count? page, ← CommandLine.count? size⟩
  | _ => none

/-- The id that stands first in a query. -/
def Route.queryId? (query : List (String × String)) : Option Int64 :=
  query.head?.bind fun pair => CommandLine.id? pair.2

theorem count?_text (n : UInt32) : CommandLine.count? (Text.Decimal.text n.toNat) = some n := by
  have hread : Text.Decimal.signed? 0 (UInt32.size - 1 : Nat) (Text.Decimal.text n.toNat).toList =
      some (n.toNat : Int) := by
    rw [toList_text]
    have hlt := n.toNat_lt
    refine Text.Decimal.signed?_integer (by omega) ?_
    show (n.toNat : Int) ≤ (4294967295 : Nat)
    omega
  show Option.map _ (Text.Decimal.signed? 0 (UInt32.size - 1 : Nat) _) = _
  rw [hread, Option.map_some, Int.toNat_natCast]
  exact congrArg some n.ofNat_toNat

theorem PageParams.ofQuery?_query (page : PageParams) : ofQuery? page.query = some page := by
  show (do return PageParams.mk (← CommandLine.count? _) (← CommandLine.count? _)) = _
  rw [count?_text, count?_text]
  rfl

theorem Route.queryId?_idQuery (name : String) (n : Int64) (rest : List (String × String)) :
    queryId? (idQuery name n ++ rest) = some n := id?_text n

/-! ## Reading -/

/-- The endpoints that most collections have. -/
structure Collection (ρ : Type) where
  list : PageParams → ρ
  get : Int64 → ρ
  create : ρ
  update : Int64 → ρ
  delete : Int64 → ρ

/-- The endpoint of a collection, read from what follows it in the path. -/
def Collection.read? {ρ : Type} (c : Collection ρ) (method : Method) (rest : List Segment)
    (query : List (String × String)) : Option ρ :=
  match method, rest with
  | ⟨"GET"⟩, [] => (PageParams.ofQuery? query).map c.list
  | ⟨"GET"⟩, [.id id] => some (c.get id)
  | ⟨"POST"⟩, [] => some c.create
  | ⟨"PATCH"⟩, [.id id] => some (c.update id)
  | ⟨"DELETE"⟩, [.id id] => some (c.delete id)
  | _, _ => none

section

variable (method : Method) (rest : List Segment) (query : List (String × String))

/-- What can be done with devices, read from what follows `nas`. -/
def DeviceRoute.read? : Option DeviceRoute :=
  match method, rest with
  | ⟨"GET"⟩, [.word "by_group"] => (Route.queryId? query).map .byGroup
  | ⟨"GET"⟩, [.word "authorized", .id user, .id identifier] => some (.authorized user identifier)
  | ⟨"GET"⟩, [.word "available", .id user, .id identifier] => some (.available user identifier)
  | ⟨"POST"⟩, [.word "authorize", .id user, .id identifier, .id nas] =>
    some (.authorize user identifier nas)
  | ⟨"DELETE"⟩, [.word "authorize", .id user, .id identifier, .id nas] =>
    some (.revoke user identifier nas)
  | ⟨"POST"⟩, [.word "authorize-all", .id user, .id identifier] =>
    some (.authorizeAll user identifier)
  | ⟨"DELETE"⟩, [.word "authorize-all", .id user, .id identifier] =>
    some (.revokeAll user identifier)
  | ⟨"GET"⟩, [.word "groups", .word "tree"] => some .groupTree
  | method, .word "groups" :: rest =>
    Collection.read? ⟨.listGroups, .getGroup, .createGroup, .updateGroup, .deleteGroup⟩
      method rest query
  | method, .word "nas" :: rest =>
    Collection.read? ⟨.list, .get, .create, .update, .delete⟩ method rest query
  | _, _ => none

/-- What can be done with vendors, read from what follows `nas/vendors`. -/
def VendorRoute.read? : Option VendorRoute :=
  match method, rest with
  | ⟨"GET"⟩, [.word "list_all"] => some .listAll
  | ⟨"PUT"⟩, [.id id] => some (.replace id)
  | method, rest => Collection.read? ⟨.list, .get, .create, .update, .delete⟩ method rest query

/-- What can be done with shared secrets, read from what follows `radius/secrets`. -/
def SecretRoute.read? : Option SecretRoute :=
  match method, rest with
  | ⟨"POST"⟩, [.id id, .word "encrypt"] => some (.encrypt id)
  | ⟨"POST"⟩, [.id id, .word "decrypt"] => some (.decrypt id)
  | method, rest => Collection.read? ⟨.list, .get, .create, .update, .delete⟩ method rest query

/-- What can be done with RadSec sources, read from what follows `radsec/sources`. -/
def RadSecRoute.read? : Option RadSecRoute :=
  match method, rest with
  | ⟨"GET"⟩, [.word "list_all"] => some .listAll
  | method, rest => Collection.read? ⟨.list, .get, .create, .update, .delete⟩ method rest query

/-- What can be done with administrators, read from what follows `admin-users`. -/
def AdminRoute.read? : Option AdminRoute :=
  match method, rest with
  | ⟨"GET"⟩, [.word "me"] => some .me
  | ⟨"PATCH"⟩, [.word "me"] => some .updateMe
  | ⟨"POST"⟩, [.word "change-password"] => some .changePassword
  | ⟨"POST"⟩, [.word "users", .id id, .word "activate"] => some (.activate id)
  | ⟨"POST"⟩, [.word "users", .id id, .word "deactivate"] => some (.deactivate id)
  | ⟨"POST"⟩, [.word "users", .id id, .word "send-invitation"] => some (.sendInvitation id)
  | ⟨"POST"⟩, [.word "users", .id id, .word "send-password-reset"] => some (.sendPasswordReset id)
  | ⟨"GET"⟩, [.word "groups", .id group, .word "members"] => some (.members group)
  | ⟨"POST"⟩, [.word "groups", .id group, .word "members"] => some (.addMember group)
  | ⟨"DELETE"⟩, [.word "groups", .id group, .word "members", .id user] =>
    some (.removeMember group user)
  | method, .word "groups" :: rest =>
    Collection.read? ⟨.listGroups, .getGroup, .createGroup, .updateGroup, .deleteGroup⟩
      method rest query
  | method, .word "users" :: rest =>
    Collection.read? ⟨.list, .get, .create, .update, .delete⟩ method rest query
  | _, _ => none

/-- What can be done with subscribers, read from what follows `users/users`. -/
def UserRoute.read? : Option UserRoute :=
  Collection.read? ⟨.list, .get, .create, .update, .delete⟩ method rest query

/-- What can be done with groups of subscribers, read from what follows `users/groups`. -/
def UserGroupRoute.read? : Option UserGroupRoute :=
  match method, rest with
  | ⟨"GET"⟩, [.word "list_all"] => some .listAll
  | ⟨"GET"⟩, [.word "tree"] => some .tree
  | method, rest => Collection.read? ⟨.list, .get, .create, .update, .delete⟩ method rest query

/-- What can be done with the authorizations of an identifier, read from what follows it. -/
def AuthorizationRoute.read? (user identifier : Int64) : Option AuthorizationRoute :=
  match method, rest with
  | ⟨"GET"⟩, [.word "nas-authorizations"] => some (.list user identifier)
  | ⟨"GET"⟩, [.word "available-nas"] => some (.availableNas user identifier)
  | ⟨"POST"⟩, [.word "nas-authorizations"] => some (.create user identifier)
  | ⟨"PATCH"⟩, [.word "nas-authorizations", .id id] => some (.update user identifier id)
  | ⟨"DELETE"⟩, [.word "nas-authorizations", .id id] => some (.delete user identifier id)
  | _, _ => none

/-- What can be done with attribute groups, read from what follows `radius/attribute-groups`. -/
def AttributeGroupRoute.read? : Option AttributeGroupRoute :=
  Collection.read? ⟨.list, .get, .create, .update, .delete⟩ method rest query

/-- What can be done with attributes, read from what follows `radius/attributes`. A listing is
that of a group, which stands in the query before the page. -/
def AttributeRoute.read? : Option AttributeRoute :=
  match method, rest with
  | ⟨"GET"⟩, [] => do return .list (← Route.queryId? query) (← PageParams.ofQuery? query.tail)
  | ⟨"GET"⟩, [.word "by_group"] => (Route.queryId? query).map .byGroup
  | ⟨"GET"⟩, [.id id] => some (.get id)
  | ⟨"POST"⟩, [] => some .create
  | ⟨"PATCH"⟩, [.id id] => some (.update id)
  | ⟨"DELETE"⟩, [.id id] => some (.delete id)
  | _, _ => none

/-- What can be done with keys for machines, read from what follows `api-keys`. -/
def ApiKeyRoute.read? : Option ApiKeyRoute :=
  match method, rest with
  | ⟨"GET"⟩, [] => (PageParams.ofQuery? query).map .list
  | ⟨"GET"⟩, [.id id] => some (.get id)
  | ⟨"POST"⟩, [] => some .create
  | ⟨"DELETE"⟩, [.id id] => some (.delete id)
  | ⟨"POST"⟩, [.id id, .word "revoke"] => some (.revoke id)
  | ⟨"POST"⟩, [.id id, .word "activate"] => some (.activate id)
  | _, _ => none

/-- What can be done in the API, read from a whole path. -/
def Endpoint.read? : Option Endpoint :=
  match rest with
  | .word "nas" :: .word "vendors" :: rest => (VendorRoute.read? method rest query).map .vendor
  | .word "nas" :: rest => (DeviceRoute.read? method rest query).map .nas
  | .word "radius" :: .word "secrets" :: rest => (SecretRoute.read? method rest query).map .secret
  | .word "radius" :: .word "attribute-groups" :: rest =>
    (AttributeGroupRoute.read? method rest query).map .attributeGroup
  | .word "radius" :: .word "attributes" :: rest =>
    (AttributeRoute.read? method rest query).map .attribute
  | .word "radsec" :: .word "sources" :: rest => (RadSecRoute.read? method rest query).map .radSec
  | .word "admin-users" :: rest => (AdminRoute.read? method rest query).map .admin
  | .word "users" :: .word "users" :: .id owner :: .word "identifiers" :: .id identifier :: rest =>
    (AuthorizationRoute.read? method rest owner identifier).map .authorization
  | .word "users" :: .word "users" :: rest => (UserRoute.read? method rest query).map .user
  | .word "users" :: .word "groups" :: rest =>
    (UserGroupRoute.read? method rest query).map .userGroup
  | .word "api-keys" :: rest => (ApiKeyRoute.read? method rest query).map .apiKey
  | [.word "users", .word "identifier-types", .word "list_all"] =>
    some (.reference .identifierTypes)
  | [.word "shared", .word "timezones"] => some (.reference .timezones)
  | _ => none

end

/-! ## Reading back -/

section

variable {ρ : Type} (f : PageParams → ρ) (g : ρ → Endpoint)

theorem PageParams.read_query (page : PageParams) :
    ((PageParams.ofQuery? page.query).map f).map g = some (g (f page)) := by
  rw [page.ofQuery?_query]
  rfl

theorem Route.read_idQuery (name : String) (n : Int64) (f : Int64 → ρ) :
    ((queryId? (idQuery name n)).map f).map g = some (g (f n)) := by
  rw [← List.append_nil (idQuery name n), queryId?_idQuery]
  rfl

end

/-- An endpoint is read back from where it is done. -/
abbrev Endpoint.ReadsBack (e : Endpoint) : Prop :=
  read? e.route.method e.route.segments e.route.query = some e

theorem DeviceRoute.readsBack (r : DeviceRoute) : Endpoint.ReadsBack (.nas r) := by
  cases r with
  | list page => exact page.read_query DeviceRoute.list .nas
  | listGroups page => exact page.read_query DeviceRoute.listGroups .nas
  | byGroup group => exact Route.read_idQuery .nas _ group DeviceRoute.byGroup
  | _ => rfl

theorem VendorRoute.readsBack (r : VendorRoute) : Endpoint.ReadsBack (.vendor r) := by
  cases r with
  | list page => exact page.read_query VendorRoute.list .vendor
  | _ => rfl

theorem SecretRoute.readsBack (r : SecretRoute) : Endpoint.ReadsBack (.secret r) := by
  cases r with
  | list page => exact page.read_query SecretRoute.list .secret
  | _ => rfl

theorem RadSecRoute.readsBack (r : RadSecRoute) : Endpoint.ReadsBack (.radSec r) := by
  cases r with
  | list page => exact page.read_query RadSecRoute.list .radSec
  | _ => rfl

theorem AdminRoute.readsBack (r : AdminRoute) : Endpoint.ReadsBack (.admin r) := by
  cases r with
  | list page => exact page.read_query AdminRoute.list .admin
  | listGroups page => exact page.read_query AdminRoute.listGroups .admin
  | _ => rfl

theorem UserRoute.readsBack (r : UserRoute) : Endpoint.ReadsBack (.user r) := by
  cases r with
  | list page => exact page.read_query UserRoute.list .user
  | _ => rfl

theorem UserGroupRoute.readsBack (r : UserGroupRoute) : Endpoint.ReadsBack (.userGroup r) := by
  cases r with
  | list page => exact page.read_query UserGroupRoute.list .userGroup
  | _ => rfl

theorem AuthorizationRoute.readsBack (r : AuthorizationRoute) :
    Endpoint.ReadsBack (.authorization r) := by
  cases r <;> rfl

theorem AttributeGroupRoute.readsBack (r : AttributeGroupRoute) :
    Endpoint.ReadsBack (.attributeGroup r) := by
  cases r with
  | list page => exact page.read_query AttributeGroupRoute.list .attributeGroup
  | _ => rfl

theorem AttributeRoute.readsBack (r : AttributeRoute) : Endpoint.ReadsBack (.attribute r) := by
  cases r with
  | list group page =>
    show Option.map Endpoint.attribute (do
      return .list (← Route.queryId? (Route.idQuery "group" group ++ page.query))
        (← PageParams.ofQuery? page.query)) = _
    rw [Route.queryId?_idQuery, page.ofQuery?_query]
    rfl
  | byGroup group => exact Route.read_idQuery .attribute _ group AttributeRoute.byGroup
  | _ => rfl

theorem ApiKeyRoute.readsBack (r : ApiKeyRoute) : Endpoint.ReadsBack (.apiKey r) := by
  cases r with
  | list page => exact page.read_query ApiKeyRoute.list .apiKey
  | _ => rfl

theorem ReferenceRoute.readsBack (r : ReferenceRoute) : Endpoint.ReadsBack (.reference r) := by
  cases r <;> rfl

theorem Endpoint.readsBack (e : Endpoint) : e.ReadsBack := by
  cases e with
  | nas r => exact r.readsBack
  | vendor r => exact r.readsBack
  | secret r => exact r.readsBack
  | radSec r => exact r.readsBack
  | admin r => exact r.readsBack
  | user r => exact r.readsBack
  | userGroup r => exact r.readsBack
  | authorization r => exact r.readsBack
  | attributeGroup r => exact r.readsBack
  | «attribute» r => exact r.readsBack
  | apiKey r => exact r.readsBack
  | reference r => exact r.readsBack

/-! ## Requests -/

/-- The endpoint that a request is for. The root of the API is left out of its URL. -/
def Endpoint.ofRequest? (c : Config) (r : Request) : Option Endpoint :=
  let path := r.url.toList.drop c.apiUrl.toList.length
  read? r.method (Route.segmentsOf (String.ofList path)) r.query

/-- The administrator that a body names. -/
def Membership.ofBody? : Json → Option Membership
  | .object [(some "user_id", .number (.integer n))] => some ⟨Int64.ofInt n⟩
  | _ => none

theorem Membership.ofBody?_document (m : Membership) : ofBody? m.document = some m := by
  show some (Membership.mk (Int64.ofInt m.userId.toInt)) = some m
  rw [Int64.ofInt_toInt]

variable {α β : Type}

/-- The endpoint is read off the request, whatever the ids and the page. -/
theorem Operation.ofRequest?_request (op : Operation α) (c : Config) :
    Endpoint.ofRequest? c (op.request c) = some op.endpoint := by
  have hspelled := op.endpoint.spelled
  have hurl : (c.endpoint op.endpoint.route.path).toList =
      c.apiUrl.toList ++ op.endpoint.route.path.toList := by
    rw [c.endpoint_path hspelled, String.toList_append]
  rw [op.request_eq]
  unfold Endpoint.ofRequest?
  simp only [hurl, List.drop_left, String.ofList_toList, hspelled.segmentsOf_path]
  exact op.endpoint.readsBack

/-- Method, URL and query are the same. -/
structure Request.SamePlace (r r' : Request) : Prop where
  method : r.method = r'.method
  url : r.url = r'.url
  query : r.query = r'.query

theorem Endpoint.ofRequest?_congr {r r' : Request} (h : r.SamePlace r') (c : Config) :
    ofRequest? c r = ofRequest? c r' := by
  unfold ofRequest?
  rw [h.method, h.url, h.query]

/-- Two operations are done in one place only if they are the same, with the same ids and the same
page, and both are read off the request. All ids stand there but one: an administrator that joins a
group is named in the body, and there it is read. -/
theorem request_tells_operation (c : Config) (op : Operation α) (op' : Operation β) :
    ((op.request c).SamePlace (op'.request c) ↔ op.endpoint = op'.endpoint) ∧
      Endpoint.ofRequest? c (op.request c) = some op.endpoint ∧
      ∀ group user : Int64,
        let r := (Admin.addMember group user).request c
        Endpoint.ofRequest? c r = some (.admin (.addMember group)) ∧
          r.body.bind Membership.ofBody? = some ⟨user⟩ := by
  refine ⟨⟨?_, ?_⟩, op.ofRequest?_request c, ?_⟩
  · intro h
    have hread := Endpoint.ofRequest?_congr h c
    rw [op.ofRequest?_request, op'.ofRequest?_request] at hread
    exact Option.some.inj hread
  · intro h
    constructor <;> simp only [Operation.request_eq, h]
  · intro group user r
    exact ⟨(Admin.addMember group user).ofRequest?_request c, Membership.ofBody?_document ⟨user⟩⟩

/-- Two administrators join one group in the same place. Only the bodies tell them apart. -/
theorem members_of_one_group_share_place :
    let c := Config.ofApiUrl "http://api.test/api"
    let second := (Admin.addMember 1 2).request c
    let third := (Admin.addMember 1 3).request c
    second.SamePlace third ∧ second.body ≠ third.body := by
  intro c second third
  refine ⟨⟨rfl, rfl, rfl⟩, ?_⟩
  intro hbody
  have hread := congrArg (·.bind Membership.ofBody?) hbody
  exact absurd hread (by decide)

end AccessConsole
