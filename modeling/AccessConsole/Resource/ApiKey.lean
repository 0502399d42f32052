import AccessConsole.Resource.Operation
import AccessConsole.Text.Blank

/-!
# Keys for machines

Keys that machines use in place of a sign-in. How long a key is valid is fixed when it is made.

* `ApiKey` — a key.
* `ApiKeyCreate`, `ApiKeyCreate.new` — what is sent to make a key, checked before it is sent.
* `ApiKey.list` and so on — what can be done with keys (`ApiKeyService`).
-/

namespace AccessConsole

/-- A key for a machine. -/
structure ApiKey where
  id : Int64
  name : String
  /-- The whole key when it has just been made, and a masked one later. -/
  key : String
  expiresAt : String
  createdBy : Option Int64
  createdByEmail : Option String
  isActive : Bool
  lastUsedAt : Option String
  isExpired : Bool
  daysUntilExpiry : Int64
  createdAt : Option String
  updatedAt : Option String
  deriving DecidableEq, Repr

/-- The document of a key. -/
def ApiKey.codec : Codec ApiKey := .record
  (.cons (.required "id" .int64) <|
   .cons (.required "name" .string) <|
   .cons (.defaulted "key" .string "") <|
   .cons (.required "expires_at" .string) <|
   .cons (.optional "created_by" .int64) <|
   .cons (.optional "created_by_email" .string) <|
   .cons (.defaulted "is_active" .bool false) <|
   .cons (.optional "last_used_at" .string) <|
   .cons (.defaulted "is_expired" .bool false) <|
   .cons (.defaulted "days_until_expiry" .int64 0) <|
   .cons (.optional "created_at" .string) <|
   .cons (.optional "updated_at" .string) .nil)
  (fun x => (x.id, x.name, x.key, x.expiresAt, x.createdBy, x.createdByEmail, x.isActive,
    x.lastUsedAt, x.isExpired, x.daysUntilExpiry, x.createdAt, x.updatedAt, ()))
  (fun (id, name, key, expiresAt, createdBy, createdByEmail, isActive, lastUsedAt, isExpired,
    daysUntilExpiry, createdAt, updatedAt, _) =>
    ⟨id, name, key, expiresAt, createdBy, createdByEmail, isActive, lastUsedAt, isExpired,
     daysUntilExpiry, createdAt, updatedAt⟩)

/-- The longest time for which a key can be made, in days (the end of `VALIDITY_DAYS`). -/
def ApiKey.maxDays : UInt16 := 3650

/-- The time for which a key is made where none is asked for, in days (`DEFAULT_VALIDITY_DAYS`). -/
def ApiKey.defaultDays : UInt16 := 30

/-- What is sent to make a key: a name without blanks around it, and from one day to the longest
time (`ApiKeyCreate`). -/
structure ApiKeyCreate where
  name : String
  days : UInt16
  name_nonempty : name ≠ ""
  days_valid : 1 ≤ days ∧ days ≤ ApiKey.maxDays

namespace ApiKeyCreate

/-- The payload for a name, whose blanks at the ends are dropped, and a number of days (`new` of
`ApiKeyCreate`). -/
def new (name : String) (days : UInt16) : Except InvalidInput ApiKeyCreate :=
  if hn : Text.trim name = "" then .error .blankKeyName
  else if hd : 1 ≤ days ∧ days ≤ ApiKey.maxDays then .ok ⟨Text.trim name, days, hn, hd⟩
  else .error (.invalidKeyDays days)

/-- The members of the payload. -/
def document (p : ApiKeyCreate) : Json := .given
  [("name", some (Json.text p.name)), ("validity_days", some (Json.int p.days.toNat))]

end ApiKeyCreate

/-! ## Operations -/

/-- One page of keys. -/
def ApiKey.list (page : PageParams) : Operation (Page ApiKey) :=
  .fetch (.apiKey (.list page)) (Page.codec codec)

/-- The key with an id. -/
def ApiKey.get (id : Int64) : Operation ApiKey := .fetch (.apiKey (.get id)) codec

/-- A new key. -/
def ApiKey.create (input : ApiKeyCreate) : Operation ApiKey :=
  .fetch (.apiKey .create) codec input.document

/-- The key is deleted. -/
def ApiKey.delete (id : Int64) : Operation Unit := .execute (.apiKey (.delete id))

/-- The key is no longer valid. -/
def ApiKey.revoke (id : Int64) : Operation ApiKey :=
  .fetch (.apiKey (.revoke id)) codec Operation.emptyBody

/-- The key is valid again. -/
def ApiKey.activate (id : Int64) : Operation ApiKey :=
  .fetch (.apiKey (.activate id)) codec Operation.emptyBody

end AccessConsole
