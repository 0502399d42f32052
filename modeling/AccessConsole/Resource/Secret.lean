import AccessConsole.Resource.Operation

/-!
# Shared secrets

Secrets shared by a server and its clients.

* `Secret` — a shared secret.
* `SecretCreate`, `SecretUpdate` — what is sent to create or change one.
* `Secret.list` and so on — what can be done with secrets (`SecretService`).
-/

namespace AccessConsole

/-- A secret shared by a server and its clients. -/
structure Secret where
  id : Int64
  name : String
  secret : String
  radSec : Bool
  description : Option String
  sourceSubnets : List String
  createdAt : Option String
  updatedAt : Option String
  deriving DecidableEq, Repr

/-- The document of a secret. -/
def Secret.codec : Codec Secret := .record
  (.cons (.required "id" .int64) <|
   .cons (.required "name" .string) <|
   .cons (.defaulted "secret" .string "") <|
   .cons (.defaulted "rad_sec" .bool false) <|
   .cons (.optional "description" .string) <|
   .cons (.defaulted "source_subnets" (.list .string) []) <|
   .cons (.optional "created_at" .string) <|
   .cons (.optional "updated_at" .string) .nil)
  (fun x => (x.id, x.name, x.secret, x.radSec, x.description, x.sourceSubnets, x.createdAt,
    x.updatedAt, ()))
  (fun (id, name, secret, radSec, description, sourceSubnets, createdAt, updatedAt, _) =>
    ⟨id, name, secret, radSec, description, sourceSubnets, createdAt, updatedAt⟩)

/-- What is sent to create a secret. -/
structure SecretCreate where
  name : String
  secret : String
  radSec : Option Bool := none
  description : Option String := none
  sourceSubnets : List String
  deriving DecidableEq, Repr

/-- The members of a payload: values that are not given are left out. -/
def SecretCreate.document (p : SecretCreate) : Json := .given
  [("name", some (Json.text p.name)),
   ("secret", some (Json.text p.secret)),
   ("rad_sec", p.radSec.map Json.bool),
   ("description", p.description.map Json.text),
   ("source_subnets",
      if p.sourceSubnets.isEmpty then none else some (Codec.string.list.write p.sourceSubnets))]

/-- What is sent to change a secret. -/
structure SecretUpdate where
  name : Option String := none
  secret : Option String := none
  radSec : Option Bool := none
  description : Option String := none
  sourceSubnets : Option (List String) := none
  deriving DecidableEq, Repr

/-- The members of a payload: values that are not given are left out. -/
def SecretUpdate.document (p : SecretUpdate) : Json := .given
  [("name", p.name.map Json.text),
   ("secret", p.secret.map Json.text),
   ("rad_sec", p.radSec.map Json.bool),
   ("description", p.description.map Json.text),
   ("source_subnets", p.sourceSubnets.map Codec.string.list.write)]

/-! ## Operations -/

/-- One page of secrets. -/
def Secret.list (page : PageParams) : Operation (Page Secret) :=
  .fetch (.secret (.list page)) (Page.codec codec)

/-- The secret with an id. -/
def Secret.get (id : Int64) : Operation Secret := .fetch (.secret (.get id)) codec

/-- A new secret. -/
def Secret.create (input : SecretCreate) : Operation Secret :=
  .fetch (.secret .create) codec input.document

/-- Values of the secret are changed. -/
def Secret.update (id : Int64) (input : SecretUpdate) : Operation Secret :=
  .fetch (.secret (.update id)) codec input.document

/-- The secret is deleted. -/
def Secret.delete (id : Int64) : Operation Unit := .execute (.secret (.delete id))

/-- The secret is kept encrypted from now on. -/
def Secret.encrypt (id : Int64) : Operation Secret :=
  .fetch (.secret (.encrypt id)) codec Operation.emptyBody

/-- The secret is kept in the clear from now on. -/
def Secret.decrypt (id : Int64) : Operation Secret :=
  .fetch (.secret (.decrypt id)) codec Operation.emptyBody

end AccessConsole
