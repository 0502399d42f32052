import AccessConsole.Resource.Operation

/-!
# RadSec sources

Sources that speak to the server over TLS.

* `RadSecSource` — a source.
* `RadSecSourceInput` — what is sent to create or change one.
* `RadSec.list` and so on — what can be done with sources (`RadSecService`).
-/

namespace AccessConsole

/-- A source that speaks to the server over TLS. -/
structure RadSecSource where
  id : Int64
  name : String
  description : Option String
  sourceSubnets : List String
  tlsKey : String
  tlsCert : String
  createdAt : Option String
  updatedAt : Option String
  deriving DecidableEq, Repr

/-- The document of a source. -/
def RadSecSource.codec : Codec RadSecSource := .record
  (.cons (.required "id" .int64) <|
   .cons (.required "name" .string) <|
   .cons (.optional "description" .string) <|
   .cons (.defaulted "source_subnets" (.list .string) []) <|
   .cons (.defaulted "tls_key" .string "") <|
   .cons (.defaulted "tls_cert" .string "") <|
   .cons (.optional "created_at" .string) <|
   .cons (.optional "updated_at" .string) .nil)
  (fun x => (x.id, x.name, x.description, x.sourceSubnets, x.tlsKey, x.tlsCert, x.createdAt,
    x.updatedAt, ()))
  (fun (id, name, description, sourceSubnets, tlsKey, tlsCert, createdAt, updatedAt, _) =>
    ⟨id, name, description, sourceSubnets, tlsKey, tlsCert, createdAt, updatedAt⟩)

/-- What is sent to create or change a source. The TLS material is always sent. -/
structure RadSecSourceInput where
  name : Option String := none
  secret : Option String := none
  description : Option String := none
  sourceSubnets : Option (List String) := none
  tlsKey : String
  tlsCert : String
  deriving DecidableEq, Repr

/-- The members of a payload: values that are not given are left out. -/
def RadSecSourceInput.document (p : RadSecSourceInput) : Json := .given
  [("name", p.name.map Json.text),
   ("secret", p.secret.map Json.text),
   ("description", p.description.map Json.text),
   ("source_subnets", p.sourceSubnets.map Codec.string.list.write),
   ("tls_key", some (Json.text p.tlsKey)),
   ("tls_cert", some (Json.text p.tlsCert))]

/-! ## Operations -/

/-- One page of sources. -/
def RadSec.list (page : PageParams) : Operation (Page RadSecSource) :=
  .fetch (.radSec (.list page)) (Page.codec RadSecSource.codec)

/-- All sources, not in pages. -/
def RadSec.listAll : Operation (List RadSecSource) :=
  .fetch (.radSec .listAll) RadSecSource.codec.list

/-- The source with an id. -/
def RadSec.get (id : Int64) : Operation RadSecSource :=
  .fetch (.radSec (.get id)) RadSecSource.codec

/-- A new source. -/
def RadSec.create (input : RadSecSourceInput) : Operation RadSecSource :=
  .fetch (.radSec .create) RadSecSource.codec input.document

/-- Values of the source are changed. -/
def RadSec.update (id : Int64) (input : RadSecSourceInput) : Operation RadSecSource :=
  .fetch (.radSec (.update id)) RadSecSource.codec input.document

/-- The source is deleted. -/
def RadSec.delete (id : Int64) : Operation Unit := .execute (.radSec (.delete id))

end AccessConsole
