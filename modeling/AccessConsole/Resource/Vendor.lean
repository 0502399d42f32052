import AccessConsole.Resource.Operation

/-!
# Vendors

Makers of network access servers.

* `Vendor` — a vendor.
* `VendorInput` — what is sent to create or change one.
* `Vendor.list` and so on — what can be done with vendors (`VendorService`).
-/

namespace AccessConsole

/-- A maker of network access servers. -/
structure Vendor where
  id : Int64
  name : String
  description : String
  /-- The private enterprise number. -/
  vendorId : Int64
  createdAt : Option String
  updatedAt : Option String
  deriving DecidableEq, Repr

/-- The document of a vendor. -/
def Vendor.codec : Codec Vendor := .record
  (.cons (.required "id" .int64) <|
   .cons (.required "name" .string) <|
   .cons (.defaulted "description" .string "") <|
   .cons (.defaulted "vendor_id" .int64 0) <|
   .cons (.optional "created_at" .string) <|
   .cons (.optional "updated_at" .string) .nil)
  (fun x => (x.id, x.name, x.description, x.vendorId, x.createdAt, x.updatedAt, ()))
  (fun (id, name, description, vendorId, createdAt, updatedAt, _) =>
    ⟨id, name, description, vendorId, createdAt, updatedAt⟩)

/-- What is sent to create or change a vendor. -/
structure VendorInput where
  name : Option String := none
  description : Option String := none
  vendorId : Option Int64 := none
  deriving DecidableEq, Repr

/-- The members of a payload: values that are not given are left out. -/
def VendorInput.document (p : VendorInput) : Json := .given
  [("name", p.name.map Json.text),
   ("description", p.description.map Json.text),
   ("vendor_id", p.vendorId.map (Json.int ·.toInt))]

/-! ## Operations -/

/-- One page of vendors. -/
def Vendor.list (page : PageParams) : Operation (Page Vendor) :=
  .fetch (.vendor (.list page)) (Page.codec codec)

/-- All vendors, not in pages. -/
def Vendor.listAll : Operation (List Vendor) := .fetch (.vendor .listAll) codec.list

/-- The vendor with an id. -/
def Vendor.get (id : Int64) : Operation Vendor := .fetch (.vendor (.get id)) codec

/-- A new vendor. -/
def Vendor.create (input : VendorInput) : Operation Vendor :=
  .fetch (.vendor .create) codec input.document

/-- Values of the vendor are changed. -/
def Vendor.update (id : Int64) (input : VendorInput) : Operation Vendor :=
  .fetch (.vendor (.update id)) codec input.document

/-- The vendor is deleted. -/
def Vendor.delete (id : Int64) : Operation Unit := .execute (.vendor (.delete id))

/-- The vendor is replaced. -/
def Vendor.replace (id : Int64) (input : VendorInput) : Operation Vendor :=
  .fetch (.vendor (.replace id)) codec input.document

end AccessConsole
