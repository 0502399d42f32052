import AccessConsole.Resource.Group
import AccessConsole.Resource.Secret
import AccessConsole.Resource.Timezone
import AccessConsole.Resource.Vendor

/-!
# Devices

Network access servers, the devices that let people in.

* `Nas` — a device.
* `NasCreate`, `NasUpdate` — what is sent to create or change one.
* `Device.list` and so on — what can be done with devices and their groups (`NasService`).
-/

namespace AccessConsole

/-- A network access server. -/
structure Nas where
  id : Int64
  name : String
  description : String
  ipAddress : String
  coaEnabled : Bool
  coaPort : Option UInt16
  groups : List (GroupTree .nas)
  secretId : Option Int64
  secret : Option Secret
  vendorId : Option Int64
  vendor : Option Vendor
  timezoneId : Option Int64
  timezone : Option Timezone
  createdAt : Option String
  updatedAt : Option String
  deriving BEq, Repr

/-- The document of a device. -/
def Nas.codec : Codec Nas := .record
  (.cons (.required "id" .int64) <|
   .cons (.required "name" .string) <|
   .cons (.defaulted "description" .string "") <|
   .cons (.required "ip_address" .string) <|
   .cons (.defaulted "coa_enabled" .bool false) <|
   .cons (.optional "coa_port" .uint16) <|
   .cons (.defaulted "groups" (.list (GroupTree.codec .nas)) []) <|
   .cons (.optional "secret_id" .int64) <|
   .cons (.optional "secret" Secret.codec) <|
   .cons (.optional "vendor_id" .int64) <|
   .cons (.optional "vendor" Vendor.codec) <|
   .cons (.optional "timezone_id" .int64) <|
   .cons (.optional "timezone" Timezone.codec) <|
   .cons (.optional "created_at" .string) <|
   .cons (.optional "updated_at" .string) .nil)
  (fun x => (x.id, x.name, x.description, x.ipAddress, x.coaEnabled, x.coaPort, x.groups,
    x.secretId, x.secret, x.vendorId, x.vendor, x.timezoneId, x.timezone, x.createdAt,
    x.updatedAt, ()))
  (fun (id, name, description, ipAddress, coaEnabled, coaPort, groups, secretId, secret, vendorId,
    vendor, timezoneId, timezone, createdAt, updatedAt, _) =>
    ⟨id, name, description, ipAddress, coaEnabled, coaPort, groups, secretId, secret, vendorId,
     vendor, timezoneId, timezone, createdAt, updatedAt⟩)

/-- What is sent to create a device. -/
structure NasCreate where
  name : String
  description : String
  ipAddress : String
  coaEnabled : Bool
  coaPort : UInt16
  groupIds : List Int64
  secretId : Option Int64 := none
  isActive : Bool
  deriving DecidableEq, Repr

/-- The members of a payload: values that are not given are left out. -/
def NasCreate.document (p : NasCreate) : Json := .given
  [("name", some (Json.text p.name)),
   ("description", some (Json.text p.description)),
   ("ip_address", some (Json.text p.ipAddress)),
   ("coa_enabled", some (Json.bool p.coaEnabled)),
   ("coa_port", some (Json.int p.coaPort.toNat)),
   ("group_ids", some (Codec.int64.list.write p.groupIds)),
   ("secret_id", p.secretId.map (Json.int ·.toInt)),
   ("is_active", some (Json.bool p.isActive))]

/-- What is sent to change a device. -/
structure NasUpdate where
  name : Option String := none
  description : Option String := none
  ipAddress : Option String := none
  coaEnabled : Option Bool := none
  coaPort : Option UInt16 := none
  groupIds : Option (List Int64) := none
  secretId : Option Int64 := none
  vendorId : Option Int64 := none
  timezoneId : Option Int64 := none
  deriving DecidableEq, Repr

/-- The members of a payload: values that are not given are left out. -/
def NasUpdate.document (p : NasUpdate) : Json := .given
  [("name", p.name.map Json.text),
   ("description", p.description.map Json.text),
   ("ip_address", p.ipAddress.map Json.text),
   ("coa_enabled", p.coaEnabled.map Json.bool),
   ("coa_port", p.coaPort.map (Json.int ·.toNat)),
   ("group_ids", p.groupIds.map Codec.int64.list.write),
   ("secret_id", p.secretId.map (Json.int ·.toInt)),
   ("vendor_id", p.vendorId.map (Json.int ·.toInt)),
   ("timezone_id", p.timezoneId.map (Json.int ·.toInt))]

/-! ## Operations -/

/-- One page of devices. -/
def Device.list (page : PageParams) : Operation (Page Nas) :=
  .fetch (.nas (.list page)) (Page.codec Nas.codec)

/-- The device with an id. -/
def Device.get (id : Int64) : Operation Nas := .fetch (.nas (.get id)) Nas.codec

/-- A new device. -/
def Device.create (input : NasCreate) : Operation Nas :=
  .fetch (.nas .create) Nas.codec input.document

/-- Values of the device are changed. -/
def Device.update (id : Int64) (input : NasUpdate) : Operation Nas :=
  .fetch (.nas (.update id)) Nas.codec input.document

/-- The device is deleted. -/
def Device.delete (id : Int64) : Operation Unit := .execute (.nas (.delete id))

/-- The devices of a group. -/
def Device.byGroup (group : Int64) : Operation (List Nas) :=
  .fetch (.nas (.byGroup group)) Nas.codec.list

/-- The devices that let an identifier in. -/
def Device.authorized (user identifier : Int64) : Operation (List Nas) :=
  .fetch (.nas (.authorized user identifier)) Nas.codec.list

/-- The devices that do not let an identifier in. -/
def Device.available (user identifier : Int64) : Operation (List Nas) :=
  .fetch (.nas (.available user identifier)) Nas.codec.list

/-- A device lets an identifier in from now on. -/
def Device.authorize (user identifier nas : Int64) : Operation Unit :=
  .execute (.nas (.authorize user identifier nas)) Operation.emptyBody

/-- A device no longer lets an identifier in. -/
def Device.revoke (user identifier nas : Int64) : Operation Unit :=
  .execute (.nas (.revoke user identifier nas))

/-- All devices let an identifier in from now on. -/
def Device.authorizeAll (user identifier : Int64) : Operation Unit :=
  .execute (.nas (.authorizeAll user identifier)) Operation.emptyBody

/-- No device lets an identifier in any longer. -/
def Device.revokeAll (user identifier : Int64) : Operation Unit :=
  .execute (.nas (.revokeAll user identifier))

/-- One page of groups. -/
def Device.listGroups (page : PageParams) : Operation (Page (GroupTree .nas)) :=
  .fetch (.nas (.listGroups page)) (Page.codec (GroupTree.codec .nas))

/-- The group with an id. -/
def Device.getGroup (id : Int64) : Operation (GroupTree .nas) :=
  .fetch (.nas (.getGroup id)) (GroupTree.codec .nas)

/-- A new group. -/
def Device.createGroup (input : NasGroupInput) : Operation (GroupTree .nas) :=
  .fetch (.nas .createGroup) (GroupTree.codec .nas) input.document

/-- Values of the group are changed. -/
def Device.updateGroup (id : Int64) (input : NasGroupInput) : Operation (GroupTree .nas) :=
  .fetch (.nas (.updateGroup id)) (GroupTree.codec .nas) input.document

/-- The group is deleted. -/
def Device.deleteGroup (id : Int64) : Operation Unit := .execute (.nas (.deleteGroup id))

/-- The groups, nested. -/
def Device.groupTree : Operation (List (GroupTree .nas)) :=
  .fetch (.nas .groupTree) (GroupTree.codec .nas).list

/-- The groups in a listing. -/
def Device.flattenedGroupTree : Operation (List (Group .nas)) :=
  .flattened (.nas .groupTree) .nas

end AccessConsole
