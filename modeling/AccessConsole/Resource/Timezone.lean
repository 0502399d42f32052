import AccessConsole.Resource.Operation

/-!
# Timezones

Reference timezones of devices.

* `Timezone` — a timezone.
* `Timezone.list` — all of them (`TimezoneService`).
-/

namespace AccessConsole

/-- A timezone of a device. -/
structure Timezone where
  id : Int64
  name : String
  /-- Minutes east of UTC. -/
  offset : Int32
  /-- The offset as a label, such as `UTC+05:30`. -/
  offsetFormatted : String
  deriving DecidableEq, Repr

/-- The document of a timezone. -/
def Timezone.codec : Codec Timezone := .record
  (.cons (.required "id" .int64) <|
   .cons (.required "name" .string) <|
   .cons (.defaulted "offset" .int32 0) <|
   .cons (.defaulted "offset_formatted" .string "") .nil)
  (fun x => (x.id, x.name, x.offset, x.offsetFormatted, ()))
  (fun (id, name, offset, offsetFormatted, _) =>
    ⟨id, name, offset, offsetFormatted⟩)

/-! ## Operations -/

/-- All timezones, in order of their offset. -/
def Timezone.list : Operation (List Timezone) := .fetch (.reference .timezones) codec.list

end AccessConsole
