import AccessConsole.Json.Printer
import AccessConsole.Json.Untyped

/-!
# Models and their documents

A codec ties a type to the documents that stand for its values.

* `Codec` — the document of a value, and the value of a document.
* `Codec.bool`, `Codec.string`, `Codec.int64` and so on — codecs of plain values.
* `Codec.optional`, `Codec.list` — codecs built from others.
* `Field`, `Fields`, `Codec.record` — codecs of records with named fields.
* `Codec.encode`, `Codec.decode?` — the same through text.

What is read has to fit exactly: integers are written with digits alone and lie in the range of
their type, only optional values may be null, and no field stands twice. Members that are no
fields of a record are passed over. A record may also stand as an array of its fields in order.
-/

namespace AccessConsole

open Json (nestingLimit)

/-- How the values of a type stand in documents. Reading is given the number of arrays and objects
that may still be opened. -/
structure Codec (α : Type) where
  write : α → Json
  read? : Nat → Json → Option α

namespace Codec

variable {α : Type}

/-- The text of a value. -/
def encode (c : Codec α) (a : α) : String := (c.write a).compact

/-- The value that a text stands for. -/
def decode? (c : Codec α) (s : String) : Option α := (Json.read? s).bind (c.read? nestingLimit)

/-! ## Plain values -/

/-- Truth values. -/
def bool : Codec Bool where
  write := .bool
  read? _
    | .bool b => some b
    | _ => none

/-- Texts. -/
def string : Codec String where
  write := Json.text
  read? _
    | .string s => s
    | _ => none

/-- Integers from `low` to `high`, as values of a type of that range. -/
def ranged (low high : Int) (ofInt : Int → α) (toInt : α → Int) : Codec α where
  write a := Json.int (toInt a)
  read? _
    | .number (.integer n) => if low ≤ n && n ≤ high then some (ofInt n) else none
    | _ => none

/-- Signed 64-bit integers. -/
def int64 : Codec Int64 :=
  ranged Int64.minValue.toInt Int64.maxValue.toInt Int64.ofInt Int64.toInt

/-- Signed 32-bit integers. -/
def int32 : Codec Int32 :=
  ranged Int32.minValue.toInt Int32.maxValue.toInt Int32.ofInt Int32.toInt

/-- Natural numbers of 64 bits. -/
def uint64 : Codec UInt64 := ranged 0 (UInt64.size - 1) (fun n => n.toNat.toUInt64) (·.toNat)

/-- Natural numbers of 32 bits. -/
def uint32 : Codec UInt32 := ranged 0 (UInt32.size - 1) (fun n => n.toNat.toUInt32) (·.toNat)

/-- Natural numbers of 16 bits. -/
def uint16 : Codec UInt16 := ranged 0 (UInt16.size - 1) (fun n => n.toNat.toUInt16) (·.toNat)

/-- Documents without a model. -/
def untyped : Codec Json where
  write := id
  read? := Json.untyped?

/-- A value that may be absent, which null stands for. -/
def optional (c : Codec α) : Codec (Option α) where
  write
    | none => .null
    | some a => c.write a
  read? depth
    | .null => some none
    | j => (c.read? depth j).map some

/-- Lists, as arrays. -/
def list (c : Codec α) : Codec (List α) where
  write as := .array (as.map c.write)
  read?
    | depth + 1, .array items => items.mapM (c.read? depth)
    | _, _ => none

end Codec

/-! ## Records -/

/-- A field of a record: its name, its codec, the value that it has where it is missing (none if
it must not be), and whether a value is left out when the record is written. -/
structure Field (α : Type) where
  name : String
  codec : Codec α
  default : Option α
  omits : α → Bool

namespace Field

variable {α : Type}

/-- A field that has to be there. -/
def required (name : String) (codec : Codec α) : Field α := ⟨name, codec, none, fun _ => false⟩

/-- A field with a value for where it is missing. -/
def defaulted (name : String) (codec : Codec α) (value : α) : Field α :=
  ⟨name, codec, some value, fun _ => false⟩

/-- A field that may be missing or null. It is always written. -/
def optional (name : String) (codec : Codec α) : Field (Option α) :=
  ⟨name, codec.optional, some none, fun _ => false⟩

/-- A field that may be missing or null. It is left out where there is no value. -/
def sparse (name : String) (codec : Codec α) : Field (Option α) :=
  ⟨name, codec.optional, some none, Option.isNone⟩

/-- The member of a value, unless it is left out. -/
def member (f : Field α) (a : α) : List (String × Json) :=
  if f.omits a then [] else [(f.name, f.codec.write a)]

/-- The value of a field whose document, if it has one, is given. -/
def value? (f : Field α) (depth : Nat) : Option Json → Option α
  | some j => f.codec.read? depth j
  | none => f.default

end Field

/-- The fields of a record in order, and the type of the tuple of their values. -/
inductive Fields : Type → Type 1
  | nil : Fields Unit
  | cons {α β : Type} (field : Field α) (rest : Fields β) : Fields (α × β)

namespace Fields

/-- The names of the fields. -/
def names {τ : Type} : Fields τ → List String
  | .nil => []
  | .cons field rest => field.name :: rest.names

/-- The members that stand for the values. -/
def members {τ : Type} : Fields τ → τ → List (String × Json)
  | .nil, _ => []
  | .cons field rest, (a, b) => field.member a ++ rest.members b

/-- The values of the fields, given the documents of those that are there. -/
def values? {τ : Type} : Fields τ → Nat → List (Option Json) → Option τ
  | .nil, _, _ => some ()
  | .cons field rest, depth, slots => do
    let a ← field.value? depth (slots.head?.bind id)
    let b ← rest.values? depth slots.tail
    return (a, b)

end Fields

/-- The documents of the fields with the given names, in that order. An object must not hold any
of the names twice or a name that spells no text; an array must not be longer than the names. -/
def slots? (names : List String) : Json → Option (List (Option Json))
  | .object members =>
    let known := members.filterMap fun m => m.1.filter (· ∈ names)
    if members.all (·.1.isSome) && decide known.Nodup then
      some (names.map fun n => (members.find? (·.1 = some n)).map (·.2))
    else none
  | .array items =>
    if items.length ≤ names.length then
      some (items.map some ++ List.replicate (names.length - items.length) none)
    else none
  | _ => none

/-- A record with the given fields; `toTuple` and `ofTuple` go between it and its values. -/
def Codec.record {α τ : Type} (fields : Fields τ) (toTuple : α → τ) (ofTuple : τ → α) :
    Codec α where
  write a := Json.record (fields.members (toTuple a))
  read?
    | 0, _ => none
    | depth + 1, j => ((slots? fields.names j).bind (fields.values? depth)).map ofTuple

end AccessConsole
