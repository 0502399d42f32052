/-!
# Stores of texts

Session data outlives a process in a store of texts under keys.

* `AccessError`, `StoreError` — why a store fails.
* `KeyStore` — the operations of a store.
* `MemoryStore` — the store that lives as long as the process.
-/

namespace AccessConsole

/-- Why what holds data cannot be read or written. -/
inductive AccessError
  /-- It refuses, in its own words. -/
  | refused (text : String)
  /-- It holds no text. -/
  | notText
  /-- It is asked for by a name with a zero byte. -/
  | zeroByte
  deriving DecidableEq, Repr

/-- The wording of a failure. -/
def AccessError.message : AccessError → String
  | .refused text => text
  | .notText => "stream did not contain valid UTF-8"
  | .zeroByte => "file name contained an unexpected NUL byte"

/-- Why a store fails (`StoreError`). -/
inductive StoreError
  /-- What holds the data could not be read or written. -/
  | io (error : AccessError)
  /-- What holds the data does not hold an object of texts. -/
  | corrupt
  deriving DecidableEq, Repr

/-- The wording of a failure. The place of a fault in a document is not told. -/
def StoreError.message : StoreError → String
  | .io error => "session store io failed: " ++ error.message
  | .corrupt => "session store is corrupt: <json>"

/-- A store of texts under keys (`KeyValueStore`). Writing gives the store as it is afterwards, also
where it fails. -/
class KeyStore (σ : Type) where
  get : σ → String → Except StoreError (Option String)
  set : σ → String → String → Except StoreError Unit × σ
  remove : σ → String → Except StoreError Unit × σ

/-- Texts under keys, each key once. -/
abbrev Entries := List (String × String)

namespace Entries

/-- The text under a key. -/
def get? (entries : Entries) (key : String) : Option String :=
  (entries.find? (·.1 = key)).map (·.2)

/-- The entries without the key. -/
def erase (entries : Entries) (key : String) : Entries := entries.filter (·.1 ≠ key)

/-- The entries with a text under a key, in order of the keys. -/
def insert (entries : Entries) (key value : String) : Entries :=
  entries.filter (·.1 < key) ++ (key, value) :: entries.filter (key < ·.1)

end Entries

/-- The store that lives as long as the process (`MemoryStore`). It never fails. -/
structure MemoryStore where
  entries : Entries := []
  deriving DecidableEq, Repr

instance : KeyStore MemoryStore where
  get s key := .ok (s.entries.get? key)
  set s key value := (.ok (), ⟨s.entries.insert key value⟩)
  remove s key := (.ok (), ⟨s.entries.erase key⟩)

end AccessConsole
