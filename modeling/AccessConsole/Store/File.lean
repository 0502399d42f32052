import AccessConsole.FileSystem.Call
import AccessConsole.Json.Codec
import AccessConsole.Store.Basic
import AccessConsole.Text.Blank

/-!
# The store in a file

A store that outlives the process is one file with an object of texts in it. It is read again for
each operation. A change replaces the file as a whole, so that a reader finds either the old
entries or the new ones.

The names in parentheses are those that the program has for what is defined here.

* `Entries.text`, `Entries.decode?` — the text of entries, and the entries of a text.
* `FileError.access` — why a file cannot be read or written.
* `FileStore` — the store in a file.
* `FileStore.entries` — what the file holds.
* `FileStore.saveCalls` — the calls that a change makes.
-/

namespace AccessConsole

/-! ## The text of entries -/

namespace Entries

/-- The text of entries: an indented object. -/
def text (entries : Entries) : String :=
  (Json.record (entries.map fun e => (e.1, Json.text e.2))).pretty

/-- The entry that a member of an object stands for. -/
def ofMember? : Option String × Json → Option (String × String)
  | (some key, .string (some value)) => some (key, value)
  | _ => none

/-- The entries that a text stands for: it is an object of texts. Of repeated keys the last one
counts. -/
def decode? (s : String) : Option Entries :=
  match Json.read? s with
  | some (.object members) =>
    (members.mapM ofMember?).map fun entries =>
      entries.foldl (fun done e => done.insert e.1 e.2) []
  | _ => none

end Entries

/-! ## Failures -/

/-- The wording of a refusal of the file system; its own words are not told. -/
def systemMessage : String := "<os>"

/-- Why a file cannot be read or written. -/
def FileError.access : FileError → AccessError
  | .zeroByte => .zeroByte
  | _ => .refused systemMessage

/-! ## The store -/

/-- The store in a file, and the file system that holds it (`FileStore`). -/
structure FileStore where
  path : Path
  files : FileSystem
  deriving DecidableEq, Repr

namespace FileStore

/-- What the file holds (`read_map`). A file that is not there and a file of nothing but blanks hold
no entries. -/
def entries (s : FileStore) : Except StoreError Entries :=
  match s.files.read s.path with
  | .error .missing => .ok []
  | .error e => .error (.io e.access)
  | .ok bytes =>
    match Bytes.text? bytes with
    | none => .error (.io .notText)
    | some raw =>
      if Text.isBlankText raw then .ok []
      else
        match Entries.decode? raw with
        | some entries => .ok entries
        | none => .error .corrupt

/-- The extension of the file in which new entries are written. -/
def besideExtension : Bytes := Bytes.ofText "tmp"

/-- The calls that write entries (`write_map`). -/
def saveCalls (path : Path) (entries : Entries) : List FileCall :=
  FileCall.replace path (path.withExtension besideExtension) (Bytes.ofText entries.text)

/-- The entries are written (`update`, once the entries are known). -/
def save (s : FileStore) (entries : Entries) : Except StoreError Unit × FileStore :=
  match runCalls (saveCalls s.path entries) s.files with
  | (.ok _, files) => (.ok (), { s with files })
  | (.error e, files) => (.error (.io e.access), { s with files })

end FileStore

/-- Removing a key that is not there does not touch the file. -/
instance : KeyStore FileStore where
  get s key := s.entries.map (·.get? key)
  set s key value :=
    match s.entries with
    | .error e => (.error e, s)
    | .ok entries => s.save (entries.insert key value)
  remove s key :=
    match s.entries with
    | .error e => (.error e, s)
    | .ok entries => if (entries.get? key).isNone then (.ok (), s) else s.save (entries.erase key)

end AccessConsole
