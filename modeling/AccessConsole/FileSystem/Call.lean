import AccessConsole.FileSystem.Basic

/-!
# Calls to the file system

Writing is done by calls, each of which happens at once. A process may stop between two of them.

* `FileCall` — a call, and `FileCall.run` for what it does.
* `runCalls` — calls made in order, up to the first that fails.
* `FileCall.replace` — the calls that replace a file as a whole.
-/

namespace AccessConsole

/-- A call that changes the file system. -/
inductive FileCall
  /-- A directory is made where there is none. -/
  | makeDirectory (path : Path)
  /-- A file is made where there is none, and emptied where there is one. -/
  | create (path : Path)
  /-- Bytes are put at the end of a file. -/
  | append (path : Path) (bytes : Bytes)
  /-- A file gets permission bits. -/
  | restrict (path : Path) (permissions : Permissions)
  /-- A file goes to another place, and takes the place of a file that is there. -/
  | rename (source target : Path)
  deriving DecidableEq, Repr

namespace FileCall

/-- The permission bits that a new directory asks for. -/
def newDirectory : Permissions := 0o777

/-- The permission bits that a new file asks for. -/
def newFile : Permissions := 0o666

/-- Read and write for the owner, and nothing for anybody else. -/
def ownerOnly : Permissions := 0o600

/-- What a call does. A call that fails changes nothing. -/
def run : FileCall → FileSystem → Except FileError FileSystem
  | .makeDirectory path, fs => do
    let place ← fs.locate path
    match fs.node? place with
    | some (.directory _) => .ok fs
    | some (.file ..) => .error .notDirectory
    | none => .ok (fs.put place (.directory (newDirectory &&& ~~~fs.umask)))
  | .create path, fs => do
    let place ← fs.locate path
    match fs.node? place with
    | some (.directory _) => .error .isDirectory
    | some (.file _ permissions) => .ok (fs.put place (.file [] permissions))
    | none =>
      if path.toDirectory then .error .isDirectory
      else .ok (fs.put place (.file [] (newFile &&& ~~~fs.umask)))
  | .append path bytes, fs => do
    let place ← fs.locate path
    match fs.node? place with
    | some (.directory _) => .error .isDirectory
    | some (.file content permissions) => .ok (fs.put place (.file (content ++ bytes) permissions))
    | none => .error .missing
  | .restrict path permissions, fs => do
    let place ← fs.locate path
    match fs.node? place with
    | some (.directory _) => .ok (fs.put place (.directory permissions))
    | some (.file content _) => .ok (fs.put place (.file content permissions))
    | none => .error .missing
  | .rename source target, fs => do
    let place ← fs.locate source
    let goal ← fs.locate target
    match fs.node? place, fs.node? goal with
    | none, _ => .error .missing
    | some (.directory _), _ => .error .isDirectory
    | some (.file ..), some (.directory _) => .error .isDirectory
    | some (.file content permissions), _ =>
      if target.toDirectory then .error .notDirectory
      else .ok ((fs.erase place).put goal (.file content permissions))

/-! ## Replacing a file -/

/-- The calls that make the directories above a place (`create_dir_all`). -/
def makeParents (path : Path) : List FileCall := path.prefixes.map makeDirectory

/-- The calls that put a content into a file, whatever it held. -/
def write (path : Path) (content : Bytes) : List FileCall :=
  [.create path, .append path content]

/-- The calls that replace a file as a whole, and leave it to its owner alone: the content goes into
a file beside it, which then takes its place (`write_map`). -/
def replace (path beside : Path) (content : Bytes) : List FileCall :=
  makeParents path ++ write beside content ++
    [.restrict beside ownerOnly, .rename beside path]

end FileCall

/-- Calls made in order, up to the first that fails. -/
def runCalls : List FileCall → FileSystem → Except FileError Unit × FileSystem
  | [], fs => (.ok (), fs)
  | call :: rest, fs =>
    match call.run fs with
    | .ok fs => runCalls rest fs
    | .error e => (.error e, fs)

end AccessConsole
