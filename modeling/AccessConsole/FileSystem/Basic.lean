import AccessConsole.FileSystem.Path

/-!
# File systems

Directories and files with their contents and permission bits. There are no links, so every place
has one name.

* `Path.check` — whether a path can be asked for at all.
* `FileSystem` — what is at each place.
* `FileSystem.locate` — the place to which a path leads.
* `FileSystem.read` — the content of a file.
-/

namespace AccessConsole

/-- Permission bits: read, write and execute, for owner, group and others. -/
abbrev Permissions := BitVec 9

/-- What is at a place. -/
inductive Node
  | directory (permissions : Permissions)
  | file (content : Bytes) (permissions : Permissions)
  deriving DecidableEq, Repr

/-- The permission bits of what is at a place. -/
def Node.permissions : Node → Permissions
  | .directory permissions => permissions
  | .file _ permissions => permissions

/-- The names on the way from the root to a place, innermost first. -/
abbrev Location := List FileName

/-- Why the file system refuses a call. -/
inductive FileError
  /-- Nothing is there. -/
  | missing
  /-- A file is where a directory is needed. -/
  | notDirectory
  /-- A directory is where a file is needed. -/
  | isDirectory
  /-- The path has a zero byte. -/
  | zeroByte
  /-- The path, or a name in it, has too many bytes. -/
  | tooLong
  deriving DecidableEq, Repr

/-- A path with a zero byte would end there, a path with too many bytes is not read, and a path
without bytes leads nowhere. -/
def Path.check (path : Path) : Except FileError Unit :=
  if FileName.zero ∈ path.toBytes then .error .zeroByte
  else if Path.maxLength < path.toBytes.length then .error .tooLong
  else if path.toBytes = [] then .error .missing
  else .ok ()

/-- What is at each place; the root is always a directory. -/
structure FileSystem where
  nodes : List (Location × Node) := []
  workingDirectory : Location := []
  /-- The permission bits that new files and directories do not get. -/
  umask : Permissions := 0o022
  deriving DecidableEq, Repr

namespace FileSystem

/-- The permission bits of the root. -/
def rootPermissions : Permissions := 0o755

/-- What is at a place. -/
def node? (fs : FileSystem) (location : Location) : Option Node :=
  if location = [] then some (.directory rootPermissions)
  else (fs.nodes.find? (·.1 = location)).map (·.2)

/-- The file system without what is at a place. -/
def erase (fs : FileSystem) (location : Location) : FileSystem :=
  { fs with nodes := fs.nodes.filter (·.1 ≠ location) }

/-- The file system with something at a place. -/
def put (fs : FileSystem) (location : Location) (node : Node) : FileSystem :=
  { fs with nodes := (location, node) :: (fs.erase location).nodes }

/-- Everything below a place, by the names on the way from it, outermost first. -/
def below (fs : FileSystem) (location : Location) : List (List FileName × Node) :=
  fs.nodes.filterMap fun (place, node) =>
    let way := place.reverse
    if location.reverse.isPrefixOf way && location.length < way.length then
      some (way.drop location.length, node)
    else none

/-! ## Paths -/

/-- The place after some steps. A step needs a directory to start from, and a step down needs a name
that the directory can hold. -/
def walk (fs : FileSystem) (here : Location) : List Step → Except FileError Location
  | [] => .ok here
  | step :: rest =>
    match fs.node? here with
    | some (.directory _) =>
      match step with
      | .up => walk fs here.tail rest
      | .down name =>
        if FileName.maxLength < name.length then .error .tooLong else walk fs (name :: here) rest
    | some (.file ..) => .error .notDirectory
    | none => .error .missing

/-- The place to which a path leads, whether or not something is there. The path is looked at as a
whole first. A path that can only lead to a directory does not lead to a file. -/
def locate (fs : FileSystem) (path : Path) : Except FileError Location := do
  path.check
  let place ← fs.walk (if path.absolute then [] else fs.workingDirectory) path.steps
  match path.toDirectory, fs.node? place with
  | true, some (.file ..) => .error .notDirectory
  | _, _ => .ok place

/-- What is at the end of a path. -/
def look (fs : FileSystem) (path : Path) : Except FileError Node := do
  match fs.node? (← fs.locate path) with
  | some node => .ok node
  | none => .error .missing

/-- The content of a file. -/
def read (fs : FileSystem) (path : Path) : Except FileError Bytes := do
  match ← fs.look path with
  | .file content _ => .ok content
  | .directory _ => .error .isDirectory

end FileSystem

end AccessConsole
