import AccessConsole.Text.Bytes
import AccessConsole.Text.Search

/-!
# Paths

Where a file is, as it is told to the file system.

* `Path` — a path as it is spelled: `Path.ofBytes`, `Path.toBytes`.
* `Path.steps` — the way from the root or the working directory to a place.
* `Path.join` — a path and then another one.
* `Path.prefixes` — the directories on the way.
* `Path.withExtension` — the path with another extension of its file name.
-/

namespace AccessConsole

/-- The name of a file in its directory. -/
abbrev FileName := Bytes

namespace FileName

/-- The byte that divides a name from its extension. -/
def dot : UInt8 := 46

/-- The byte that no name has. -/
def zero : UInt8 := 0

/-- How many bytes a name has at most. -/
def maxLength : Nat := 255

/-- A name without its extension, that is, up to its last dot. A name whose only dot comes first
has no extension. -/
def stem (name : FileName) : FileName :=
  let before := ((name.reverse.dropWhile (· ≠ dot)).drop 1).reverse
  if before.isEmpty then name else before

/-- The name with an extension in the place of its own. -/
def withExtension (name : FileName) (extension : Bytes) : FileName :=
  name.stem ++ dot :: extension

end FileName

/-- A step on the way to a place. -/
inductive Step
  /-- To the directory above. -/
  | up
  | down (name : FileName)
  deriving DecidableEq, Repr

/-- A path, by the pieces between its slashes. -/
structure Path where
  pieces : List Bytes
  deriving DecidableEq, Repr

namespace Path

/-- The byte between two pieces. -/
def slash : UInt8 := 47

/-- How many bytes a path has at most. -/
def maxLength : Nat := 4095

/-- The path that bytes spell. -/
def ofBytes (b : Bytes) : Path := ⟨Text.splitAt slash b⟩

/-- The path that a text spells. -/
def ofText (s : String) : Path := ofBytes (Bytes.ofText s)

/-- How a path is spelled. -/
def toBytes (p : Path) : Bytes := Text.join [slash] p.pieces

/-! ## Steps -/

/-- The piece that stands for the step up. -/
def upPiece : Bytes := [FileName.dot, FileName.dot]

/-- The step that a piece stands for. An empty piece and a dot stand for none. -/
def step? (piece : Bytes) : Option Step :=
  if piece = [] ∨ piece = [FileName.dot] then none
  else if piece = upPiece then some .up
  else some (.down piece)

/-- The steps on the way. -/
def steps (p : Path) : List Step := p.pieces.filterMap step?

/-- The way begins at the root, and not in the working directory. -/
def absolute (p : Path) : Bool :=
  match p.pieces with
  | [] :: _ :: _ => true
  | _ => false

/-- The path ends without a step, so it can only lead to a directory. -/
def toDirectory (p : Path) : Bool := p.pieces.getLast?.all fun piece => (step? piece).isNone

/-- The pieces up to the last step. -/
def trimmed (p : Path) : List Bytes :=
  (p.pieces.reverse.dropWhile fun piece => (step? piece).isNone).reverse

/-! ## Other paths -/

/-- The way to a place and then on by another path; an absolute one starts anew. -/
def join (p q : Path) : Path :=
  if q.absolute then q
  else if p.pieces.getLast? = some [] then ⟨p.pieces.dropLast ++ q.pieces⟩
  else ⟨p.pieces ++ q.pieces⟩

/-- The beginnings of a list, shortest first, without the empty one. -/
def beginnings {α : Type} : List α → List (List α)
  | [] => []
  | a :: rest => [a] :: (beginnings rest).map (a :: ·)

/-- The ways to the directories above a place, outermost first. -/
def prefixes (p : Path) : List Path :=
  ((beginnings p.trimmed.dropLast).map Path.mk).filter fun q => !q.toDirectory

/-- The path with another extension of its file name. A path without a file name stays. Of a name
that has one dot before its extension and nothing before that dot, two dots are left when the
extension goes: a path that ends in such a name leads up instead, and gets no extension. -/
def withExtension (p : Path) (extension : Bytes) : Path :=
  match p.trimmed.getLast? with
  | none => p
  | some name =>
    if name = upPiece then p
    else
      let last :=
        if FileName.stem name = [FileName.dot] ∧ p.toDirectory = false then upPiece
        else FileName.withExtension name extension
      ⟨p.trimmed.dropLast ++ [last]⟩

end Path

end AccessConsole
