import AccessConsole.Json.Double
import AccessConsole.Json.Reader

/-!
# Documents without a model

Where nothing is known about the shape of a document it is brought into one form: members in
order of their names, the last of repeated members only, integers that fit into 64 bits as they
are, and all other numbers as binary64 numbers.

* `nestingLimit` — the number of arrays and objects that may stand inside one another.
* `insertMember` — a member put into its place, in the stead of one with its name.
* `untyped?` — the form of a document.
* `sorted` — the document with its members in order, numbers as they are.
-/

namespace AccessConsole.Json

/-- The number of arrays and objects that may stand inside one another in what is read. Parts
that no model knows are passed over and do not count. -/
def nestingLimit : Nat := 127

/-- An integer that fits into a signed or an unsigned 64-bit word. -/
def isWord (n : Int) : Bool := Int64.minValue.toInt ≤ n && n < UInt64.size

/-- The one form of a numeral; none above the largest finite number. -/
def Number.canonical? (n : Number) : Option Number :=
  match n with
  | .integer i => if isWord i then some n else (Double.ofNumeral? n).map Double.numeral
  | _ => (Double.ofNumeral? n).map Double.numeral

/-- Members in order of their names, with the member given in the place of one with its name.
Names are ordered by code points. -/
def insertMember (name : String) (value : Json) :
    List (Option String × Json) → List (Option String × Json)
  | [] => [(some name, value)]
  | (other, v) :: rest =>
    if other = some name then (some name, value) :: rest
    else if other.any (name < ·) then (some name, value) :: (other, v) :: rest
    else (other, v) :: insertMember name value rest

/-- The one form of a document in which up to `depth` arrays and objects may be opened; none if it
is nested deeper, holds a number out of range or a string that spells no text. -/
def untyped? (depth : Nat) (j : Json) : Option Json :=
  match depth, j with
  | _, .null => some .null
  | _, .bool b => some (.bool b)
  | _, .number n => n.canonical?.map .number
  | _, .string s => s.map text
  | depth + 1, .array items => (items.mapM (untyped? depth)).map .array
  | depth + 1, .object members =>
    (members.foldlM (fun done (m : Option String × Json) => do
      let name ← m.1
      let value ← untyped? depth m.2
      return insertMember name value done) []).map .object
  | 0, .array _ => none
  | 0, .object _ => none

/-- The document without a model that a text spells. -/
def readUntyped? (s : String) : Option Json := (read? s).bind (untyped? nestingLimit)

mutual

/-- The document with the members of each object in order of their names. -/
def sorted : Json → Json
  | .array items => .array (sortedItems items)
  | .object members => .object (sortedMembers members)
  | j => j

/-- Each item with its members in order. -/
def sortedItems : List Json → List Json
  | [] => []
  | j :: rest => j.sorted :: sortedItems rest

/-- Members in order of their names, the last of repeated ones only. -/
def sortedMembers : List (Option String × Json) → List (Option String × Json)
  | [] => []
  | (name, j) :: rest =>
    let done := sortedMembers rest
    match name with
    | none => done
    | some n => if done.any (·.1 = some n) then done else insertMember n j.sorted done

end

end AccessConsole.Json
