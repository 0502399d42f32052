/-!
# JSON documents

* `Json.Number` — a numeral as written: an integer, or a numeral with a point or an exponent.
* `Json` — a document, with object members in the order in which they stand, repeats included.

A JSON string may hold an escape for half of a surrogate pair, and then spells no text. Such a
string is still a well-formed part of a document, so strings and member names are `Option String`,
with `none` for one that spells no text.
-/

namespace AccessConsole

/-- A JSON numeral. -/
inductive Json.Number
  /-- An integer, written with digits alone. Minus zero is not one: it is `decimal true 0 [] 0`. -/
  | integer (n : Int)
  /-- The digits before the point, those after it, and the power of ten that scales them. -/
  | decimal (negative : Bool) (whole : Nat) (fraction : List (Fin 10)) (exponent : Int)
  deriving DecidableEq, Repr, Inhabited

/-- A JSON document. -/
inductive Json
  | null
  | bool (b : Bool)
  | number (n : Json.Number)
  | string (text : Option String)
  | array (items : List Json)
  | object (members : List (Option String × Json))
  deriving BEq, Repr, Inhabited

namespace Json

/-- The document of a text. -/
def text (s : String) : Json := .string (some s)

/-- The document of an integer. -/
def int (n : Int) : Json := .number (.integer n)

/-- The object with the given members, in this order. -/
def record (members : List (String × Json)) : Json :=
  .object (members.map fun m => (some m.1, m.2))

end Json

end AccessConsole
