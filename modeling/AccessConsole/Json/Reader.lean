import AccessConsole.Json.Token

/-!
# Reading a document

Documents are read from left to right over their tokens, with the arrays and objects that are
still open kept on a stack, so nesting has no bound here.

* `Frame` — an array or object that waits for a value inside it.
* `Cursor` — the open frames and what may stand next.
* `Cursor.step` — the cursor after one more token.
* `ofTokens?`, `read?` — the document that tokens or a text spell.
-/

namespace AccessConsole.Json

/-- An array or object that waits for a value. Its parts so far are kept last one first. -/
inductive Frame
  | array (items : List Json)
  /-- The value of the member `name` comes next. -/
  | object (members : List (Option String × Json)) (name : Option String)
  deriving Repr

/-- What may stand next. Parts so far are kept last one first. -/
inductive Expected
  /-- A value. -/
  | value
  /-- A value, or the end of the array just opened. -/
  | itemOrEnd
  /-- A comma, or the end of the array with these items. -/
  | nextItem (items : List Json)
  /-- A member name, or the end of the object just opened. -/
  | nameOrEnd
  /-- A member name after a comma. -/
  | name (members : List (Option String × Json))
  /-- The colon after a member name. -/
  | colon (members : List (Option String × Json)) (name : Option String)
  /-- A comma, or the end of the object with these members. -/
  | nextMember (members : List (Option String × Json))
  /-- Nothing: the document is complete. -/
  | done (document : Json)
  deriving Repr

/-- The frames that wait for a value, innermost first, and what may stand next. -/
structure Cursor where
  frames : List Frame
  expected : Expected
  deriving Repr

namespace Cursor

/-- The cursor before a document. -/
def start : Cursor := ⟨[], .value⟩

/-- The cursor after a complete value for the innermost frame. -/
def close (frames : List Frame) (value : Json) : Cursor :=
  match frames with
  | [] => ⟨[], .done value⟩
  | .array items :: outer => ⟨outer, .nextItem (value :: items)⟩
  | .object members name :: outer => ⟨outer, .nextMember ((name, value) :: members)⟩

/-- The cursor after the first token of a value; none if no value begins so. -/
def openValue (frames : List Frame) : Token → Option Cursor
  | .null => some (close frames .null)
  | .bool b => some (close frames (.bool b))
  | .number n => some (close frames (.number n))
  | .string s => some (close frames (.string s))
  | .openArray => some ⟨frames, .itemOrEnd⟩
  | .openObject => some ⟨frames, .nameOrEnd⟩
  | _ => none

/-- The cursor after one more token; none if the token may not stand there. -/
def step (c : Cursor) (t : Token) : Option Cursor :=
  match c.expected with
  | .value => openValue c.frames t
  | .itemOrEnd =>
    if t = .closeArray then some (close c.frames (.array []))
    else openValue (.array [] :: c.frames) t
  | .nextItem items =>
    match t with
    | .comma => some ⟨.array items :: c.frames, .value⟩
    | .closeArray => some (close c.frames (.array items.reverse))
    | _ => none
  | .nameOrEnd =>
    match t with
    | .string s => some ⟨c.frames, .colon [] s⟩
    | .closeObject => some (close c.frames (.object []))
    | _ => none
  | .name members =>
    match t with
    | .string s => some ⟨c.frames, .colon members s⟩
    | _ => none
  | .colon members name =>
    if t = .colon then some ⟨.object members name :: c.frames, .value⟩ else none
  | .nextMember members =>
    match t with
    | .comma => some ⟨c.frames, .name members⟩
    | .closeObject => some (close c.frames (.object members.reverse))
    | _ => none
  | .done _ => none

/-- The document that has been read; none while a part of it is missing. -/
def document? (c : Cursor) : Option Json :=
  match c.expected with
  | .done document => some document
  | _ => none

end Cursor

/-- The document that a row of tokens spells. -/
def ofTokens? (ts : List Token) : Option Json :=
  (ts.foldlM Cursor.step Cursor.start).bind Cursor.document?

/-- The document that a text spells. -/
def read? (s : String) : Option Json :=
  (Token.scan s.toList).bind ofTokens?

end AccessConsole.Json
