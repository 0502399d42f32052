import AccessConsole.Json.Token

/-!
# Writing a document

* `tokens` — the tokens of a document, without white space.
* `compact` — the text without white space.
* `pretty` — the text with one item or member on a line, two spaces deeper than what holds it, and
  a space after each colon; an empty array or object stays on its line.
-/

namespace AccessConsole.Json

/-! ## Tokens -/

mutual

/-- The tokens of a document. -/
def tokens : Json → List Token
  | .null => [.null]
  | .bool b => [.bool b]
  | .number n => [.number n]
  | .string s => [.string s]
  | .array items => .openArray :: (itemTokens items ++ [.closeArray])
  | .object members => .openObject :: (memberTokens members ++ [.closeObject])

/-- The tokens of items, with commas between them. -/
def itemTokens : List Json → List Token
  | [] => []
  | [j] => j.tokens
  | j :: k :: rest => j.tokens ++ .comma :: itemTokens (k :: rest)

/-- The tokens of members, with commas between them. -/
def memberTokens : List (Option String × Json) → List Token
  | [] => []
  | [(name, j)] => .string name :: .colon :: j.tokens
  | (name, j) :: m :: rest =>
    .string name :: .colon :: (j.tokens ++ .comma :: memberTokens (m :: rest))

end

/-- The text of a document without white space. -/
def compactChars (j : Json) : List Char := j.tokens.flatMap Token.chars

/-- The text of a document without white space. -/
def compact (j : Json) : String := String.ofList j.compactChars

/-! ## Indented text -/

/-- The start of a line at a depth. -/
def newline (depth : Nat) : List Char := '\n' :: List.replicate (2 * depth) ' '

mutual

/-- The indented text of a document that stands at the given depth. -/
def prettyChars (depth : Nat) : Json → List Char
  | .array [] => ['[', ']']
  | .array (j :: rest) => '[' :: (prettyItems (depth + 1) (j :: rest) ++ newline depth ++ [']'])
  | .object [] => ['\x7b', '\x7d']
  | .object (m :: rest) =>
    '\x7b' :: (prettyMembers (depth + 1) (m :: rest) ++ newline depth ++ ['\x7d'])
  | .null => Token.null.chars
  | .bool b => (Token.bool b).chars
  | .number n => n.chars
  | .string s => stringChars s

/-- Items, each on a line of its own. -/
def prettyItems (depth : Nat) : List Json → List Char
  | [] => []
  | [j] => newline depth ++ prettyChars depth j
  | j :: k :: rest => newline depth ++ prettyChars depth j ++ ',' :: prettyItems depth (k :: rest)

/-- Members, each on a line of its own. -/
def prettyMembers (depth : Nat) : List (Option String × Json) → List Char
  | [] => []
  | [(name, j)] => newline depth ++ stringChars name ++ ':' :: ' ' :: prettyChars depth j
  | (name, j) :: m :: rest =>
    newline depth ++ stringChars name ++ ':' :: ' ' :: prettyChars depth j ++
      ',' :: prettyMembers depth (m :: rest)

end

/-- The indented text of a document. -/
def pretty (j : Json) : String := String.ofList (j.prettyChars 0)

end AccessConsole.Json
