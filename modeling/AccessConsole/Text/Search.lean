/-!
# Searching and splitting text

* `occursIn` — whether one run of characters stands somewhere inside another.
* `splitAt` — the pieces between the occurrences of a separator, empty ones included.
* `join` — pieces with a separator between them.
-/

namespace AccessConsole.Text

/-- The run `needle` stands somewhere in the characters given; the empty run stands everywhere. -/
def occursIn (needle : List Char) : List Char → Bool
  | [] => needle.isEmpty
  | c :: cs => needle.isPrefixOf (c :: cs) || occursIn needle cs

/-- The text `part` stands somewhere in the text `whole`. -/
def contains (whole part : String) : Bool := occursIn part.toList whole.toList

/-- The text `whole` begins with the text `part`. -/
def startsWith (whole part : String) : Bool := part.toList.isPrefixOf whole.toList

/-- The text `whole` ends with the text `part`. -/
def endsWith (whole part : String) : Bool := part.toList.isSuffixOf whole.toList

/-- The pieces of a run between the separators; there is always at least one. -/
def splitAt {α : Type} [DecidableEq α] (separator : α) : List α → List (List α)
  | [] => [[]]
  | c :: cs =>
    match splitAt separator cs with
    | [] => [[c]]
    | piece :: pieces =>
      if c = separator then [] :: piece :: pieces else (c :: piece) :: pieces

/-- The pieces with `separator` between any two neighbours. -/
def join {α : Type} (separator : List α) : List (List α) → List α
  | [] => []
  | [piece] => piece
  | piece :: next :: pieces => piece ++ separator ++ join separator (next :: pieces)

end AccessConsole.Text
