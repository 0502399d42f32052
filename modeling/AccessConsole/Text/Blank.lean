/-!
# Blank characters

The characters with the Unicode property White_Space, and trimming by it.

* `isBlank` — membership in the property: 25 code points.
* `trim` — a text without the blank characters at its two ends.
* `dropTrailing` — a text without the trailing characters of a class.
-/

namespace AccessConsole.Text

/-- The ranges of code points with the property White_Space, ends included. -/
def blankRanges : List (Nat × Nat) :=
  [(0x09, 0x0d), (0x20, 0x20), (0x85, 0x85), (0xa0, 0xa0), (0x1680, 0x1680), (0x2000, 0x200a),
   (0x2028, 0x2029), (0x202f, 0x202f), (0x205f, 0x205f), (0x3000, 0x3000)]

/-- The White_Space property of a character. -/
def isBlank (c : Char) : Bool :=
  blankRanges.any fun r => r.1 ≤ c.toNat && c.toNat ≤ r.2

/-- The characters `cs` without the trailing ones in the class `p`. -/
def dropTrailing (p : Char → Bool) (cs : List Char) : List Char :=
  (cs.reverse.dropWhile p).reverse

/-- The characters `cs` without the blank ones at both ends. -/
def trimChars (cs : List Char) : List Char :=
  dropTrailing isBlank (cs.dropWhile isBlank)

/-- A text without the blank characters at both ends. -/
def trim (s : String) : String := String.ofList (trimChars s.toList)

/-- A text of blank characters only, the empty one included. -/
def isBlankText (s : String) : Bool := s.toList.all isBlank

end AccessConsole.Text
