import AccessConsole.Json.Basic
import AccessConsole.Text.Decimal

/-!
# Tokens of a JSON text

A JSON text is a row of tokens with white space between them.

* `Token` — punctuation, literals, numerals and strings.
* `Number.ofChars?` — the numeral that a run of characters spells.
* `scanString` — the content of a string up to its closing quote.
* `Token.scan` — the tokens of a text; none if some part of it belongs to no token.
* `Token.chars` — the way a token is written.
-/

namespace AccessConsole.Json

/-- A token of a JSON text. -/
inductive Token
  | openArray
  | closeArray
  | openObject
  | closeObject
  | comma
  | colon
  | null
  | bool (b : Bool)
  | number (n : Number)
  | string (text : Option String)
  deriving DecidableEq, Repr, Inhabited

/-- White space between tokens: space, tab, line feed and carriage return. -/
def isSpace (c : Char) : Bool := c = ' ' || c = '\t' || c = '\n' || c = '\r'

/-! ## Numerals -/

/-- The characters that numerals are made of. -/
def isNumeral (c : Char) : Bool :=
  c.isDigit || c = '-' || c = '+' || c = '.' || c = 'e' || c = 'E'

/-- The exponent part of a numeral: nothing, or the letter, an optional sign and digits. -/
def exponentOf? (cs : List Char) : Option (Option Int) :=
  match cs with
  | [] => some none
  | c :: rest =>
    if c = 'e' || c = 'E' then
      match rest with
      | '-' :: ds => (Text.Decimal.natural? ds).map fun n => some (-Int.ofNat n)
      | '+' :: ds => (Text.Decimal.natural? ds).map fun n => some (Int.ofNat n)
      | ds => (Text.Decimal.natural? ds).map fun n => some (Int.ofNat n)
    else none

/-- The fraction part of a numeral: nothing, or the point and at least one digit. What follows
the digits comes back with them. -/
def fractionOf? (cs : List Char) : Option (Option (List (Fin 10)) × List Char) :=
  match cs with
  | '.' :: rest =>
    let ds := rest.takeWhile Char.isDigit
    if ds.isEmpty then none
    else some (some (ds.map Text.Decimal.digitOf), rest.dropWhile Char.isDigit)
  | _ => some (none, cs)

/-- The numeral that `cs` spells. The digits before the point have no leading zero. -/
def Number.ofChars? (cs : List Char) : Option Number := do
  let (negative, body) := match cs with
    | '-' :: rest => (true, rest)
    | _ => (false, cs)
  let ds := body.takeWhile Char.isDigit
  guard (!ds.isEmpty && (ds == ['0'] || ds.head? != some '0'))
  let (fraction, rest) ← fractionOf? (body.dropWhile Char.isDigit)
  let exponent ← exponentOf? rest
  let whole := Text.Decimal.value ds
  if fraction.isNone && exponent.isNone && !(negative && whole = 0) then
    return .integer (if negative then -Int.ofNat whole else Int.ofNat whole)
  else
    return .decimal negative whole (fraction.getD []) (exponent.getD 0)

/-- The way a numeral is written. A decimal one has digits after a point or an exponent, so that
it cannot be taken for an integer; its exponent always shows a sign. -/
def Number.chars : Number → List Char
  | .integer n => Text.Decimal.integer n
  | .decimal negative whole fraction exponent =>
    (if negative then ['-'] else []) ++ Text.Decimal.digits whole ++
    (if fraction.isEmpty then [] else '.' :: fraction.map fun d => Text.Decimal.digitChar d.val) ++
    (if exponent = 0 && !fraction.isEmpty then []
      else 'e' :: (if exponent < 0 then '-' else '+') :: Text.Decimal.digits exponent.natAbs)

/-! ## Strings -/

/-- One written part of a string: a character, or a unit given by four hexadecimal digits. -/
inductive Piece
  | char (c : Char)
  | unit (n : Nat)
  deriving DecidableEq, Repr

/-- The number of a hexadecimal digit of either case. -/
def hexValue? (c : Char) : Option Nat :=
  let n := c.toNat
  if c.isDigit then some (n - '0'.toNat)
  else if 'a'.toNat ≤ n && n ≤ 'f'.toNat then some (n - 'a'.toNat + 10)
  else if 'A'.toNat ≤ n && n ≤ 'F'.toNat then some (n - 'A'.toNat + 10)
  else none

/-- The unit that four hexadecimal digits spell. -/
def unitOf? (a b c d : Char) : Option Nat := do
  let a ← hexValue? a
  let b ← hexValue? b
  let c ← hexValue? c
  let d ← hexValue? d
  return ((a * 16 + b) * 16 + c) * 16 + d

/-- The character that a backslash and this letter stand for. -/
def escaped? : Char → Option Char
  | '"' => some '"'
  | '\\' => some '\\'
  | '/' => some '/'
  | 'b' => some '\x08'
  | 'f' => some '\x0c'
  | 'n' => some '\n'
  | 'r' => some '\r'
  | 't' => some '\t'
  | _ => none

/-- The pieces of a string up to its closing quote, and what follows the quote. Control characters
have to be escaped. -/
def scanString : List Char → Option (List Piece × List Char)
  | [] => none
  | '"' :: rest => some ([], rest)
  | '\\' :: 'u' :: a :: b :: c :: d :: rest =>
    match unitOf? a b c d with
    | some n => (scanString rest).map fun r => (.unit n :: r.1, r.2)
    | none => none
  | '\\' :: c :: rest =>
    match escaped? c with
    | some c => (scanString rest).map fun r => (.char c :: r.1, r.2)
    | none => none
  | c :: rest =>
    if c.toNat < 0x20 || c = '\\' then none
    else (scanString rest).map fun r => (.char c :: r.1, r.2)

/-- The first half of a surrogate pair. -/
def isHigh (n : Nat) : Bool := 0xd800 ≤ n && n < 0xdc00

/-- The second half of a surrogate pair. -/
def isLow (n : Nat) : Bool := 0xdc00 ≤ n && n < 0xe000

/-- The character of a surrogate pair. -/
def pairChar (high low : Nat) : Char :=
  Char.ofNat (0x10000 + (high - 0xd800) * 0x400 + (low - 0xdc00))

/-- The characters that pieces spell; none if half of a surrogate pair stands alone. -/
def spell : List Piece → Option (List Char)
  | [] => some []
  | .char c :: rest => (spell rest).map (c :: ·)
  | .unit high :: .unit low :: rest =>
    if isHigh high then
      if isLow low then (spell rest).map (pairChar high low :: ·) else none
    else if isLow high then none
    else (spell (.unit low :: rest)).map (Char.ofNat high :: ·)
  | .unit n :: rest =>
    if isHigh n || isLow n then none else (spell rest).map (Char.ofNat n :: ·)

/-- The lower-case hexadecimal digit of a number below sixteen. -/
def hexChar (n : Nat) : Char :=
  if n < 10 then Char.ofNat ('0'.toNat + n) else Char.ofNat ('a'.toNat + (n - 10))

/-- The way a character is written inside a string: quotes, backslashes and control characters are
escaped, and nothing else is. -/
def escape (c : Char) : List Char :=
  if c = '"' then ['\\', '"']
  else if c = '\\' then ['\\', '\\']
  else if c = '\x08' then ['\\', 'b']
  else if c = '\t' then ['\\', 't']
  else if c = '\n' then ['\\', 'n']
  else if c = '\x0c' then ['\\', 'f']
  else if c = '\r' then ['\\', 'r']
  else if c.toNat < 0x20 then
    ['\\', 'u', '0', '0', hexChar (c.toNat / 16), hexChar (c.toNat % 16)]
  else [c]

/-- The way a string is written. One that spells no text is written as the escape of a lone half
of a surrogate pair. -/
def stringChars : Option String → List Char
  | some s => '"' :: (s.toList.flatMap escape ++ ['"'])
  | none => "\"\\ud800\"".toList

/-! ## Tokens -/

/-- The token of a punctuation character. -/
def punctuation? : Char → Option Token
  | '[' => some .openArray
  | ']' => some .closeArray
  | '{' => some .openObject
  | '}' => some .closeObject
  | ',' => some .comma
  | ':' => some .colon
  | _ => none

/-- The three literals. -/
def literal? (cs : List Char) : Option Token :=
  if cs = "null".toList then some .null
  else if cs = "true".toList then some (.bool true)
  else if cs = "false".toList then some (.bool false)
  else none

theorem scanString_length {cs : List Char} {r : List Piece × List Char}
    (h : scanString cs = some r) : r.2.length < cs.length := by
  fun_induction scanString cs generalizing r <;> grind [Option.map_eq_some_iff]

/-- The longest run of characters in the class `p`, at least the first one, that `read` accepts as
a token, and what follows the run. -/
def scanRun (p : Char → Bool) (read : List Char → Option Token) (c : Char) (cs : List Char) :
    Option (Token × List Char) :=
  (read (c :: cs.takeWhile p)).map fun t => (t, cs.dropWhile p)

/-- The token that begins with the character `c`, and what follows it. -/
def scanToken (c : Char) (cs : List Char) : Option (Token × List Char) :=
  match punctuation? c with
  | some t => some (t, cs)
  | none =>
    if c = '"' then
      (scanString cs).map fun r => (.string ((spell r.1).map String.ofList), r.2)
    else if isNumeral c then
      scanRun isNumeral (fun run => (Number.ofChars? run).map Token.number) c cs
    else
      scanRun Char.isLower literal? c cs

theorem scanToken_length {c : Char} {cs : List Char} {r : Token × List Char}
    (h : scanToken c cs = some r) : r.2.length ≤ cs.length := by
  have hdrop (p : Char → Bool) : (cs.dropWhile p).length ≤ cs.length :=
    (List.dropWhile_sublist p).length_le
  unfold scanToken scanRun at h
  split at h
  · grind
  · split at h
    · obtain ⟨s, hs, rfl⟩ := Option.map_eq_some_iff.1 h
      exact Nat.le_of_lt (scanString_length hs)
    · split at h <;>
      · obtain ⟨t, -, rfl⟩ := Option.map_eq_some_iff.1 h
        exact hdrop _

/-- The tokens of a text. -/
def Token.scan : List Char → Option (List Token)
  | [] => some []
  | c :: cs =>
    if isSpace c then Token.scan cs
    else
      match _h : scanToken c cs with
      | none => none
      | some r => (Token.scan r.2).map (r.1 :: ·)
termination_by cs => cs.length
decreasing_by
  · simp
  · have := scanToken_length _h
    simp only [List.length_cons]
    omega

/-- The way a token is written. -/
def Token.chars : Token → List Char
  | .openArray => ['[']
  | .closeArray => [']']
  | .openObject => ['\x7b']
  | .closeObject => ['\x7d']
  | .comma => [',']
  | .colon => [':']
  | .null => "null".toList
  | .bool true => "true".toList
  | .bool false => "false".toList
  | .number n => n.chars
  | .string s => stringChars s

end AccessConsole.Json
