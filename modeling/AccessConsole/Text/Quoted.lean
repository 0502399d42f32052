import AccessConsole.Text.Invisible

/-!
# Quoted text

A text in double quotes, in which everything that shows stands for itself.

* `quotedChar` — how one character stands in a quoted text.
* `quoted` — a text in quotes.
-/

namespace AccessConsole.Text

/-- A character by its code point, in lower-case hexadecimal digits without leading zeros. -/
def codePoint (c : Char) : List Char :=
  '\\' :: 'u' :: '\x7b' :: (Nat.toDigits 16 c.toNat ++ ['\x7d'])

/-- How a character stands in a quoted text. -/
def quotedChar (c : Char) : List Char :=
  if c = '"' then ['\\', '"']
  else if c = '\\' then ['\\', '\\']
  else if c = '\x00' then ['\\', '0']
  else if c = '\t' then ['\\', 't']
  else if c = '\n' then ['\\', 'n']
  else if c = '\r' then ['\\', 'r']
  else if isInvisible c then codePoint c
  else [c]

/-- A text in quotes. -/
def quoted (s : String) : String :=
  String.ofList ('"' :: (s.toList.flatMap quotedChar ++ ['"']))

end AccessConsole.Text
