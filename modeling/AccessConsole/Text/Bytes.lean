/-!
# Bytes and their text

* `Bytes.ofText` — the UTF-8 encoding of a text.
* `Bytes.text?` — the text that bytes encode, if they are well-formed UTF-8.
-/

namespace AccessConsole

/-- A run of bytes, as files, header values and the standard input hold them. -/
abbrev Bytes := List UInt8

namespace Bytes

/-- The UTF-8 encoding of a text. -/
def ofText (s : String) : Bytes := s.toUTF8.data.toList

/-- The text that the bytes encode; none if they are not well-formed UTF-8. -/
def text? (b : Bytes) : Option String := String.fromUTF8? ⟨b.toArray⟩

end Bytes

end AccessConsole
