import AccessConsole.Text.Bytes

/-!
# Text out of faulty bytes

Bytes that are meant to be text are read as far as they can be.

* `Bytes.lead?` — what has to follow the first byte of a character.
* `Bytes.lossyChars` — the characters of bytes, with U+FFFD for each run of bytes that begins a
  character and does not end it, and for each byte that begins none.
-/

namespace AccessConsole.Bytes

/-- The character that stands for what cannot be read. -/
def replacement : Char := '\ufffd'

/-- The number of bytes that have to follow the first byte of a longer character, and the least
and the greatest that may come next to it. -/
def lead? (b : UInt8) : Option (Nat × UInt8 × UInt8) :=
  if 0xc2 ≤ b && b ≤ 0xdf then some (1, 0x80, 0xbf)
  else if b = 0xe0 then some (2, 0xa0, 0xbf)
  else if b = 0xed then some (2, 0x80, 0x9f)
  else if 0xe1 ≤ b && b ≤ 0xef then some (2, 0x80, 0xbf)
  else if b = 0xf0 then some (3, 0x90, 0xbf)
  else if 0xf1 ≤ b && b ≤ 0xf3 then some (3, 0x80, 0xbf)
  else if b = 0xf4 then some (3, 0x80, 0x8f)
  else none

/-- The bytes after the first one that go on with its character, `count` at most. -/
def tail (count : Nat) (low high : UInt8) (rest : Bytes) : Bytes :=
  match count, rest with
  | count + 1, b :: rest =>
    if low ≤ b && b ≤ high then b :: (rest.takeWhile fun b => 0x80 ≤ b && b ≤ 0xbf).take count
    else []
  | _, _ => []

/-- The characters of bytes. -/
def lossyChars : Bytes → List Char
  | [] => []
  | b :: rest =>
    if b < 0x80 then Char.ofNat b.toNat :: lossyChars rest
    else
      match lead? b with
      | none => replacement :: lossyChars rest
      | some (count, low, high) =>
        let more := tail count low high rest
        let c :=
          if more.length = count then (text? (b :: more)).bind fun s => s.toList.head? else none
        c.getD replacement :: lossyChars (rest.drop more.length)
termination_by b => b.length
decreasing_by all_goals simp_wf; try omega

/-- The text of bytes. -/
def lossyText (b : Bytes) : String := String.ofList b.lossyChars

end AccessConsole.Bytes
