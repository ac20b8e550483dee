/-
**Bytes as text.**

Bytes are read as UTF-8. Where they are no UTF-8, the longest start of a character that stands there
is read as the replacement character, and so is a byte that starts no character.

* `decode`: the text of bytes.
-/

namespace PromptRelay.Text

/-- What is read where bytes are no text. -/
def replacement : Char := '\ufffd'

/-- The bits of a first byte, and the bounds of the bytes that have to follow it. -/
def followers? (first : Nat) : Option (Nat × List (Nat × Nat)) :=
  let usual := (0x80, 0xBF)
  if first < 0x80 then some (first, [])
  else if 0xC2 ≤ first && first ≤ 0xDF then some (first - 0xC0, [usual])
  else if first = 0xE0 then some (0, [(0xA0, 0xBF), usual])
  else if first = 0xED then some (0xD, [(0x80, 0x9F), usual])
  else if 0xE1 ≤ first && first ≤ 0xEF then some (first - 0xE0, [usual, usual])
  else if first = 0xF0 then some (0, [(0x90, 0xBF), usual, usual])
  else if 0xF1 ≤ first && first ≤ 0xF3 then some (first - 0xF0, [usual, usual, usual])
  else if first = 0xF4 then some (4, [(0x80, 0x8F), usual, usual])
  else none

/-- The code point of bits and the bytes that follow, and how many of them belong to it; no code
point where they are out of bounds. -/
def follow (bits : Nat) : List (Nat × Nat) → List UInt8 → Option Nat × Nat
  | [], _ => (some bits, 0)
  | _ :: _, [] => (none, 0)
  | bounds :: rest, byte :: bytes =>
    if bounds.1 ≤ byte.toNat && byte.toNat ≤ bounds.2 then
      let (code, count) := follow (bits * 64 + byte.toNat % 64) rest bytes
      (code, count + 1)
    else (none, 0)

/-- The characters of bytes of which the first few are passed over. -/
def charactersAfter : (passed : Nat) → List UInt8 → List Char
  | _, [] => []
  | passed + 1, _ :: bytes => charactersAfter passed bytes
  | 0, first :: bytes =>
    match followers? first.toNat with
    | none => replacement :: charactersAfter 0 bytes
    | some (bits, bounds) =>
      let (code, count) := follow bits bounds bytes
      (code.map Char.ofNat).getD replacement :: charactersAfter count bytes

/-- The text of bytes; those that are UTF-8 as a whole are taken at once. -/
def decode (bytes : List UInt8) : String :=
  match String.fromUTF8? ⟨bytes.toArray⟩ with
  | some text => text
  | none => String.ofList (charactersAfter 0 bytes)

end PromptRelay.Text
