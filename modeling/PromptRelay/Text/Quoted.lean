/-
**Quoted texts in messages.**

A text stands between double quotes; quotes, backslashes and the usual controls are written with a
backslash, and a character that cannot be shown on its own is spelled by its code point.

* `quote`: the quoted form;
* `quoteAll`: a bracketed list of quoted texts.
-/

import PromptRelay.Text.Unshown

namespace PromptRelay.Text

/-- The hexadecimal digits of a number, lower case. -/
def hexDigits (number : Nat) : List Char :=
  Nat.toDigits 16 number

/-- One character inside quotes. -/
def quoteChar (character : Char) : List Char :=
  match character with
  | '\x00' => ['\\', '0']
  | '\t' => ['\\', 't']
  | '\r' => ['\\', 'r']
  | '\n' => ['\\', 'n']
  | '"' => ['\\', '"']
  | '\\' => ['\\', '\\']
  | other =>
    if isUnshown other then "\\u\x7b".toList ++ hexDigits other.toNat ++ ['\x7d'] else [other]

/-- The quoted form of a text. -/
def quote (text : String) : String :=
  "\"" ++ String.ofList (text.toList.flatMap quoteChar) ++ "\""

/-- A bracketed list of quoted texts. -/
def quoteAll (texts : List String) : String :=
  "[" ++ String.intercalate ", " (texts.map quote) ++ "]"

end PromptRelay.Text
