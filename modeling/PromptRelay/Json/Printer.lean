/-
**Writing JSON text.**

* `Json.compact`: everything on one line without blanks;
* `Json.pretty`: one item or field a line, two blanks deeper than what holds it.

A float is written with the fewest digits that read back, `null` where it has no digits.
-/

import PromptRelay.Decimal.Layout
import PromptRelay.Json.Value
import PromptRelay.Text.Quoted

namespace PromptRelay.Json

open Decimal

/-- Numbers in JSON: a point in every float, an exponent outside `-5 … 15`. -/
def floatLayout : Layout where
  tie := .toEven
  positional := some (-5, 15)
  wholeEnd := ".0"
  exponentPlus := true
  undefinedText := "null"
  infiniteText := "null"

/-- The text of a float. -/
def floatText (value : Float) : String :=
  if (FloatValue.ofFloat value).isFinite then floatLayout.write value else "null"

/-- One character inside a string. -/
def escapeChar (character : Char) : List Char :=
  match character with
  | '"' => ['\\', '"']
  | '\\' => ['\\', '\\']
  | '\n' => ['\\', 'n']
  | '\r' => ['\\', 'r']
  | '\t' => ['\\', 't']
  | '\x08' => ['\\', 'b']
  | '\x0c' => ['\\', 'f']
  | other =>
    if other.toNat < 0x20 then
      let digits := Text.hexDigits other.toNat
      ['\\', 'u'] ++ List.replicate (4 - digits.length) '0' ++ digits
    else [other]

/-- A string with its quotes. -/
def stringText (text : String) : String :=
  "\"" ++ String.ofList (text.toList.flatMap escapeChar) ++ "\""

mutual

/-- The value on one line. -/
def compact : Json → String
  | .null => "null"
  | .bool value => if value then "true" else "false"
  | .integer value => toString value
  | .float value => floatText value
  | .text value => stringText value
  | .list items => "[" ++ String.intercalate "," (compactItems items) ++ "]"
  | .object fields => "\x7b" ++ String.intercalate "," (compactFields fields) ++ "\x7d"

/-- The items on one line each on its own. -/
def compactItems : List Json → List String
  | [] => []
  | item :: items => compact item :: compactItems items

/-- The fields on one line each on its own. -/
def compactFields : List (String × Json) → List String
  | [] => []
  | field :: fields => compactField field :: compactFields fields

/-- A field on one line. -/
def compactField : String × Json → String
  | (key, value) => stringText key ++ ":" ++ compact value

end

/-- A line break and the blanks of a depth. -/
def lineStart (depth : Nat) : String :=
  "\n" ++ String.ofList (List.replicate (2 * depth) ' ')

/-- Parts on lines of their own between two brackets; the brackets stand together around nothing. -/
def enclose (opening closing : String) (depth : Nat) (parts : List String) : String :=
  if parts.isEmpty then opening ++ closing
  else
    opening ++ String.intercalate "," (parts.map (lineStart (depth + 1) ++ ·)) ++
      lineStart depth ++ closing

mutual

/-- The value at a depth, spread over lines. -/
def spread (depth : Nat) : Json → String
  | .null => "null"
  | .bool value => if value then "true" else "false"
  | .integer value => toString value
  | .float value => floatText value
  | .text value => stringText value
  | .list items => enclose "[" "]" depth (spreadItems (depth + 1) items)
  | .object fields => enclose "\x7b" "\x7d" depth (spreadFields (depth + 1) fields)

/-- The items at a depth. -/
def spreadItems (depth : Nat) : List Json → List String
  | [] => []
  | item :: items => spread depth item :: spreadItems depth items

/-- The fields at a depth. -/
def spreadFields (depth : Nat) : List (String × Json) → List String
  | [] => []
  | field :: fields => spreadField depth field :: spreadFields depth fields

/-- A field at a depth. -/
def spreadField (depth : Nat) : String × Json → String
  | (key, value) => stringText key ++ ": " ++ spread depth value

end

/-- The value spread over lines. -/
def pretty (value : Json) : String :=
  spread 0 value

end PromptRelay.Json
