/-
**Reading JSON text.**

The text is one value with blanks around it. Keys of an object are put in order, the last of equal
keys staying. Arrays and objects stand inside each other at most 127 deep. A whole number that fits
a 64-bit word stays whole; any other number becomes a float by the stepwise reading of its first
digits, as many as fit a word.

* `Json.parse?`: the value of a text.
-/

import PromptRelay.Decimal.Reading
import PromptRelay.Json.Value

namespace PromptRelay.Json

open Decimal

/-- The text without the blanks it starts with. -/
def skipBlanks (text : List Char) : List Char :=
  text.dropWhile fun character =>
    character = ' ' || character = '\n' || character = '\t' || character = '\r'

/-- The greatest 64-bit word. -/
def greatestWord : Nat := Nat.pow 2 64 - 1

/-- Appends digits to a word as long as it stays one; the digits left over come second. -/
def absorbDigits (word : Nat) : List Char → Nat × List Char
  | [] => (word, [])
  | digit :: digits =>
    let next := word * 10 + (digit.toNat - '0'.toNat)
    if next ≤ greatestWord then absorbDigits next digits else (word, digit :: digits)

/-- The value of a float's parts, with its sign. -/
def floatOfParts? (negative : Bool) (digits : Nat) (exponent : Int) : Option Json :=
  (stepwise? digits exponent).map fun size => .float (if negative then -size else size)

/-- A whole number, or a float where it fits no 64-bit word or is a negative zero. -/
def wholeNumber (negative : Bool) (digits : Nat) : Json :=
  if !negative then .integer digits
  else if digits = 0 || Nat.pow 2 63 < digits then .float (-(Float.ofNat digits))
  else .integer (-(digits : Int))

/-- An exponent after its mark: its value and the text behind it. -/
def takeExponent? (text : List Char) : Option (Int × List Char) :=
  let (negative, rest) := takeSign text
  let (digits, after) := spanDigits rest
  if digits.isEmpty then none
  else
    let size := min (valueOfDigits digits) (Nat.pow 2 31)
    some (if negative then -(size : Int) else size, after)

/-- What may follow the digits of a number: an exponent or nothing. -/
def finishFloat? (negative : Bool) (digits : Nat) (scale : Int) (text : List Char) :
    Option (Json × List Char) :=
  match text with
  | mark :: rest =>
    if mark = 'e' || mark = 'E' then do
      let (exponent, after) ← takeExponent? rest
      let value ← floatOfParts? negative digits (scale + exponent)
      some (value, after)
    else (floatOfParts? negative digits scale).map (·, text)
  | [] => (floatOfParts? negative digits scale).map (·, text)

/-- A number without its sign. Digits that do not fit the word before the point raise the exponent;
behind the point they are dropped. -/
def takeMagnitude? (negative : Bool) (text : List Char) : Option (Json × List Char) :=
  let (whole, rest) := spanDigits text
  if whole.isEmpty || (whole.head? = some '0' && 1 < whole.length) then none
  else
    let (word, dropped) := absorbDigits 0 whole
    match rest with
    | '.' :: after =>
      let (part, rest) := spanDigits after
      if part.isEmpty then none
      else
        let (digits, left) := absorbDigits word part
        finishFloat? negative digits ((dropped.length : Int) - (part.length - left.length)) rest
    | 'e' :: _ | 'E' :: _ => finishFloat? negative word dropped.length rest
    | _ =>
      if dropped.isEmpty then some (wholeNumber negative word, rest)
      else finishFloat? negative word dropped.length rest

/-- The value of a hexadecimal digit. -/
def hexValue? (digit : Char) : Option Nat :=
  if digit.isDigit then some (digit.toNat - '0'.toNat)
  else if 'a' ≤ digit && digit ≤ 'f' then some (digit.toNat - 'a'.toNat + 10)
  else if 'A' ≤ digit && digit ≤ 'F' then some (digit.toNat - 'A'.toNat + 10)
  else none

/-- Four hexadecimal digits. -/
def takeUnit? : List Char → Option (Nat × List Char)
  | first :: second :: third :: fourth :: rest => do
    let first ← hexValue? first
    let second ← hexValue? second
    let third ← hexValue? third
    let fourth ← hexValue? fourth
    some (((first * 16 + second) * 16 + third) * 16 + fourth, rest)
  | _ => none

/-- The character that a unit stands for, together with a second unit where the first is half of a
pair; half a pair alone is refused. -/
def takeCodePoint? (text : List Char) : Option (Char × List Char) := do
  let (unit, rest) ← takeUnit? text
  if 0xDC00 ≤ unit && unit ≤ 0xDFFF then none
  else if 0xD800 ≤ unit && unit ≤ 0xDBFF then
    match rest with
    | '\\' :: 'u' :: rest => do
      let (second, rest) ← takeUnit? rest
      if 0xDC00 ≤ second && second ≤ 0xDFFF then
        some (Char.ofNat (0x10000 + (unit - 0xD800) * 0x400 + (second - 0xDC00)), rest)
      else none
    | _ => none
  else some (Char.ofNat unit, rest)

/-- What stands for itself after a backslash, or for a control. -/
def escapeValue? : Char → Option Char
  | '"' => some '"'
  | '\\' => some '\\'
  | '/' => some '/'
  | 'b' => some '\x08'
  | 'f' => some '\x0c'
  | 'n' => some '\n'
  | 'r' => some '\r'
  | 't' => some '\t'
  | _ => none

/-- The characters of a string after its opening quote, newest first, up to the closing one. -/
def takeString? : Nat → List Char → List Char → Option (String × List Char)
  | 0, _, _ => none
  | fuel + 1, taken, input =>
    match input with
    | '"' :: rest => some (String.ofList taken.reverse, rest)
    | '\\' :: 'u' :: rest => do
      let (character, rest) ← takeCodePoint? rest
      takeString? fuel (character :: taken) rest
    | '\\' :: mark :: rest => do
      let character ← escapeValue? mark
      takeString? fuel (character :: taken) rest
    | character :: rest =>
      if character.toNat < 0x20 || character = '\\' then none
      else takeString? fuel (character :: taken) rest
    | [] => none

/-- A string after its opening quote. -/
def stringBody? (text : List Char) : Option (String × List Char) :=
  takeString? (text.length + 1) [] text

/-- The items of an array after its opening bracket, at least one. -/
def takeItems? (value? : List Char → Option (Json × List Char)) :
    Nat → List Char → Option (List Json × List Char)
  | 0, _ => none
  | fuel + 1, input => do
    let (value, rest) ← value? input
    match skipBlanks rest with
    | ',' :: rest =>
      let (values, rest) ← takeItems? value? fuel rest
      some (value :: values, rest)
    | ']' :: rest => some ([value], rest)
    | _ => none

/-- The fields of an object after its opening brace, at least one. -/
def takeFields? (value? : List Char → Option (Json × List Char)) :
    Nat → List Char → Option (List (String × Json) × List Char)
  | 0, _ => none
  | fuel + 1, input =>
    match skipBlanks input with
    | '"' :: rest => do
      let (key, rest) ← stringBody? rest
      match skipBlanks rest with
      | ':' :: rest =>
        let (value, rest) ← value? rest
        match skipBlanks rest with
        | ',' :: rest =>
          let (fields, rest) ← takeFields? value? fuel rest
          some ((key, value) :: fields, rest)
        | '\x7d' :: rest => some ([(key, value)], rest)
        | _ => none
      | _ => none
    | _ => none

/-- A value with the blanks before it; `depth` is how many more arrays and objects may open. -/
def takeValue? : Nat → List Char → Option (Json × List Char)
  | depth, input =>
    match skipBlanks input with
    | 'n' :: 'u' :: 'l' :: 'l' :: rest => some (.null, rest)
    | 't' :: 'r' :: 'u' :: 'e' :: rest => some (.bool true, rest)
    | 'f' :: 'a' :: 'l' :: 's' :: 'e' :: rest => some (.bool false, rest)
    | '"' :: rest => (stringBody? rest).map fun found => (.text found.1, found.2)
    | '-' :: rest => takeMagnitude? true rest
    | '[' :: rest =>
      match depth with
      | 0 => none
      | depth + 1 =>
        match skipBlanks rest with
        | ']' :: rest => some (.list [], rest)
        | _ => (takeItems? (takeValue? depth) rest.length rest).map fun found =>
          (.list found.1, found.2)
    | '\x7b' :: rest =>
      match depth with
      | 0 => none
      | depth + 1 =>
        match skipBlanks rest with
        | '\x7d' :: rest => some (.object [], rest)
        | _ => (takeFields? (takeValue? depth) rest.length rest).map fun found =>
          (.object (sortFields found.1), found.2)
    | other => takeMagnitude? false other

/-- How deep arrays and objects may stand inside each other. -/
def greatestDepth : Nat := 127

/-- The value of a text that holds nothing else. -/
def parse? (text : String) : Option Json := do
  let (value, rest) ← takeValue? greatestDepth text.toList
  if (skipBlanks rest).isEmpty then some value else none

end PromptRelay.Json
