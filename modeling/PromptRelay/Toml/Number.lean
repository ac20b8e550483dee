/-
**Numbers of TOML.**

Whole numbers are decimal with a sign, or hexadecimal, octal or binary without one, and fit a signed
64-bit word. Floats have a fraction or an exponent or both. A single low line may stand between two
digits.

* `takeNumber?`: a number.
-/

import PromptRelay.Decimal.Reading
import PromptRelay.Json.Parser

namespace PromptRelay.Toml

open Decimal

/-- Digits of a base after the first one, low lines between them left out. -/
def takeMoreDigits (isDigit : Char → Bool) : List Char → List Char × List Char
  | [] => ([], [])
  | [last] => if isDigit last then ([last], []) else ([], [last])
  | first :: second :: rest =>
    if isDigit first then
      let (digits, after) := takeMoreDigits isDigit (second :: rest)
      (first :: digits, after)
    else if first = '_' && isDigit second then
      let (digits, after) := takeMoreDigits isDigit rest
      (second :: digits, after)
    else ([], first :: second :: rest)

/-- One or more digits of a base. -/
def takeDigits? (isDigit : Char → Bool) : List Char → Option (List Char × List Char)
  | [] => none
  | first :: rest =>
    if isDigit first then
      let (digits, after) := takeMoreDigits isDigit rest
      some (first :: digits, after)
    else none

/-- The digits of a decimal whole number: a single zero, or others than zero in front. -/
def takeWhole? : List Char → Option (List Char × List Char)
  | '0' :: rest => some (['0'], rest)
  | text => takeDigits? Char.isDigit text

/-- The greatest whole number. -/
def greatestWhole : Nat := Nat.pow 2 63 - 1

/-- A whole number of a base after its mark. -/
def takeBased? (base : Nat) (text : List Char) : Option (Json × List Char) := do
  let value? (digit : Char) : Option Nat := (Json.hexValue? digit).filter (· < base)
  let (digits, rest) ← takeDigits? (fun digit => (value? digit).isSome) text
  let value ← digits.foldlM (fun value digit => (value? digit).map (value * base + ·)) 0
  if value ≤ greatestWhole then some (.integer value, rest) else none

/-- A decimal whole number with its sign. -/
def wholeOf? (negative : Bool) (digits : List Char) : Option Json :=
  let size := valueOfDigits digits
  if negative then if size ≤ greatestWhole + 1 then some (.integer (-(size : Int))) else none
  else if size ≤ greatestWhole then some (.integer size) else none

/-- The fraction behind a point, or nothing. -/
def takeFraction? : List Char → Option (List Char × List Char)
  | '.' :: rest => takeDigits? Char.isDigit rest
  | text => some ([], text)

/-- The exponent behind its mark, or none. -/
def takePower? : List Char → Option (Option Int × List Char)
  | mark :: rest =>
    if mark = 'e' || mark = 'E' then do
      let (negative, rest) := takeSign rest
      let (digits, rest) ← takeDigits? Char.isDigit rest
      let size := min (valueOfDigits digits) (Nat.pow 10 9)
      some (some (if negative then -(size : Int) else size), rest)
    else some (none, mark :: rest)
  | [] => some (none, [])

/-- A float of its parts. One that is too great is refused; one that is too small in size becomes
zero, and one far below zero the negative infinity. -/
def floatOf? (negative : Bool) (whole fraction : List Char) (power : Int) : Option Json :=
  let size := nearest (valueOfDigits (whole ++ fraction)) (power - fraction.length)
  if negative then some (.float (-size))
  else if size.isInf then none
  else some (.float size)

/-- A decimal number without its sign: a float where a fraction or an exponent follows. -/
def takeDecimal? (negative : Bool) (text : List Char) : Option (Json × List Char) := do
  let (whole, rest) ← takeWhole? text
  let (fraction, rest) ← takeFraction? rest
  let (power, rest) ← takePower? rest
  let value ←
    if fraction.isEmpty && power.isNone then wholeOf? negative whole
    else floatOf? negative whole fraction (power.getD 0)
  some (value, rest)

/-- A decimal number or a named float, without its sign. -/
def takeSize? (negative : Bool) (text : List Char) : Option (Json × List Char) :=
  let signed (value : Float) : Json := .float (if negative then -value else value)
  match text with
  | 'i' :: 'n' :: 'f' :: rest => some (signed (1.0 / 0.0), rest)
  | 'n' :: 'a' :: 'n' :: rest => some (signed (0.0 / 0.0), rest)
  | text => takeDecimal? negative text

/-- A number. -/
def takeNumber? (text : List Char) : Option (Json × List Char) :=
  match text with
  | '0' :: 'x' :: rest => takeBased? 16 rest
  | '0' :: 'o' :: rest => takeBased? 8 rest
  | '0' :: 'b' :: rest => takeBased? 2 rest
  | text =>
    let (negative, rest) := takeSign text
    takeSize? negative rest

end PromptRelay.Toml
