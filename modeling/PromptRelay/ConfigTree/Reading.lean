/-
**Typed values out of configuration trees.**

Values are taken leniently: texts are read as numbers or truth values, numbers and truth values
stand for each other and are written out where a text is wanted, and words are found in any case of
letters. A record is a table, or a list of its fields in the order of their declaration.

* `ConfigTree.Fault`: what can be wrong, with `message` for its wording;
* `ConfigTree.lenient`: the format.
-/

import PromptRelay.ConfigTree.Basic
import PromptRelay.Decimal.Layout
import PromptRelay.Decimal.Reading
import PromptRelay.Decimal.Whole
import PromptRelay.Document.Format
import PromptRelay.Text.Lowercase
import PromptRelay.Text.Quoted

namespace PromptRelay.ConfigTree

open Decimal

/-- What is wrong with a tree. -/
inductive Fault where
  /-- A value that does not convert, with the key that leads to it. -/
  | unconvertible (found wanted key : String) (origin : Option Origin)
  /-- A value where a record or list is wanted. -/
  | wrongShape (found wanted : String)
  | missing (field : String)
  | tooShort (found : Nat) (typeName : String) (expected : Nat)
  | unknownWord (typeName found : String)
  | noWord (typeName : String)
  deriving DecidableEq, Repr, Inhabited

namespace Fault

/-- The value did not convert. -/
def isConversion : Fault → Bool
  | .unconvertible .. => true
  | _ => false

/-- The wording of a fault. -/
def message : Fault → String
  | .unconvertible found wanted key origin =>
    let place := if key.isEmpty then "" else s!" for key `{key}`"
    let source := match origin with
      | some origin => s!" in {origin.name}"
      | none => ""
    s!"invalid type: {found}, expected {wanted}" ++ place ++ source
  | .wrongShape found wanted => s!"invalid type: {found}, expected {wanted}"
  | .missing field => s!"missing field `{field}`"
  | .tooShort found typeName expected =>
    let noun := if expected = 1 then "element" else "elements"
    s!"invalid length {found}, expected struct {typeName} with {expected} {noun}"
  | .unknownWord typeName found =>
    s!"enum {typeName} does not have variant constructor {found}"
  | .noWord typeName =>
    s!"value of enum {typeName} should be represented by either string or table with exactly " ++
      "one key"

/-- The fault with another step before its key. -/
def behind (step : String) (pointed : Bool) : Fault → Fault
  | .unconvertible found wanted key origin =>
    let point := if pointed && !key.isEmpty && key.toList.head? ≠ some '[' then "." else ""
    .unconvertible found wanted (step ++ point ++ key) origin
  | fault => fault

end Fault

/-- Floats in messages about shapes: as amounts, but with a point in any case. -/
def pointed : Layout := { amount with wholeEnd := ".0" }

/-- How a message names a value that has the wrong shape. -/
def shapeOf : ConfigTree → String
  | .leaf .nothing _ => "unit value"
  | .leaf (.flag value) _ => s!"boolean `{value}`"
  | .leaf (.whole value) _ => s!"integer `{value}`"
  | .leaf (.decimal value) _ => s!"floating point `{pointed.write value}`"
  | .leaf (.text value) _ => s!"string {Text.quote value}"
  | .items _ _ => "sequence"
  | .table _ _ => "map"

/-- Refuses a value that does not convert. -/
def refuse {Value : Type} (found wanted : String) (origin : Option Origin) :
    Except Fault Value :=
  .error (.unconvertible found wanted "" origin)

/-- The truth value of a word. -/
def truthOf? (word : String) : Option Bool :=
  if word = "true" || word = "on" || word = "yes" then some true
  else if word = "false" || word = "off" || word = "no" then some false
  else none

/-- The greatest whole number that is read. -/
def greatestWord : Nat := Nat.pow 2 64 - 1

/-- The natural number that digits spell, with a plus sign or none. -/
def naturalOf? (text : String) : Option Nat :=
  let digits := match text.toList with
    | '+' :: rest => rest
    | all => all
  let size := valueOfDigits digits
  if digits.isEmpty || !digits.all Char.isDigit || greatestWord < size then none else some size

/-- A text. -/
def readText : ConfigTree → Except Fault String
  | .leaf (.text value) _ => .ok value
  | .leaf (.flag value) _ => .ok (toString value)
  | .leaf (.whole value) _ => .ok (toString value)
  | .leaf (.decimal value) _ => .ok (amountText value)
  | .leaf .nothing origin => refuse "unit value" "a string" origin
  | .items _ origin => refuse "sequence" "a string" origin
  | .table _ origin => refuse "map" "a string" origin

/-- A number. -/
def readNumber : ConfigTree → Except Fault Float
  | .leaf (.decimal value) _ => .ok value
  | .leaf (.whole value) _ => .ok (Float.ofInt value)
  | .leaf (.flag value) _ => .ok (if value then 1.0 else 0.0)
  | .leaf (.text value) origin =>
    match truthOf? (Text.lowercase value) with
    | some truth => .ok (if truth then 1.0 else 0.0)
    | none =>
      match readFloat? value with
      | some number => .ok number
      | none => refuse s!"string {Text.quote value}" "a floating point" origin
  | .leaf .nothing origin => refuse "unit value" "a floating point" origin
  | .items _ origin => refuse "sequence" "a floating point" origin
  | .table _ origin => refuse "map" "a floating point" origin

/-- A truth value. -/
def readFlag : ConfigTree → Except Fault Bool
  | .leaf (.flag value) _ => .ok value
  | .leaf (.whole value) _ => .ok (value ≠ 0)
  | .leaf (.decimal value) _ => .ok (value != 0.0)
  | .leaf (.text value) origin =>
    let word := Text.lowercase value
    match truthOf? word with
    | some truth => .ok truth
    | none =>
      if word = "1" then .ok true
      else if word = "0" then .ok false
      else refuse s!"string {Text.quote word}" "a boolean" origin
  | .leaf .nothing origin => refuse "unit value" "a boolean" origin
  | .items _ origin => refuse "sequence" "a boolean" origin
  | .table _ origin => refuse "map" "a boolean" origin

/-- A natural number of 64 bits. -/
def readNatural : ConfigTree → Except Fault Nat
  | .leaf (.whole value) origin =>
    if 0 ≤ value then .ok value.toNat
    else refuse s!"64-bit integer `{value}`" "an unsigned 64 bit or less integer" origin
  | .leaf (.decimal value) _ => .ok (wholeOf greatestWord value)
  | .leaf (.flag value) _ => .ok value.toNat
  | .leaf (.text value) origin =>
    match truthOf? (Text.lowercase value) with
    | some truth => .ok truth.toNat
    | none =>
      match naturalOf? value with
      | some number => .ok number
      | none => refuse s!"string {Text.quote value}" "an integer" origin
  | .leaf .nothing origin => refuse "unit value" "an integer" origin
  | .items _ origin => refuse "sequence" "an integer" origin
  | .table _ origin => refuse "map" "an integer" origin

/-- A natural number inside its width. -/
def readWhole (width : Width) (tree : ConfigTree) : Except Fault Nat := do
  let number ← readNatural tree
  if number ≤ width.greatest then return number
  else refuse s!"64-bit unsigned integer `{number}`" "an unsigned 32 bit integer" none

/-- The items of a list. -/
def readItems : ConfigTree → Except Fault (List ConfigTree)
  | .items values _ => .ok values
  | other => .error (.wrongShape (shapeOf other) "a sequence")

/-- The value for a word. -/
def readWord {Chosen : Type} (choice : Choice Chosen) (word : String) : Except Fault Chosen :=
  match choice.find? fun known => Text.lowercase known = Text.lowercase word with
  | some chosen => .ok chosen
  | none => .error (.unknownWord choice.typeName word)

/-- A choice by its word, or by the only key of a table. -/
def readChoice {Chosen : Type} (choice : Choice Chosen) : ConfigTree → Except Fault Chosen
  | .leaf (.text word) _ => readWord choice word
  | .table [(word, _)] _ => readWord choice word
  | _ => .error (.noWord choice.typeName)

/-- The entries of a table, or the items of a list as fields. -/
def openRecord (typeName : String) : ConfigTree → Except Fault (Opened ConfigTree)
  | .table entries _ => .ok (.named (Json.fieldOf? · entries))
  | .items values _ => .ok (.placed values)
  | other => .error (.wrongShape (shapeOf other) s!"struct {typeName}")

/-- Configuration trees taken leniently. -/
def lenient : Format ConfigTree Fault where
  text := readText
  number := readNumber
  flag := readFlag
  whole := readWhole
  items := readItems
  choice := readChoice
  opened := openRecord
  isNull
    | .leaf .nothing _ => true
    | _ => false
  missing := .missing
  tooShort := .tooShort
  tooLong? _ := none
  inField name fault := fault.behind name true
  inItem place fault := fault.behind s!"[{place}]" false

end PromptRelay.ConfigTree
