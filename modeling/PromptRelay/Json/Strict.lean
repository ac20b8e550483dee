/-
**Typed values out of JSON, taken strictly.**

A text is a string and nothing else, a whole number has no point, a number may be whole. A choice is
its word, or an object whose only key is the word and whose value is null. A record is an object, or
an array of its fields in the order of their declaration; fields of other names are passed over.

* `Json.Fault`: what can be wrong, `Json.Fault.message` its wording;
* `Json.strict`: the format.
-/

import PromptRelay.Document.Format
import PromptRelay.Json.Printer

namespace PromptRelay.Json

/-- What is wrong with a JSON value. -/
inductive Fault where
  | wrongType (found wanted : String)
  | outOfRange (found : Int) (wanted : String)
  | unknownWord (found : String) (words : List String)
  | notOneKey
  | missing (field : String)
  | tooShort (found : Nat) (typeName : String) (expected : Nat)
  | tooLong (found : Nat)
  /-- A text of a form that its type does not have. -/
  | malformed (reason : String)
  deriving DecidableEq, Repr, Inhabited

/-- A word in the quotes of messages. -/
def ticked (word : String) : String := "`" ++ word ++ "`"

/-- The words that a choice expects. -/
def expectedWords (words : List String) : String :=
  match words with
  | [only] => ticked only
  | [first, second] => ticked first ++ " or " ++ ticked second
  | words => "one of " ++ String.intercalate ", " (words.map ticked)

/-- The wording of a fault. -/
def Fault.message : Fault → String
  | .wrongType found wanted => s!"invalid type: {found}, expected {wanted}"
  | .outOfRange found wanted =>
    "invalid value: integer " ++ ticked (toString found) ++ ", expected " ++ wanted
  | .unknownWord found words =>
    "unknown variant " ++ ticked found ++ ", expected " ++ expectedWords words
  | .notOneKey => "invalid value: map, expected map with a single key"
  | .missing field => "missing field " ++ ticked field
  | .tooShort found typeName expected =>
    let noun := if expected = 1 then "element" else "elements"
    s!"invalid length {found}, expected struct {typeName} with {expected} {noun}"
  | .tooLong found => s!"invalid length {found}, expected fewer elements in array"
  | .malformed reason => reason

/-- How a message names a value that was found. -/
def found : Json → String
  | .null => "null"
  | .bool value => "boolean " ++ ticked (if value then "true" else "false")
  | .integer value => "integer " ++ ticked (toString value)
  | .float value => "floating point " ++ ticked (floatText value)
  | .text value => "string " ++ Text.quote value
  | .list _ => "sequence"
  | .object _ => "map"

/-- Refuses a value of the wrong type. -/
def refuse {Value : Type} (value : Json) (wanted : String) : Except Fault Value :=
  .error (.wrongType (found value) wanted)

/-- A string. -/
def readText : Json → Except Fault String
  | .text value => .ok value
  | other => refuse other "a string"

/-- A number, whole or not. -/
def readNumber : Json → Except Fault Float
  | .float value => .ok value
  | .integer value => .ok (Float.ofInt value)
  | other => refuse other "f64"

/-- A truth value. -/
def readFlag : Json → Except Fault Bool
  | .bool value => .ok value
  | other => refuse other "a boolean"

/-- A whole number inside its width. -/
def readWhole (width : Width) : Json → Except Fault Nat
  | .integer value =>
    if 0 ≤ value && value.toNat ≤ width.greatest then .ok value.toNat
    else .error (.outOfRange value width.word)
  | other => refuse other width.word

/-- The items of an array. -/
def readItems : Json → Except Fault (List Json)
  | .list items => .ok items
  | other => refuse other "a sequence"

/-- The value for a word. -/
def readWord {Chosen : Type} (choice : Choice Chosen) (word : String) : Except Fault Chosen :=
  match choice.find? (· = word) with
  | some chosen => .ok chosen
  | none => .error (.unknownWord word choice.words)

/-- A choice by its word. -/
def readChoice {Chosen : Type} (choice : Choice Chosen) : Json → Except Fault Chosen
  | .text word => readWord choice word
  | .object [(word, content)] => do
    let chosen ← readWord choice word
    match content with
    | .null => .ok chosen
    | other => refuse other "unit"
  | .object _ => .error .notOneKey
  | other => refuse other "string or map"

/-- The fields of an object, or the items of an array as fields. -/
def openRecord (typeName : String) : Json → Except Fault (Opened Json)
  | .object fields => .ok (.named (fieldOf? · fields))
  | .list items => .ok (.placed items)
  | other => refuse other ("struct " ++ typeName)

/-- JSON taken strictly. -/
def strict : Format Json Fault where
  text := readText
  number := readNumber
  flag := readFlag
  whole := readWhole
  items := readItems
  choice := readChoice
  opened := openRecord
  isNull
    | .null => true
    | _ => false
  missing := .missing
  tooShort := .tooShort
  tooLong? found := some (.tooLong found)
  inField _ fault := fault
  inItem _ fault := fault

end PromptRelay.Json
