/-
**JSON values.**

Whole numbers and floats are kept apart, since a reader of typed values treats them differently. An
object is its list of fields.

* `Json.get?`: the value of a field;
* `Json.insertField`: a field put in the place that the order of keys gives it.
-/

namespace PromptRelay

/-- A JSON value. -/
inductive Json where
  | null
  | bool (value : Bool)
  | integer (value : Int)
  | float (value : Float)
  | text (value : String)
  | list (items : List Json)
  | object (fields : List (String × Json))
  deriving Inhabited

namespace Json

/-- The value of the first field with a key. -/
def fieldOf? {Value : Type} (key : String) : List (String × Value) → Option Value
  | [] => none
  | (name, value) :: fields => if name = key then some value else fieldOf? key fields

/-- The value of an object's field. -/
def get? (key : String) : Json → Option Json
  | .object fields => fieldOf? key fields
  | _ => none

/-- Puts a field where the order of keys wants it; an earlier field of the same key gives way. -/
def insertField {Value : Type} (key : String) (value : Value) :
    List (String × Value) → List (String × Value)
  | [] => [(key, value)]
  | (name, old) :: fields =>
    if name = key then (key, value) :: fields
    else if key < name then (key, value) :: (name, old) :: fields
    else (name, old) :: insertField key value fields

/-- Fields in the order of their keys, the last of each key. -/
def sortFields {Value : Type} (fields : List (String × Value)) : List (String × Value) :=
  fields.foldl (fun sorted field => insertField field.1 field.2 sorted) []

/-- An object without the fields that have no value. -/
def objectOfPresent (fields : List (String × Option Json)) : Json :=
  .object (fields.filterMap fun field => field.2.map (field.1, ·))

/-- The JSON value of an optional one, `null` for none. -/
def ofOption {Value : Type} (encode : Value → Json) : Option Value → Json
  | none => .null
  | some value => encode value

end Json

end PromptRelay
