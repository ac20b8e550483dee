/-
**Trees of configuration values.**

A tree is put together from several sources; each value knows the one that it came from, if it came
from one alone.

* `ConfigTree`: the tree;
* `ConfigTree.ofJson`: the tree of a document.
-/

import PromptRelay.Json.Value

namespace PromptRelay

/-- Where a configuration value came from. -/
inductive Origin where
  | file (path : String)
  | environment
  deriving DecidableEq, Repr

/-- How messages name an origin. -/
def Origin.name : Origin → String
  | .file path => path
  | .environment => "the environment"

/-- A single configuration value. -/
inductive Scalar where
  | nothing
  | flag (value : Bool)
  | whole (value : Int)
  | decimal (value : Float)
  | text (value : String)
  deriving DecidableEq

/-- Configuration values with their origins. -/
inductive ConfigTree where
  | leaf (value : Scalar) (origin : Option Origin)
  | items (values : List ConfigTree) (origin : Option Origin)
  | table (entries : List (String × ConfigTree)) (origin : Option Origin)
  deriving Inhabited

namespace ConfigTree

/-- A table of no entries that was made on the way. -/
def emptyTable : ConfigTree := .table [] none

/-- A value that is not there. -/
def absent : ConfigTree := .leaf .nothing none

/-- A whole number as a value: beyond a signed 64-bit word it is a decimal one. -/
def ofWhole (value : Int) : Scalar :=
  if -Int.pow 2 63 ≤ value && value < Int.pow 2 63 then .whole value
  else .decimal (Float.ofInt value)

mutual

/-- The tree of a document from one source. -/
def ofJson (origin : Origin) : Json → ConfigTree
  | .null => .leaf .nothing origin
  | .bool value => .leaf (.flag value) origin
  | .integer value => .leaf (ofWhole value) origin
  | .float value => .leaf (.decimal value) origin
  | .text value => .leaf (.text value) origin
  | .list values => .items (ofItems origin values) origin
  | .object fields => .table (ofFields origin fields) origin

/-- The trees of the items of a list. -/
def ofItems (origin : Origin) : List Json → List ConfigTree
  | [] => []
  | value :: values => ofJson origin value :: ofItems origin values

/-- The entries of the fields of an object. -/
def ofFields (origin : Origin) : List (String × Json) → List (String × ConfigTree)
  | [] => []
  | field :: fields => ofField origin field :: ofFields origin fields

/-- The entry of a field. -/
def ofField (origin : Origin) : String × Json → String × ConfigTree
  | (key, value) => (key, ofJson origin value)

end

end ConfigTree

end PromptRelay
