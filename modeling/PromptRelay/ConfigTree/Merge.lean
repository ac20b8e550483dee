/-
**Putting configuration values into a tree.**

A value is put under a path such as `a.b` or `a[0].b`. A table is merged entry by entry into the
table that is there; anything else takes the place of what was there. Keys are put in lower case,
save those inside lists.

* `ConfigTree.put`: a value under a key;
* `ConfigTree.putAt`: a value under a path;
* `ConfigTree.readPath?`: the path that a text spells.
-/

import PromptRelay.ConfigTree.Basic
import PromptRelay.Decimal.Reading
import PromptRelay.Text.Lowercase

namespace PromptRelay

/-- A step down a tree. -/
inductive TreeStep where
  | key (name : String)
  /-- An item by its place, counted from the end where it is negative. -/
  | place (index : Int)
  deriving DecidableEq, Repr

namespace ConfigTree

/-- The entries of a tree, none for what is no table. -/
def entriesOf : ConfigTree → List (String × ConfigTree)
  | .table entries _ => entries
  | _ => []

/-- The items of a tree, none for what is no list. -/
def itemsOf : ConfigTree → List ConfigTree
  | .items values _ => values
  | _ => []

/-- Changes the entry of a key, or adds one. -/
def changeEntry (key : String) (change : Option ConfigTree → ConfigTree) :
    List (String × ConfigTree) → List (String × ConfigTree)
  | [] => [(key, change none)]
  | (name, value) :: entries =>
    if name = key then (name, change (some value)) :: entries
    else (name, value) :: changeEntry key change entries

/-- Changes the value of a key in a tree, which becomes a table if it is none. -/
def changeKey (key : String) (change : Option ConfigTree → ConfigTree) (tree : ConfigTree) :
    ConfigTree :=
  let origin := match tree with
    | .table _ origin => origin
    | _ => none
  .table (changeEntry key change tree.entriesOf) origin

/-- Changes an item of a list, which grows as far as is needed. -/
def changeItem (change : ConfigTree → ConfigTree) : Nat → List ConfigTree → List ConfigTree
  | 0, [] => [change absent]
  | 0, value :: values => change value :: values
  | place + 1, [] => absent :: changeItem change place []
  | place + 1, value :: values => value :: changeItem change place values

/-- Changes the item of a place in a tree, which becomes a list if it is none. -/
def changePlace (index : Int) (change : ConfigTree → ConfigTree) (tree : ConfigTree) :
    ConfigTree :=
  let origin := match tree with
    | .items _ origin => origin
    | _ => none
  let values := tree.itemsOf
  let place := if index < 0 then (values.length + index).toNat else index.toNat
  .items (changeItem change place values) origin

mutual

/-- Puts a value under a key. -/
def put (key : String) : ConfigTree → ConfigTree → ConfigTree
  | .table incoming _, tree =>
    tree.changeKey (Text.lowercase key) fun found => putAll incoming (found.getD emptyTable)
  | .leaf value origin, tree =>
    tree.changeKey (Text.lowercase key) fun _ => .leaf value origin
  | .items values origin, tree =>
    tree.changeKey (Text.lowercase key) fun _ => .items values origin

/-- Puts entries into a tree, one after the other. -/
def putAll : List (String × ConfigTree) → ConfigTree → ConfigTree
  | [], tree => tree
  | entry :: entries, tree => putAll entries (putEntry entry tree)

/-- Puts an entry into a tree. -/
def putEntry : String × ConfigTree → ConfigTree → ConfigTree
  | (key, value), tree => put key value tree

end

/-- Puts a value under a path, whose keys are all put in lower case. -/
def putAt (value : ConfigTree) : List TreeStep → ConfigTree → ConfigTree
  | [], tree => tree
  | [.key name], tree => put name value tree
  | [.place index], tree => tree.changePlace index fun _ => value
  | .key name :: path, tree =>
    tree.changeKey (Text.lowercase name) fun found => putAt value path (found.getD absent)
  | .place index :: path, tree => tree.changePlace index (putAt value path)

section Paths

open Decimal

/-- A character of a name in a path. -/
def isNameChar (character : Char) : Bool :=
  character.isAlphanum || character = ' ' || character = '_' || character = '-'

/-- A name in a path. -/
def takeName? (text : List Char) : Option (TreeStep × List Char) :=
  let (name, rest) := text.span isNameChar
  if name.isEmpty then none else some (.key (String.ofList name), rest)

/-- The text without the spaces and tabs that it starts with. -/
def skipGap (text : List Char) : List Char :=
  text.dropWhile fun character => character = ' ' || character = '\t'

/-- A place in brackets, after the opening one. -/
def takePlace? (text : List Char) : Option (TreeStep × List Char) :=
  let start := skipGap text
  let (negative, rest) := match start with
    | '-' :: rest => (true, rest)
    | _ => (false, start)
  let (digits, rest) := spanDigits rest
  let size := valueOfDigits digits
  match skipGap rest with
  | ']' :: rest =>
    if digits.isEmpty || Nat.pow 2 63 ≤ size then none
    else some (.place (if negative then -(size : Int) else size), rest)
  | _ => none

/-- The steps after the first one. -/
def takeSteps? : Nat → List Char → Option (List TreeStep)
  | _, [] => some []
  | 0, _ => none
  | fuel + 1, mark :: rest => do
    let (step, rest) ←
      if mark = '.' then takeName? rest else if mark = '[' then takePlace? rest else none
    return step :: (← takeSteps? fuel rest)

/-- The path that a text spells: a name, then names behind points and places in brackets. -/
def readPath? (text : String) : Option (List TreeStep) := do
  let (first, rest) ← takeName? text.toList
  return first :: (← takeSteps? rest.length rest)

/-- The path of a key; one that spells no path is a step of its own. -/
def pathOf (key : String) : List TreeStep :=
  (readPath? key).getD [.key key]

end Paths

/-- Puts entries into a tree whose keys are paths. -/
def putPaths (entries : List (String × ConfigTree)) (tree : ConfigTree) : ConfigTree :=
  entries.foldl (fun tree (key, value) => putAt value (pathOf key) tree) tree

end ConfigTree

end PromptRelay
