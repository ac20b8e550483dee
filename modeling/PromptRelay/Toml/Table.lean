/-
**The tables of a TOML document while it is read.**

A table is opened by a header of its own, or passed on the way to another header, or made by a key
with points. Nothing may be said twice: a key has one value, a table one header; a key with points
adds only to tables that such keys have made, a header only to tables that were passed or that it
opens. Entries stand in the order in which they were made, but a table that was passed first stands
where its own header comes.

* `Node`: a value or a table;
* `insert?`: a value under a key with points;
* `openTable?`, `openItem?`: what a header does;
* `Node.toJson`: the finished document.
-/

import PromptRelay.Json.Value

namespace PromptRelay.Toml

/-- How a table came to be. -/
inductive Opening where
  /-- A longer header passed it. -/
  | passed
  /-- It has a header. -/
  | headed
  /-- A key with points made it. -/
  | dotted
  deriving DecidableEq, Repr

/-- A value, a table, or a list of tables with the latest first. -/
inductive Node where
  | value (json : Json)
  | table (opening : Opening) (entries : List (String × Node))
  | tables (entries : List (List (String × Node)))

/-- The entries of a table. -/
abbrev Entries : Type := List (String × Node)

namespace Entries

/-- Changes the entry of a key, or adds one. -/
def change? (key : String) (change : Option Node → Option Node) : Entries → Option Entries
  | [] => (change none).map fun node => [(key, node)]
  | (name, node) :: entries =>
    if name = key then (change (some node)).map fun changed => (name, changed) :: entries
    else (change? key change entries).map ((name, node) :: ·)

/-- Puts a value under a key of several parts. Into a closed table no value may be put. -/
def insert? (value : Json) : List String → (closed : Bool) → Entries → Option Entries
  | [], _, _ => none
  | [key], closed, entries =>
    if closed then none
    else change? key (fun found => if found.isSome then none else some (.value value)) entries
  | key :: keys, _, entries =>
    let within : Option Node → Option Node
      | none => (insert? value keys false []).map (.table .dotted)
      | some (.table .headed _) => none
      | some (.table opening inner) =>
        (insert? value keys (opening ≠ .dotted) inner).map (.table opening)
      | some (.tables (latest :: earlier)) =>
        (insert? value keys true latest).map fun changed => .tables (changed :: earlier)
      | _ => none
    change? key within entries

/-- Changes the table that a header's path leads to; tables that are not there yet are passed. -/
def changeAt? (change : Entries → Option Entries) : List String → Entries → Option Entries
  | [], entries => change entries
  | key :: keys, entries =>
    let within : Option Node → Option Node
      | none => (changeAt? change keys []).map (.table .passed)
      | some (.table opening inner) => (changeAt? change keys inner).map (.table opening)
      | some (.tables (latest :: earlier)) =>
        (changeAt? change keys latest).map fun changed => .tables (changed :: earlier)
      | _ => none
    change? key within entries

/-- What the last key of a header does in the table before it. -/
def changeLast? (change : String → Entries → Option Entries) (path : List String)
    (entries : Entries) : Option Entries := do
  let key ← path.getLast?
  changeAt? (change key) path.dropLast entries

/-- Opens a table among the entries of the one it is in. A table that was passed before moves behind
all others there. -/
def openHere? (key : String) (entries : Entries) : Option Entries :=
  match entries.lookup key with
  | none => some (entries ++ [(key, .table .headed [])])
  | some (.table .passed inner) =>
    some (entries.filter (fun entry => entry.1 != key) ++ [(key, .table .headed inner)])
  | some _ => none

/-- Adds a table to a list of tables. -/
def openItemHere? (key : String) : Entries → Option Entries :=
  change? key fun
    | none => some (.tables [[]])
    | some (.tables earlier) => some (.tables ([] :: earlier))
    | _ => none

/-- Opens the table of a header. -/
def openTable? : List String → Entries → Option Entries :=
  changeLast? openHere?

/-- Adds a table to the list of a header. -/
def openItem? : List String → Entries → Option Entries :=
  changeLast? openItemHere?

end Entries

mutual

/-- The finished value of a node. -/
def Node.toJson : Node → Json
  | .value json => json
  | .table _ entries => .object (fieldsOf entries)
  | .tables entries => .list (objectsOf entries).reverse

/-- The finished fields of a table. -/
def fieldsOf : List (String × Node) → List (String × Json)
  | [] => []
  | entry :: entries => fieldOf entry :: fieldsOf entries

/-- The finished field of an entry. -/
def fieldOf : String × Node → String × Json
  | (key, node) => (key, node.toJson)

/-- The finished tables of a list. -/
def objectsOf : List (List (String × Node)) → List Json
  | [] => []
  | entries :: rest => .object (fieldsOf entries) :: objectsOf rest

end

/-- The finished table. -/
def Entries.toJson (entries : Entries) : Json :=
  .object (fieldsOf entries)

end PromptRelay.Toml
