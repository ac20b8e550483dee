/-
**Where a configuration comes from.**

There are three layers, the later ones winning: the file `config/default`, the file `config/local`,
and the environment. A file is written in TOML or JSON; without it the layer is empty. A variable
whose name starts with `HOPS__`, in any case of letters, is a value whose path has `__` for points.

* `Config.load`: the configuration of files and environment.
-/

import PromptRelay.Config.Schema
import PromptRelay.ConfigTree.Merge
import PromptRelay.ConfigTree.Reading
import PromptRelay.Credential.Environment
import PromptRelay.Json.Parser
import PromptRelay.Text.Pieces
import PromptRelay.Toml.Document

namespace PromptRelay

/-- Why there is no configuration. -/
inductive ConfigFault where
  /-- A file is no document of its language. -/
  | malformed (path : String)
  | setting (fault : ConfigTree.Fault)
  deriving DecidableEq, Repr

/-- The wording of a fault. -/
def ConfigFault.message : ConfigFault → String
  | .malformed path => s!"syntax error in {path}"
  | .setting fault => fault.message

/-- Where a configuration is read from: the texts of files by their paths, and the environment. -/
structure ConfigSources where
  file? : String → Option String
  environment : Environment

namespace ConfigSources

/-- The languages of files: how their names end and how they are read. -/
def languages : List (String × (String → Option Json)) :=
  [(".toml", Toml.parse?), (".json", Json.parse?)]

/-- The files of the two layers, without their endings. -/
def layerNames : List String :=
  ["config/default", "config/local"]

/-- The paths of all files that may be looked at. -/
def paths : List String :=
  layerNames.flatMap fun name => name :: languages.map fun language => name ++ language.1

/-- The file of a layer, with what reads it. A file of the bare name hides those with an ending. -/
def layerFile? (sources : ConfigSources) (name : String) :
    Option (String × String × (String → Option Json)) :=
  if (sources.file? name).isSome then none
  else
    languages.findSome? fun (ending, read) =>
      (sources.file? (name ++ ending)).map fun text => (name ++ ending, text, read)

/-- The entries of a layer that a file holds. -/
def fileEntries (sources : ConfigSources) (name : String) :
    Except ConfigFault (List (String × ConfigTree)) :=
  match sources.layerFile? name with
  | none => .ok []
  | some (path, text, read) =>
    match read text with
    | some (.object fields) => .ok (ConfigTree.ofFields (.file path) fields)
    | _ => .error (.malformed path)

/-- How the names of variables start that hold configuration values. -/
def variableStart : String := "hops__"

/-- The whole number that a variable's value spells. -/
def wholeOf? (value : String) : Option Int :=
  let (negative, digits) := Decimal.takeSign value.toList
  let size := Decimal.valueOfDigits digits
  if digits.isEmpty || !digits.all Char.isDigit then none
  else if negative then if size ≤ Nat.pow 2 63 then some (-(size : Int)) else none
  else if size < Nat.pow 2 63 then some size else none

/-- What a variable's value stands for: a truth value, a number, or else itself. -/
def scalarOf (value : String) : Scalar :=
  match Text.lowercase value with
  | "true" => .flag true
  | "false" => .flag false
  | _ =>
    match wholeOf? value, Decimal.readFloat? value with
    | some number, _ => .whole number
    | none, some number => .decimal number
    | none, none => .text value

/-- The path of a variable that holds a configuration value. -/
def variablePath? (name : String) : Option String :=
  (Text.dropMarker? variableStart.toList (Text.lowercase name).toList).map fun rest =>
    String.ofList (Text.replaceAll '_' ['_'] ['.'] rest)

/-- The entries of the environment. -/
def variableEntries (sources : ConfigSources) : List (String × ConfigTree) :=
  sources.environment.entries.filterMap fun (name, value) =>
    (variablePath? name).map fun path => (path, .leaf (scalarOf value) (some .environment))

/-- All layers joined. What they make together is put into a tree of its own: a key that is no path
as it was written may be one in lower case. -/
def tree (sources : ConfigSources) : Except ConfigFault ConfigTree := do
  let layers ← layerNames.mapM sources.fileEntries
  let joined := (layers ++ [sources.variableEntries]).foldl
    (fun tree entries => ConfigTree.putPaths entries tree) ConfigTree.emptyTable
  return ConfigTree.putPaths joined.entriesOf ConfigTree.emptyTable

end ConfigSources

/-- The configuration of files and environment. -/
def Config.load (sources : ConfigSources) : Except ConfigFault Config := do
  let tree ← sources.tree
  (Config.read ConfigTree.lenient tree).mapError .setting

end PromptRelay
