/-
**Reading TOML.**

A document is a sequence of lines: comments, headers, and keys with their values. A value may go
over several lines inside an array or a long string. While it is read a date or time is a table with
one marked text, and a table of a document that looks like it counts as one.

* `Toml.parse?`: the document as a JSON object; dates and times become texts.
-/

import PromptRelay.Toml.Lexeme
import PromptRelay.Toml.Number
import PromptRelay.Toml.Table
import PromptRelay.Toml.Time

namespace PromptRelay.Toml

/-- The items of an array after its opening bracket, up to the closing one. -/
def takeItems? (value? : List Char → Option (Json × List Char)) :
    Nat → List Char → Option (List Json × List Char)
  | 0, _ => none
  | fuel + 1, input =>
    match skipLines input.length input with
    | ']' :: rest => some ([], rest)
    | start => do
      let (value, rest) ← value? start
      match skipLines rest.length rest with
      | ',' :: rest =>
        let (values, rest) ← takeItems? value? fuel rest
        some (value :: values, rest)
      | ']' :: rest => some ([value], rest)
      | _ => none

/-- A key, its equals sign and its value. -/
def takePairing? (value? : List Char → Option (Json × List Char)) (text : List Char) :
    Option ((List String × Json) × List Char) := do
  let (keys, rest) ← takeKeys? text
  match rest with
  | '=' :: rest =>
    let (value, rest) ← value? (skipBlanks rest)
    some ((keys, value), rest)
  | _ => none

/-- The entries of a table on one line after its opening brace, at least one more. -/
def takeEntries? (value? : List Char → Option (Json × List Char)) :
    Nat → Entries → List Char → Option (Entries × List Char)
  | 0, _, _ => none
  | fuel + 1, entries, input => do
    let ((keys, value), rest) ← takePairing? value? input
    let entries ← entries.insert? value keys false
    match skipBlanks rest with
    | ',' :: rest => takeEntries? value? fuel entries rest
    | '\x7d' :: rest => some (entries, rest)
    | _ => none

/-- A date or time, or else a number. -/
def takeScalar? (text : List Char) : Option (Json × List Char) :=
  match takeTime? text with
  | some (time, rest) => some (markTime time, rest)
  | none => takeNumber? text

/-- A value; `depth` is how many more arrays and tables may open. -/
def takeValue? : Nat → List Char → Option (Json × List Char)
  | depth, text =>
    match text with
    | '"' :: _ | '\'' :: _ => (takeText? text).map fun (value, rest) => (.text value, rest)
    | 't' :: 'r' :: 'u' :: 'e' :: rest => some (.bool true, rest)
    | 'f' :: 'a' :: 'l' :: 's' :: 'e' :: rest => some (.bool false, rest)
    | '[' :: rest =>
      match depth with
      | 0 => none
      | depth + 1 =>
        (takeItems? (takeValue? depth) (rest.length + 1) rest).map fun (values, rest) =>
          (.list values, rest)
    | '\x7b' :: rest =>
      match depth with
      | 0 => none
      | depth + 1 =>
        match skipBlanks rest with
        | '\x7d' :: rest => some (.object [], rest)
        | rest =>
          (takeEntries? (takeValue? depth) (rest.length + 1) [] rest).map
            fun (entries, rest) => (entries.toJson, rest)
    | _ => takeScalar? text

/-- How deep arrays and tables may stand inside each other. -/
def greatestDepth : Nat := 79

/-- What was read so far: the whole document, and the header whose table is being filled. -/
structure Draft where
  root : Entries := []
  header : List String := []

namespace Draft

/-- A header with one bracket. -/
def openTable? (draft : Draft) (path : List String) : Option Draft :=
  (draft.root.openTable? path).map fun root => ⟨root, path⟩

/-- A header with two brackets. -/
def openItem? (draft : Draft) (path : List String) : Option Draft :=
  (draft.root.openItem? path).map fun root => ⟨root, path⟩

/-- A key with its value. -/
def insert? (draft : Draft) (keys : List String) (value : Json) : Option Draft :=
  (draft.root.changeAt? (Entries.insert? value keys false) draft.header).map fun root =>
    { draft with root }

end Draft

/-- One line: a header, or a key with its value. -/
def takeLine? (draft : Draft) (text : List Char) : Option (Draft × List Char) :=
  match text with
  | '[' :: '[' :: rest => do
    let (path, rest) ← takeKeys? rest
    match rest with
    | ']' :: ']' :: rest => some (← draft.openItem? path, rest)
    | _ => none
  | '[' :: rest => do
    let (path, rest) ← takeKeys? rest
    match rest with
    | ']' :: rest => some (← draft.openTable? path, rest)
    | _ => none
  | text => do
    let ((keys, value), rest) ← takePairing? (takeValue? greatestDepth) text
    some (← draft.insert? keys value, rest)

/-- All lines. -/
def takeLines? : Nat → Draft → List Char → Option Draft
  | 0, _, _ => none
  | fuel + 1, draft, text =>
    match skipLines text.length text with
    | [] => some draft
    | '#' :: rest => if (rest.dropWhile isPlain).isEmpty then some draft else none
    | start => do
      let (draft, rest) ← takeLine? draft start
      takeLines? fuel draft (← dropLineEnd? rest)

/-- The document of a text, whose mark of byte order does not count; dates and times are texts. -/
def parse? (text : String) : Option Json :=
  let start := match text.toList with
    | '\ufeff' :: rest => rest
    | all => all
  (takeLines? (start.length + 1) {} start).bind fun draft => unmarkTimes? draft.root.toJson

end PromptRelay.Toml
