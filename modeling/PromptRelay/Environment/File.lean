/-
**Environment variables from a file.**

A file sets variables that are not set yet, one a line: a name, an equals sign, a value. The word
`export` may stand before the name. A value may be quoted, over several lines if need be; between
single quotes every character stands for itself, elsewhere a backslash escapes and a dollar sign
brings the value of another variable. Behind blanks a hash sign starts a comment. The first line
that cannot be read ends the reading; what was set before stays.

* `Environment.withFile`: the environment and what a file adds to it.
-/

import PromptRelay.Environment.Basic
import PromptRelay.Text.Blank

namespace PromptRelay.Environment

open Text (isBlankChar)

section Lines

/-- Where a reading stands in a line, as far as the line's end depends on it. -/
inductive LineState where
  | plain
  | gap
  | escape
  | weak
  | weakEscape
  | strong
  | strongEscape
  deriving DecidableEq, Repr

/-- The state outside quotes after a character. -/
def LineState.enter (character : Char) : LineState :=
  if character = '\\' then .escape
  else if character = '"' then .weak
  else if character = '\'' then .strong
  else .plain

/-- The state after a character; none where a comment starts. -/
def LineState.next? (state : LineState) (character : Char) : Option LineState :=
  match state with
  | .gap => if character = '#' then none else some (.enter character)
  | .escape => some .plain
  | .plain =>
    if isBlankChar character && character ≠ '\n' && character ≠ '\r' then some .gap
    else some (.enter character)
  | .weak =>
    some (if character = '\\' then .weakEscape else if character = '"' then .plain else .weak)
  | .weakEscape => some .weak
  | .strong =>
    some (if character = '\\' then .strongEscape else if character = '\'' then .plain else .strong)
  | .strongEscape => some .strong

/-- The part of a line before its comment, and the state at its end; a comment leaves none. -/
def scanLine (state : LineState) : List Char → List Char × Option LineState
  | [] => ([], some state)
  | character :: rest =>
    match state.next? character with
    | none => ([], none)
    | some next =>
      let (kept, ending) := scanLine next rest
      (character :: kept, ending)

/-- The lines of a text, each with its end. -/
def linesOf : List Char → List (List Char)
  | [] => []
  | character :: rest =>
    if character = '\n' then [character] :: linesOf rest
    else
      match linesOf rest with
      | [] => [[character]]
      | line :: lines => (character :: line) :: lines

/-- A line without its end. -/
def withoutEnd (line : List Char) : List Char :=
  match line.reverse with
  | '\n' :: '\r' :: rest => rest.reverse
  | '\n' :: rest => rest.reverse
  | _ => line

/-- The settings of a file, each on a line or on several that a quote holds together; none for one
that never ends. -/
def settingsOf (state : LineState) (taken : List Char) :
    List (List Char) → List (Option (List Char))
  | [] => if state = .plain then [] else [none]
  | line :: lines =>
    if taken.isEmpty && (line.dropWhile isBlankChar).head? = some '#' then
      settingsOf .plain [] lines
    else
      match scanLine state line with
      | (kept, none) => some (taken ++ kept) :: settingsOf .plain [] lines
      | (_, some .plain) => some (withoutEnd (taken ++ line)) :: settingsOf .plain [] lines
      | (_, some ending) => settingsOf ending (taken ++ line) lines

end Lines

section Values

/-- Where a reading stands in a value. -/
inductive ValueState where
  | plain
  | weak
  | strong
  | escape (weak : Bool)
  /-- The value has ended, a comment may follow. -/
  | ended
  /-- The name of another variable, newest character first. -/
  | named (weak : Bool) (name : List Char)
  /-- The same between braces. -/
  | braced (weak : Bool) (name : List Char)
  deriving DecidableEq, Repr

/-- The state outside of names and escapes. -/
def ValueState.back (weak : Bool) : ValueState :=
  if weak then .weak else .plain

/-- The value of another variable, newest character first; nothing for one that is not set. -/
def expand (environment : Environment) (name : List Char) : List Char :=
  ((environment.get? (String.ofList name.reverse)).getD "").toList.reverse

/-- What an escape stands for. -/
def escapeValue? (character : Char) : Option Char :=
  if character ∈ ['\\', '\'', '"', '$', ' '] then some character
  else if character = 'n' then some '\n'
  else none

/-- The characters of a value, newest first, from those taken already. -/
def takeValue? (environment : Environment) :
    ValueState → List Char → List Char → Option (List Char)
  | .plain, taken, [] | .ended, taken, [] | .escape false, taken, [] => some taken
  | .named false name, taken, [] => some (expand environment name ++ taken)
  | _, _, [] => none
  | .ended, taken, character :: rest =>
    if character = ' ' || character = '\t' then takeValue? environment .ended taken rest
    else if character = '#' then some taken
    else none
  | .escape weak, taken, character :: rest => do
    let value ← escapeValue? character
    takeValue? environment (.back weak) (value :: taken) rest
  | .strong, taken, character :: rest =>
    if character = '\'' then takeValue? environment .plain taken rest
    else takeValue? environment .strong (character :: taken) rest
  | .named weak name, taken, character :: rest =>
    if character.isAlphanum then takeValue? environment (.named weak (character :: name)) taken rest
    else if character = '\x7b' && name.isEmpty then
      takeValue? environment (.braced weak []) taken rest
    else
      let expanded := expand environment name ++ taken
      if character = '$' then takeValue? environment (.named weak []) expanded rest
      else takeValue? environment (.back weak) (character :: expanded) rest
  | .braced weak name, taken, character :: rest =>
    if character = '\x7d' then
      takeValue? environment (.back weak) (expand environment name ++ taken) rest
    else takeValue? environment (.braced weak (character :: name)) taken rest
  | .weak, taken, character :: rest =>
    if character = '$' then takeValue? environment (.named true []) taken rest
    else if character = '"' then takeValue? environment .plain taken rest
    else if character = '\\' then takeValue? environment (.escape true) taken rest
    else takeValue? environment .weak (character :: taken) rest
  | .plain, taken, character :: rest =>
    if character = '$' then takeValue? environment (.named false []) taken rest
    else if character = '\'' then takeValue? environment .strong taken rest
    else if character = '"' then takeValue? environment .weak taken rest
    else if character = '\\' then takeValue? environment (.escape false) taken rest
    else if character = ' ' || character = '\t' then takeValue? environment .ended taken rest
    else takeValue? environment .plain (character :: taken) rest

end Values

/-- The text without the blanks it starts with. -/
def skipSpace (text : List Char) : List Char :=
  text.dropWhile isBlankChar

/-- A name and the text behind the blanks that follow it. -/
def takeName? (text : List Char) : Option (String × List Char) :=
  let (name, rest) := text.span fun character =>
    character.isAlphanum || character = '_' || character = '.'
  match name with
  | [] => none
  | first :: _ =>
    if first.isAlpha || first = '_' then some (String.ofList name, skipSpace rest) else none

/-- The text behind an equals sign. -/
def dropEquals? : List Char → Option (List Char)
  | '=' :: rest => some rest
  | _ => none

/-- A name and what follows its equals sign. The word `export` may itself be a name. -/
def takeAssignment? (text : List Char) : Option (String × List Char) := do
  let (name, rest) ← takeName? text
  match dropEquals? rest with
  | some value => return (name, value)
  | none =>
    if name ≠ "export" then none
    else
      let (name, rest) ← takeName? rest
      return (name, ← dropEquals? rest)

/-- The environment after a setting: none where it cannot be read. A variable that is set stays. -/
def withSetting? (environment : Environment) (setting : List Char) : Option Environment :=
  let text := skipSpace (setting.reverse.dropWhile isBlankChar).reverse
  if text.isEmpty || text.head? = some '#' then some environment
  else do
    let (name, rest) ← takeAssignment? text
    let rest := skipSpace rest
    let value ←
      if rest.head? = some '#' then some [] else takeValue? environment .plain [] rest
    if (environment.get? name).isSome then return environment
    else return environment.set name (String.ofList value.reverse)

/-- The environment after settings, up to the first that cannot be read. -/
def withSettings (environment : Environment) : List (Option (List Char)) → Environment
  | some setting :: settings =>
    match environment.withSetting? setting with
    | some next => next.withSettings settings
    | none => environment
  | _ => environment

/-- The environment and what a file adds to it. -/
def withFile (environment : Environment) (text : String) : Environment :=
  let start := match text.toList with
    | '\ufeff' :: rest => rest
    | all => all
  environment.withSettings (settingsOf .plain [] (linesOf start))

end PromptRelay.Environment
