/-
**Blanks, comments, keys and strings of TOML.**

A string stands between single or double marks, one of a kind or three; between double marks a
backslash escapes. A key is a bare word or a string on one line, or several of them with points
between.

* `dropLineEnd?`: the rest of a text after a line that has nothing more to say;
* `takeText?`: a string of any of the four forms;
* `takeKeys?`: a key with its points.
-/

import PromptRelay.Json.Parser

namespace PromptRelay.Toml

open Json (hexValue?)

/-- A space or a tab. -/
def isBlank (character : Char) : Bool :=
  character = ' ' || character = '\t'

/-- The text without the blanks it starts with. -/
def skipBlanks (text : List Char) : List Char :=
  text.dropWhile isBlank

/-- The rest of a text that starts with the end of a line. -/
def dropNewline? : List Char → Option (List Char)
  | '\n' :: rest => some rest
  | '\r' :: '\n' :: rest => some rest
  | _ => none

/-- A character that may stand in a line: a tab, or no control. -/
def isPlain (character : Char) : Bool :=
  character = '\t' || (0x20 ≤ character.toNat && character ≠ '\x7f')

/-- The text without the comment that it starts with, if it does. -/
def skipComment : List Char → List Char
  | '#' :: rest => rest.dropWhile isPlain
  | text => text

/-- The rest of a text after a line that says no more than a comment. -/
def dropLineEnd? (text : List Char) : Option (List Char) :=
  match skipComment (skipBlanks text) with
  | [] => some []
  | rest => dropNewline? rest

/-- The text without the blanks, comments and line ends that it starts with. -/
def skipLines : Nat → List Char → List Char
  | 0, text => text
  | fuel + 1, text =>
    let rest := skipBlanks text
    match dropNewline? (skipComment rest) with
    | some after => skipLines fuel after
    | none => rest

/-- The character of so many hexadecimal digits. -/
def takeCodePoint? (count : Nat) (text : List Char) : Option (Char × List Char) := do
  let digits := text.take count
  let code ← digits.foldlM (fun code digit => (hexValue? digit).map (code * 16 + ·)) 0
  if digits.length = count && code.isValidChar then some (Char.ofNat code, text.drop count)
  else none

/-- The character of an escape after its backslash. -/
def takeEscape? : List Char → Option (Char × List Char)
  | 'b' :: rest => some ('\x08', rest)
  | 't' :: rest => some ('\t', rest)
  | 'n' :: rest => some ('\n', rest)
  | 'f' :: rest => some ('\x0c', rest)
  | 'r' :: rest => some ('\r', rest)
  | '"' :: rest => some ('"', rest)
  | '\\' :: rest => some ('\\', rest)
  | 'u' :: rest => takeCodePoint? 4 rest
  | 'U' :: rest => takeCodePoint? 8 rest
  | _ => none

/-- The rest of a text after an escaped line end and the blanks and line ends that follow it. -/
def dropFold? (text : List Char) : Option (List Char) := do
  let rest ← dropNewline? (skipBlanks text)
  let rec skip : Nat → List Char → List Char
    | 0, text => text
    | fuel + 1, text =>
      match dropNewline? (skipBlanks text) with
      | some after => skip fuel after
      | none => skipBlanks text
  return skip rest.length rest

/-- The characters of a string after its opening, newest first, up to its end. A long string may go
over lines and ends with three marks, before which two more may stand. -/
def takeBody? (mark : Char) (long : Bool) :
    Nat → List Char → List Char → Option (String × List Char)
  | 0, _, _ => none
  | _, _, [] => none
  | fuel + 1, taken, first :: rest =>
    if first = mark then
      let count := ((first :: rest).takeWhile (· = mark)).length
      if !long then some (String.ofList taken.reverse, rest)
      else if count < 3 then
        takeBody? mark long fuel (List.replicate count mark ++ taken) (rest.drop (count - 1))
      else
        let kept := min (count - 3) 2
        some (String.ofList (List.replicate kept mark ++ taken).reverse, rest.drop (kept + 2))
    else if first = '\\' && mark = '"' then
      match if long then dropFold? rest else none with
      | some after => takeBody? mark long fuel taken after
      | none => do
        let (character, after) ← takeEscape? rest
        takeBody? mark long fuel (character :: taken) after
    else if isPlain first then takeBody? mark long fuel (first :: taken) rest
    else if long then do
      takeBody? mark long fuel ('\n' :: taken) (← dropNewline? (first :: rest))
    else none

/-- A string on one line after its opening mark. -/
def takeShort? (mark : Char) (text : List Char) : Option (String × List Char) :=
  takeBody? mark false (text.length + 1) [] text

/-- A long string after its opening; a line end right there does not count. -/
def takeLong? (mark : Char) (text : List Char) : Option (String × List Char) :=
  let start := (dropNewline? text).getD text
  takeBody? mark true (start.length + 1) [] start

/-- A string of any of the four forms. -/
def takeText? : List Char → Option (String × List Char)
  | '"' :: '"' :: '"' :: rest => takeLong? '"' rest
  | '\'' :: '\'' :: '\'' :: rest => takeLong? '\'' rest
  | '"' :: rest => takeShort? '"' rest
  | '\'' :: rest => takeShort? '\'' rest
  | _ => none

/-- A character of a bare key. -/
def isBare (character : Char) : Bool :=
  character.isAlphanum || character = '_' || character = '-'

/-- A key without points. -/
def takeKey? : List Char → Option (String × List Char)
  | '"' :: rest => takeShort? '"' rest
  | '\'' :: rest => takeShort? '\'' rest
  | text =>
    let (word, rest) := text.span isBare
    if word.isEmpty then none else some (String.ofList word, rest)

/-- The greatest number of parts that a key may have. -/
def greatestKeyLength : Nat := 79

/-- A key of at most so many parts, with blanks around each. -/
def takeKeyParts? : Nat → List Char → Option (List String × List Char)
  | 0, _ => none
  | left + 1, text => do
    let (key, rest) ← takeKey? (skipBlanks text)
    match skipBlanks rest with
    | '.' :: rest =>
      let (keys, rest) ← takeKeyParts? left rest
      some (key :: keys, rest)
    | rest => some ([key], rest)

/-- A key with its points. -/
def takeKeys? (text : List Char) : Option (List String × List Char) :=
  takeKeyParts? greatestKeyLength text

end PromptRelay.Toml
