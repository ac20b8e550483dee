/-
**Requests and answers on the wire.**

A request asks for the connection to be closed after the answer. An answer is a head of lines, an
empty line and a body; the head says how long the body is, or that it comes in chunks, or the end of
the connection ends it.

* `Posting.message`: the text of a request;
* `Received.ofBytes`: what has come of an answer.
-/

import PromptRelay.Http.Client
import PromptRelay.Text.Bytes

namespace PromptRelay

open Decimal

/-- The text of a request. -/
def Posting.message (posting : Posting) : String :=
  let fixed := [
    ("host", posting.url.authority),
    ("accept", "*/*"),
    ("connection", "close"),
    ("content-length", toString posting.body.utf8ByteSize)]
  let line (header : String × String) : String := s!"{header.1}: {header.2}\r\n"
  s!"POST {posting.url.target} HTTP/1.1\r\n" ++ String.join ((posting.headers ++ fixed).map line) ++
    "\r\n" ++ posting.body

/-- What has come of an answer. -/
inductive Received where
  /-- There is more to come. -/
  | part
  | whole (answer : HttpAnswer)
  /-- What came is no answer. -/
  | broken
  deriving DecidableEq, Repr

namespace Received

/-- The byte that ends a line. -/
def lineEnd : UInt8 := 10

/-- The first line without its end, and the bytes after it. -/
def takeLine? (bytes : List UInt8) : Option (String × List UInt8) :=
  let (line, rest) := bytes.span (· ≠ lineEnd)
  match rest with
  | [] => none
  | _ :: rest => some ((Text.stripEnd '\r' (Text.decode line)), rest)

/-- The lines up to an empty one, and the bytes after that. -/
def takeHead? : Nat → List UInt8 → Option (List String × List UInt8)
  | 0, _ => none
  | fuel + 1, bytes => do
    let (line, rest) ← takeLine? bytes
    if line.isEmpty then return ([], rest)
    else
      let (lines, rest) ← takeHead? fuel rest
      return (line :: lines, rest)

/-- The status that a first line says. -/
def statusOf? (line : String) : Option Nat :=
  match line.splitOn " " with
  | version :: code :: _ =>
    let digits := code.toList
    if version.startsWith "HTTP/" && digits.length = 3 && digits.all Char.isDigit then
      some (valueOfDigits digits)
    else none
  | _ => none

/-- The value of a header among lines, in small letters. -/
def header? (name : String) (lines : List String) : Option String :=
  lines.findSome? fun line =>
    let (found, rest) := line.toList.span (· ≠ ':')
    if (String.ofList found).toLower = name then
      some (Text.trimBlank (String.ofList (rest.drop 1))).toLower
    else none

/-- The size that a chunk's line says. -/
def chunkSize? (line : String) : Option Nat :=
  let digits := line.toList.takeWhile fun character => (Json.hexValue? character).isSome
  if digits.isEmpty then none
  else some (digits.foldl (fun size digit => size * 16 + (Json.hexValue? digit).getD 0) 0)

/-- The bytes of chunks; none while the last one is not there, nothing inside where they are bad. -/
def takeChunks? : Nat → List UInt8 → Option (Option (List UInt8))
  | 0, _ => none
  | fuel + 1, bytes => do
    let (line, rest) ← takeLine? bytes
    match chunkSize? line with
    | none => some none
    | some 0 => some (some [])
    | some size =>
      if rest.length < size then none
      else
        let (_, after) ← takeLine? (rest.drop size)
        match ← takeChunks? fuel after with
        | some more => some (some (rest.take size ++ more))
        | none => some none

/-- The body of an answer as far as it is there; nothing inside where it is bad. -/
def takeBody? (lines : List String) (ended : Bool) (bytes : List UInt8) :
    Option (Option (List UInt8)) :=
  if header? "transfer-encoding" lines = some "chunked" then takeChunks? (bytes.length + 1) bytes
  else
    match header? "content-length" lines with
    | some length =>
      let size := valueOfDigits length.toList
      if !length.toList.all Char.isDigit then some none
      else if size ≤ bytes.length then some (some (bytes.take size))
      else none
    | none => if ended then some (some bytes) else none

/-- What has come of an answer with the bytes so far; `ended` says that no more will come. Heads of
provisional answers are passed over. -/
def ofBytesWithin : Nat → (ended : Bool) → List UInt8 → Received
  | 0, _, _ => .broken
  | fuel + 1, ended, bytes =>
    let unfinished : Received := if ended then .broken else .part
    match takeHead? (bytes.length + 1) bytes with
    | none => unfinished
    | some (lines, rest) =>
      match statusOf? (lines.headD "") with
      | none => .broken
      | some status =>
        if status < 200 then ofBytesWithin fuel ended rest
        else if HttpAnswer.isBodiless status then .whole ⟨status, ""⟩
        else
          match takeBody? lines ended rest with
          | none => unfinished
          | some none => .broken
          | some (some body) => .whole ⟨status, Text.decode body⟩

/-- What has come of an answer with the bytes so far. -/
def ofBytes (ended : Bool) (bytes : List UInt8) : Received :=
  ofBytesWithin (bytes.length + 1) ended bytes

end Received

end PromptRelay
