/-
**Addresses.**

An address is read and written in one normal form: scheme and host in small letters, the usual port
left out, dots in the path worked off, and characters that may not stand in an address spelled byte
by byte behind a percent sign.

* `Url.parse?`: the address that a text stands for;
* `Url.text`: its normal form.
-/

import PromptRelay.Decimal.Reading
import PromptRelay.Json.Parser
import PromptRelay.Text.Pieces
import PromptRelay.Text.Quoted

namespace PromptRelay

open Decimal

/-- An address with a host. -/
structure Url where
  scheme : String
  host : String
  /-- The port where it is not the usual one. -/
  port : Option Nat := none
  path : String := "/"
  query : Option String := none
  fragment : Option String := none
  deriving DecidableEq, Repr

/-- A text read as an address. -/
inductive Address where
  | url (url : Url)
  /-- An address of another kind, such as one without a host. -/
  | foreign (text : String)
  deriving DecidableEq, Repr

namespace Url

/-- The usual port of a scheme. -/
def usualPort? (scheme : String) : Option Nat :=
  if scheme = "http" then some 80 else if scheme = "https" then some 443 else none

/-- The port that a connection goes to. -/
def portOf (url : Url) : Nat :=
  url.port.getD ((usualPort? url.scheme).getD 80)

/-- Host and port, as requests name them. -/
def authority (url : Url) : String :=
  match url.port with
  | some port => s!"{url.host}:{port}"
  | none => url.host

/-- Path and query, as requests name them. -/
def target (url : Url) : String :=
  match url.query with
  | some query => s!"{url.path}?{query}"
  | none => url.path

/-- The normal form. -/
def text (url : Url) : String :=
  let fragment := match url.fragment with
    | some fragment => s!"#{fragment}"
    | none => ""
  s!"{url.scheme}://{url.authority}{url.target}{fragment}"

/-- A byte behind a percent sign. -/
def percentByte (byte : UInt8) : List Char :=
  let digits := Text.hexDigits byte.toNat
  '%' :: (List.replicate (2 - digits.length) '0' ++ digits).map Char.toUpper

/-- The characters that a part of an address spells byte by byte, controls and non-ASCII apart. -/
def encode (spelled : List Char) (text : List Char) : String :=
  String.ofList <| text.flatMap fun character =>
    if character.toNat ≤ 0x20 || 0x7f ≤ character.toNat || character ∈ spelled then
      (String.ofList [character]).toUTF8.toList.flatMap percentByte
    else [character]

/-- Characters spelled in a path. -/
def spelledInPath : List Char := ['"', '#', '<', '>', '?', '^', '\x60', '\x7b', '\x7d']

/-- Characters spelled in a query. -/
def spelledInQuery : List Char := ['"', '#', '<', '>', '\'']

/-- Characters spelled in a fragment. -/
def spelledInFragment : List Char := ['"', '<', '>', '\x60']

/-- A part of a path that stands for the same place. -/
def isHere (part : String) : Bool :=
  part = "." || part.toLower = "%2e"

/-- A part of a path that goes one up. -/
def isUp (part : String) : Bool :=
  part.toLower ∈ ["..", ".%2e", "%2e.", "%2e%2e"]

/-- Works off the dots among the parts of a path, given those before, newest first. -/
def workOff : List String → List String → List String
  | before, [] => before.reverse
  | before, [part] =>
    if isUp part then ("" :: before.drop 1).reverse
    else if isHere part then ("" :: before).reverse
    else (part :: before).reverse
  | before, part :: parts =>
    if isUp part then workOff (before.drop 1) parts
    else if isHere part then workOff before parts
    else workOff (part :: before) parts

/-- The normal form of a path behind its first slash. -/
def pathOf (text : List Char) : String :=
  let parts := (Text.splitAt '/' [] text).map (encode spelledInPath)
  "/" ++ String.intercalate "/" (workOff [] parts)

/-- Characters that no host has. -/
def forbidden : List Char :=
  [' ', '#', '%', '/', ':', '<', '>', '?', '@', '[', '\\', ']', '^', '|', '\x7f']

/-- The host in small letters, none for one that cannot be. An address in brackets is kept. -/
def hostOf? (text : List Char) : Option String :=
  match text with
  | '[' :: rest =>
    if rest.getLast? = some ']' && rest.dropLast.all fun character =>
        (Json.hexValue? character).isSome || character = ':' || character = '.' then
      some (String.ofList text).toLower
    else none
  | _ =>
    if text.isEmpty || text.any fun character =>
        character.toNat ≤ 0x20 || 0x7f ≤ character.toNat || character ∈ forbidden then none
    else some (String.ofList text).toLower

/-- Host and port apart: the port is what digits behind the last colon outside brackets say. -/
def splitPort (text : List Char) : List Char × Option (List Char) :=
  let (back, rest) := text.reverse.span fun character => character ≠ ':' && character ≠ ']'
  match rest with
  | ':' :: host => (host.reverse, some back.reverse)
  | _ => (text, none)

/-- The port, none inside for the usual one and none at all for one that cannot be. -/
def portOf? (scheme : String) (digits : Option (List Char)) : Option (Option Nat) :=
  match digits with
  | none | some [] => some none
  | some digits =>
    let port := valueOfDigits digits
    if !digits.all Char.isDigit || 65535 < port then none
    else some (if usualPort? scheme = some port then none else some port)

/-- The text up to the first of some marks, and the rest from the mark on. -/
def upTo (marks : List Char) (text : List Char) : List Char × List Char :=
  text.span fun character => character ∉ marks

/-- The part behind a mark, if the text starts with it. -/
def behind (mark : Char) : List Char → Option (List Char)
  | first :: rest => if first = mark then some rest else none
  | [] => none

/-- An address behind its scheme and slashes. -/
def ofAuthority? (scheme : String) (text : List Char) : Option Url := do
  let (authority, rest) := upTo ['/', '?', '#'] text
  let (host, port) := splitPort authority
  let host ← hostOf? host
  let port ← portOf? scheme port
  let (path, rest) := upTo ['?', '#'] rest
  let (query, rest) := upTo ['#'] rest
  return {
    scheme
    host
    port
    path := pathOf (path.drop 1)
    query := (behind '?' query).map (encode spelledInQuery)
    fragment := (behind '#' rest).map (encode spelledInFragment) }

/-- The address that a text stands for. -/
def parse? (input : String) : Option Address := do
  let isEdge (character : Char) : Bool := character.toNat ≤ 0x20
  let trimmed := ((input.toList.dropWhile isEdge).reverse.dropWhile isEdge).reverse
  let text := trimmed.filter fun character => character ∉ ['\t', '\n', '\r']
  let (scheme, rest) := text.span fun character =>
    character.isAlphanum || character = '+' || character = '-' || character = '.'
  let rest ← behind ':' rest
  let first ← scheme.head?
  if !first.isAlpha then none
  let scheme := (String.ofList scheme).toLower
  if scheme = "http" || scheme = "https" then
    let slashes := rest.map fun character => if character = '\\' then '/' else character
    (ofAuthority? scheme (slashes.dropWhile (· = '/'))).map .url
  else return .foreign (String.ofList text)

end Url

end PromptRelay
