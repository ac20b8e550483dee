/-
**Chain ids.**

An id is a number of 128 bits. It is written as 32 hexadecimal digits in groups of 8, 4, 4, 4 and 12
with hyphens between; the digits alone, braces around the groups and a name in front of them are
read as well. Each form has a size of its own, which tells how a text is read and how its faults are
told.

* `ChainId.text`: the written form;
* `ChainId.read`: any of the forms.
-/

import PromptRelay.Decimal.Layout
import PromptRelay.Json.Parser
import PromptRelay.Text.Pieces
import PromptRelay.Text.Quoted

namespace PromptRelay

/-- The id of a chain. -/
structure ChainId where
  number : Nat
  deriving DecidableEq, Repr, Inhabited

/-- Why a text is no chain id. Places are counted in bytes from zero. -/
inductive ChainIdFault where
  | badCharacter (character : Char) (place : Nat)
  | badLength (bytes : Nat)
  | badGroupCount (count : Nat)
  | badGroupLength (group expected found : Nat)
  deriving DecidableEq, Repr

/-- The wording of a fault. -/
def ChainIdFault.message : ChainIdFault → String
  | .badCharacter character place => s!"invalid character: found `{character}` at {place}"
  | .badLength bytes => s!"invalid length: found {bytes}"
  | .badGroupCount count => s!"invalid group count: expected 5, found {count}"
  | .badGroupLength group expected found =>
    s!"invalid group length in group {group}: expected {expected}, found {found}"

namespace ChainId

/-- The id that random bits make: six of its bits are fixed and say that the others are random. -/
def ofRandom (bits : Nat) : ChainId :=
  let low := bits % Nat.pow 2 62
  let middle := bits / Nat.pow 2 64 % Nat.pow 2 12
  let high := bits / Nat.pow 2 80 % Nat.pow 2 48
  ⟨high * Nat.pow 2 80 + 4 * Nat.pow 2 76 + middle * Nat.pow 2 64 + 2 * Nat.pow 2 62 + low⟩

/-- The number of digits of each group. -/
def groupLengths : List Nat := [8, 4, 4, 4, 12]

/-- Cuts a list into groups of given lengths. -/
def cut {Item : Type} : List Nat → List Item → List (List Item)
  | [], _ => []
  | length :: lengths, items => items.take length :: cut lengths (items.drop length)

/-- The written form of an id. -/
def text (id : ChainId) : String :=
  let digits := Text.hexDigits id.number
  let all := List.replicate (32 - digits.length) '0' ++ digits
  String.ofList (['-'].intercalate (cut groupLengths all))

/-- The number of hexadecimal digits. -/
def numberOf? (digits : List Char) : Option Nat :=
  digits.foldlM (fun number digit => (Json.hexValue? digit).map (number * 16 + ·)) 0

/-- The id of digits in groups. -/
def ofGroups? (input : List Char) : Option ChainId :=
  let groups := Text.splitAt '-' [] input
  if groups.map List.length = groupLengths then (numberOf? groups.flatten).map ChainId.mk
  else none

/-- The name in front of an id. -/
def formalName : List Char := "urn:uuid:".toList

/-- What follows the name, written in any case of letters. -/
def behindName? (input : List Char) : Option (List Char) :=
  if (input.take formalName.length).map Char.toLower = formalName then
    some (input.drop formalName.length)
  else none

/-- What stands between braces. -/
def betweenBraces? : List Char → Option (List Char)
  | '\x7b' :: rest => if rest.getLast? = some '\x7d' then some rest.dropLast else none
  | _ => none

/-- The first character that is neither digit nor hyphen, with its place. -/
def badCharacter? (place : Nat) : List Char → Option ChainIdFault
  | [] => none
  | character :: rest =>
    if character = '-' || (Json.hexValue? character).isSome then
      badCharacter? (place + character.utf8Size) rest
    else some (.badCharacter character place)

/-- The first group whose length is wrong, counted from a group on. -/
def badGroup? : Nat → List Nat → List Nat → Option ChainIdFault
  | group, expected :: lengths, found :: rest =>
    if expected = found then badGroup? (group + 1) lengths rest
    else some (.badGroupLength group expected found)
  | _, _, _ => none

/-- A text that holds no id: the part that would have to be one, how many bytes stand before it, how
many bytes there are, and whether digits alone would do. -/
structure Misfit where
  part : List Char
  front : Nat
  bytes : Nat
  bare : Bool

/-- What is wrong with a text. Behind four right groups it can only be the last one, whose length is
told with all that follows it and all that wraps the groups. -/
def Misfit.fault (misfit : Misfit) : ChainIdFault :=
  match badCharacter? misfit.front misfit.part with
  | some fault => fault
  | none =>
    let groups := Text.splitAt '-' [] misfit.part
    if groups.length = 1 && misfit.bare then .badLength misfit.bytes
    else if groups.length ≠ 5 then .badGroupCount groups.length
    else
      (badGroup? 0 groupLengths ((groups.take 4).map List.length)).getD
        (.badGroupLength 4 12 (misfit.bytes - 24))

/-- The id of digits alone. -/
def readDigits (input : List Char) : Except ChainIdFault ChainId :=
  match numberOf? input with
  | some number => .ok ⟨number⟩
  | none => .error (Misfit.mk input 0 32 true).fault

/-- The id of digits in groups. -/
def readGroups (input : List Char) : Except ChainIdFault ChainId :=
  match ofGroups? input with
  | some id => .ok id
  | none => .error (Misfit.mk input 0 36 false).fault

/-- What wraps the groups in a text of a size that no form has. -/
def misfitOf (bytes : Nat) (input : List Char) : Misfit :=
  match betweenBraces? input, behindName? input with
  | some inner, _ => ⟨inner, 1, bytes, false⟩
  | none, some inner => ⟨inner, formalName.length, bytes, false⟩
  | none, none => ⟨input, 0, bytes, true⟩

/-- The groups that a text wraps in a form, judged by its size. -/
def groupsIn? (bytes : Nat) (input : List Char) : Option (List Char) :=
  match bytes with
  | 36 => some input
  | 38 => betweenBraces? input
  | 45 => behindName? input
  | _ => none

/-- The id that a text stands for: digits alone, or groups, which may have a name or braces. -/
def read (input : String) : Except ChainIdFault ChainId :=
  let bytes := input.utf8ByteSize
  if bytes = 32 then readDigits input.toList
  else
    match groupsIn? bytes input.toList with
    | some groups => readGroups groups
    | none =>
      .error (if bytes > 45 then .badLength bytes else (misfitOf bytes input.toList).fault)

end ChainId

end PromptRelay
