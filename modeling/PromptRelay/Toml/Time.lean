/-
**Dates and times of TOML.**

A date, a time of day, or both with a zone or without. They are kept as texts in one form: a `T`
between date and time, a capital `Z` or a signed zone, and at most nine digits of the second without
zeros at their end.

* `takeTime?`: the form of a date or time;
* `markTime`, `unmarkTimes?`: dates and times as tables with one marked text, and as texts.
-/

import PromptRelay.Json.Value
import PromptRelay.Time.Timestamp

namespace PromptRelay.Toml

open Decimal Timestamp

/-- A number of so many digits. -/
def takeFixed? (width : Nat) (text : List Char) : Option (Nat × List Char) :=
  let digits := (text.take width).takeWhile Char.isDigit
  if digits.length = width then some (valueOfDigits digits, text.drop width) else none

/-- A number of two digits inside its bounds. -/
def takePair? (least greatest : Nat) (text : List Char) : Option (Nat × List Char) := do
  let (number, rest) ← takeFixed? 2 text
  if least ≤ number && number ≤ greatest then some (number, rest) else none

/-- The rest of a text after a mark. -/
def dropMark? (mark : Char) : List Char → Option (List Char)
  | first :: rest => if first = mark then some rest else none
  | [] => none

/-- A date. -/
def takeDate? (text : List Char) : Option (String × List Char) := do
  let (year, rest) ← takeFixed? 4 text
  let (month, rest) ← takePair? 1 12 (← dropMark? '-' rest)
  let (day, rest) ← takePair? 1 31 (← dropMark? '-' rest)
  if day ≤ monthLength year month then
    some (padded 4 year ++ "-" ++ padded 2 month ++ "-" ++ padded 2 day, rest)
  else none

/-- The part of a second behind a point, or nothing. -/
def takeSecondPart? : List Char → Option (String × List Char)
  | '.' :: rest =>
    let digits := rest.takeWhile Char.isDigit
    let shown := ((digits.take 9).reverse.dropWhile (· = '0')).reverse
    if digits.isEmpty then none
    else some (if shown.isEmpty then "" else String.ofList ('.' :: shown), rest.drop digits.length)
  | text => some ("", text)

/-- A time of day. -/
def takeClock? (text : List Char) : Option (String × List Char) := do
  let (hour, rest) ← takePair? 0 23 text
  let (minute, rest) ← takePair? 0 59 (← dropMark? ':' rest)
  let (second, rest) ← takePair? 0 60 (← dropMark? ':' rest)
  let (part, rest) ← takeSecondPart? rest
  some (padded 2 hour ++ ":" ++ padded 2 minute ++ ":" ++ padded 2 second ++ part, rest)

/-- A zone with a sign, after the sign. -/
def takeShift? (ahead : Bool) (text : List Char) : Option (String × List Char) := do
  let (hours, rest) ← takePair? 0 23 text
  let (minutes, rest) ← takePair? 0 59 (← dropMark? ':' rest)
  let sign := if ahead || (hours = 0 && minutes = 0) then "+" else "-"
  some (sign ++ padded 2 hours ++ ":" ++ padded 2 minutes, rest)

/-- A zone. -/
def takeZone? : List Char → Option (String × List Char)
  | 'Z' :: rest | 'z' :: rest => some ("Z", rest)
  | '+' :: rest => takeShift? true rest
  | '-' :: rest => takeShift? false rest
  | _ => none

/-- The time of day that follows a date, with its zone, or nothing. -/
def takeRestOfDate (text : List Char) : String × List Char :=
  match text with
  | mark :: after =>
    if mark = 'T' || mark = 't' || mark = ' ' then
      match takeClock? after with
      | none => ("", text)
      | some (clock, rest) =>
        let (zone, rest) := (takeZone? rest).getD ("", rest)
        ("T" ++ clock ++ zone, rest)
    else ("", text)
  | [] => ("", [])

/-- A date or time. -/
def takeTime? (text : List Char) : Option (String × List Char) :=
  match takeDate? text with
  | none => takeClock? text
  | some (date, rest) =>
    let (more, rest) := takeRestOfDate rest
    some (date ++ more, rest)

/-- The key that marks a table as a date or time. -/
def timeKey : String := "$__toml_private_datetime"

/-- A date or time as a table. -/
def markTime (time : String) : Json :=
  .object [(timeKey, .text time)]

/-- The date or time that a text is as a whole. -/
def wholeTime? (text : String) : Option String :=
  match takeTime? text.toList with
  | some (time, []) => some time
  | _ => none

mutual

/-- The value with its dates and times as texts. A table whose first key marks it is one, whatever
else it holds. -/
def unmarkTimes? : Json → Option Json
  | .object fields =>
    match fields with
    | [] => some (.object [])
    | field :: fields =>
      if field.1 = timeKey then
        match field.2 with
        | .text spelled => (wholeTime? spelled).map .text
        | _ => none
      else do
        let field ← unmarkField? field
        let fields ← unmarkFields? fields
        return .object (field :: fields)
  | .list items => (unmarkItems? items).map .list
  | other => some other

/-- The field with its dates and times as texts. -/
def unmarkField? : String × Json → Option (String × Json)
  | (key, value) => (unmarkTimes? value).map (key, ·)

/-- The fields with their dates and times as texts. -/
def unmarkFields? : List (String × Json) → Option (List (String × Json))
  | [] => some []
  | field :: fields => do
    let field ← unmarkField? field
    let fields ← unmarkFields? fields
    return field :: fields

/-- The items with their dates and times as texts. -/
def unmarkItems? : List Json → Option (List Json)
  | [] => some []
  | item :: items => do
    let item ← unmarkTimes? item
    let items ← unmarkItems? items
    return item :: items

end

end PromptRelay.Toml
