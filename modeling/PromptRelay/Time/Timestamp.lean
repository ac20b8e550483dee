/-
**Points in time.**

A point in time is a number of seconds since the start of 1970 and a part of a second. A minute may
have a sixty-first second; it is held as the fifty-ninth with a whole second more in its part.

* `Timestamp.text`: year, month, day and time of day in the zero zone, with as many of three, six or
  nine digits of the second as are needed;
* `Timestamp.read`: the same form and looser ones, in any zone.
-/

import PromptRelay.Decimal.Layout
import PromptRelay.Decimal.Reading
import PromptRelay.Text.Blank

namespace PromptRelay

/-- Seconds since the start of 1970, and nanoseconds of the second. -/
structure Timestamp where
  seconds : Int
  nanoseconds : Nat
  deriving DecidableEq, Repr, Inhabited

/-- Why a text is no point in time. -/
inductive TimestampFault where
  | tooShort
  | tooLong
  | malformed
  | outOfRange
  /-- In the zero zone the date would be one that there is none of. -/
  | impossible
  deriving DecidableEq, Repr

/-- The wording of a fault. -/
def TimestampFault.message : TimestampFault → String
  | .tooShort => "premature end of input"
  | .tooLong => "trailing input"
  | .malformed => "input contains invalid characters"
  | .outOfRange => "input is out of range"
  | .impossible => "no possible date and time matching input"

namespace Timestamp

/-- The number of nanoseconds of a second. -/
def secondLength : Nat := 1000000000

/-- The point in time some milliseconds later. -/
def addMilliseconds (time : Timestamp) (milliseconds : Nat) : Timestamp :=
  let nanoseconds := time.nanoseconds + milliseconds % 1000 * 1000000
  ⟨time.seconds + milliseconds / 1000 + nanoseconds / secondLength, nanoseconds % secondLength⟩

/-- The number of days from the start of 1970 to a date. Years are counted from March, so that the
leap day ends one. -/
def daysTo (year : Int) (month day : Nat) : Int :=
  let shifted : Int := if month ≤ 2 then year - 1 else year
  let era := shifted.fdiv 400
  let yearOfEra := shifted - era * 400
  let monthFromMarch : Int := (month + 9) % 12
  let dayOfYear := (153 * monthFromMarch + 2) / 5 + day - 1
  let dayOfEra := yearOfEra * 365 + yearOfEra / 4 - yearOfEra / 100 + dayOfYear
  era * 146097 + dayOfEra - 719468

/-- The date a number of days after the start of 1970: year, month and day. -/
def dateAfter (days : Int) : Int × Nat × Nat :=
  let shifted := days + 719468
  let era := shifted.fdiv 146097
  let dayOfEra := shifted - era * 146097
  let yearOfEra := (dayOfEra - dayOfEra / 1460 + dayOfEra / 36524 - dayOfEra / 146096) / 365
  let dayOfYear := dayOfEra - (365 * yearOfEra + yearOfEra / 4 - yearOfEra / 100)
  let monthFromMarch := (5 * dayOfYear + 2) / 153
  let day := dayOfYear - (153 * monthFromMarch + 2) / 5 + 1
  let month := if monthFromMarch < 10 then monthFromMarch + 3 else monthFromMarch - 9
  let year := yearOfEra + era * 400
  (if month ≤ 2 then year + 1 else year, month.toNat, day.toNat)

/-- The year has a leap day. -/
def isLeapYear (year : Int) : Bool :=
  year % 4 = 0 && (year % 100 ≠ 0 || year % 400 = 0)

/-- The number of days of a month. -/
def monthLength (year : Int) (month : Nat) : Nat :=
  if month = 2 then if isLeapYear year then 29 else 28
  else if month = 4 || month = 6 || month = 9 || month = 11 then 30 else 31

/-- A number with zeros before it up to a width. -/
def padded (width number : Nat) : String :=
  let digits := toString number
  Decimal.zeros (width - digits.length) ++ digits

/-- A year of four digits, or with its sign where four do not do. -/
def yearText (year : Int) : String :=
  if 0 ≤ year && year ≤ 9999 then padded 4 year.toNat
  else (if year < 0 then "-" else "+") ++ padded 4 year.natAbs

/-- The part of a second: nothing, or three, six or nine digits. -/
def partText (nanoseconds : Nat) : String :=
  if nanoseconds = 0 then ""
  else if nanoseconds % 1000000 = 0 then "." ++ padded 3 (nanoseconds / 1000000)
  else if nanoseconds % 1000 = 0 then "." ++ padded 6 (nanoseconds / 1000)
  else "." ++ padded 9 nanoseconds

/-- The point in time in the zero zone. -/
def text (time : Timestamp) : String :=
  let days := time.seconds.fdiv 86400
  let ofDay := (time.seconds - days * 86400).toNat
  let (year, month, day) := dateAfter days
  let second := ofDay % 60 + time.nanoseconds / secondLength
  yearText year ++ "-" ++ padded 2 month ++ "-" ++ padded 2 day ++ "T" ++
    padded 2 (ofDay / 3600) ++ ":" ++ padded 2 (ofDay / 60 % 60) ++ ":" ++ padded 2 second ++
    partText (time.nanoseconds % secondLength) ++ "Z"

section Reading

open Decimal

/-- The text without the blanks it starts with. -/
def skipSpace (input : List Char) : List Char :=
  input.dropWhile Text.isBlankChar

/-- A number of one up to `width` digits. -/
def takeNumber (width : Nat) (input : List Char) : Except TimestampFault (Nat × List Char) :=
  let digits := (input.take width).takeWhile Char.isDigit
  if digits.isEmpty then
    .error (if input.isEmpty then .tooShort else .malformed)
  else .ok (valueOfDigits digits, input.drop digits.length)

/-- A year: four digits at most without a sign, any number of them with one, as long as it is a
signed word of 32 bits. -/
def takeYear (input : List Char) : Except TimestampFault (Int × List Char) := do
  let (year, after) ← match skipSpace input with
    | '-' :: rest => (takeNumber rest.length rest).map fun (size, after) => (-(size : Int), after)
    | '+' :: rest => (takeNumber rest.length rest).map fun (size, after) => ((size : Int), after)
    | rest => (takeNumber 4 rest).map fun (size, after) => ((size : Int), after)
  if year < -Int.pow 2 31 || Int.pow 2 31 ≤ year then .error .outOfRange else .ok (year, after)

/-- A separator with blanks before it. -/
def takeMark (mark : Char) (input : List Char) : Except TimestampFault (Unit × List Char) :=
  match skipSpace input with
  | [] => .error .tooShort
  | first :: rest => if first = mark then .ok ((), rest) else .error .malformed

/-- A number of two digits at most with blanks before it, inside its bounds. -/
def takeBounded (least greatest : Nat) (input : List Char) :
    Except TimestampFault (Nat × List Char) := do
  let (number, rest) ← takeNumber 2 (skipSpace input)
  if number < least || greatest < number then .error .outOfRange else .ok (number, rest)

/-- The part of a second behind a point, nine digits of which count. -/
def takePart (input : List Char) : Except TimestampFault (Nat × List Char) :=
  match input with
  | '.' :: rest => do
    let (_, _) ← takeNumber 1 rest
    let digits := rest.takeWhile Char.isDigit
    let counted := digits.take 9
    .ok (valueOfDigits counted * Nat.pow 10 (9 - counted.length), rest.drop digits.length)
  | _ => .ok (0, input)

/-- Two digits. -/
def takePair : List Char → Except TimestampFault (Nat × List Char)
  | first :: second :: rest =>
    if first.isDigit && second.isDigit then .ok (valueOfDigits [first, second], rest)
    else .error .malformed
  | rest => .error (if rest.all fun single => single.utf8Size = 1 then .tooShort else .malformed)

/-- A zone as seconds ahead of the zero zone. -/
def takeZone (input : List Char) : Except TimestampFault (Int × List Char) :=
  let signed (ahead : Bool) (rest : List Char) : Except TimestampFault (Int × List Char) := do
    let (hours, rest) ← takePair rest
    let rest := rest.dropWhile fun mark => mark = ':' || Text.isBlankChar mark
    let (minutes, rest) ← takePair rest
    if 59 < minutes then .error .outOfRange
    else
      let size : Int := hours * 3600 + minutes * 60
      .ok (if ahead then size else -size, rest)
  match input with
  | [] => .error .tooShort
  | 'Z' :: rest | 'z' :: rest => .ok (0, rest)
  | '+' :: rest => signed true rest
  | '-' :: rest | '\u2212' :: rest => signed false rest
  | first :: second :: third :: rest =>
    if [first, second, third].map Char.toUpper = ['U', 'T', 'C'] then .ok (0, rest)
    else .error .malformed
  | _ => .error .malformed

/-- The least and the greatest year that dates may have. -/
def years : Int × Int := (-262143, 262142)

/-- The point in time lies in one of the years that dates may have. -/
def isPossible (time : Timestamp) : Bool :=
  daysTo years.1 1 1 * 86400 ≤ time.seconds && time.seconds < daysTo (years.2 + 1) 1 1 * 86400

/-- The point in time that a text stands for. -/
def read (input : String) : Except TimestampFault Timestamp := do
  let (year, rest) ← takeYear input.toList
  let ((), rest) ← takeMark '-' rest
  let (month, rest) ← takeBounded 1 12 rest
  let ((), rest) ← takeMark '-' rest
  let (day, rest) ← takeBounded 1 31 rest
  let rest ← match rest with
    | [] => .error .tooShort
    | mark :: rest =>
      if mark = 'T' || mark = 't' || mark = ' ' then .ok rest else .error .malformed
  let (hour, rest) ← takeBounded 0 23 rest
  let ((), rest) ← takeMark ':' rest
  let (minute, rest) ← takeBounded 0 59 rest
  let ((), rest) ← takeMark ':' rest
  let (second, rest) ← takeBounded 0 60 rest
  let (part, rest) ← takePart rest
  let (zone, rest) ← takeZone (skipSpace rest)
  if !(skipSpace rest).isEmpty then .error .tooLong
  else if monthLength year month < day || 86400 ≤ zone.natAbs || year < years.1 ||
      years.2 < year then
    .error .outOfRange
  else
    let ofDay : Int := hour * 3600 + minute * 60 + min second 59
    let time : Timestamp := {
      seconds := daysTo year month day * 86400 + ofDay - zone
      nanoseconds := part + if second = 60 then secondLength else 0 }
    if time.isPossible then .ok time else .error .impossible

end Reading

end Timestamp

end PromptRelay
