/-
**Decimal text to float.**

Two readings of `digits · 10 ^ exponent` are in use: the exact one, rounded once, and the stepwise
one, which turns a word of digits into a float first and then multiplies or divides by a power of
ten, each step rounded on its own.

* `nearest`: the exact reading;
* `stepwise?`: the stepwise reading, `none` past the largest float;
* `readFloat?`: the general text of a float: sign, digits, point, exponent, or a named value.
-/

namespace PromptRelay.Decimal

/-- The exponents beyond which a value is zero or infinite whatever its digits are. -/
def exponentReach : Nat := 400

/-- The float nearest to `digits · 10 ^ exponent`. -/
def nearest (digits : Nat) (exponent : Int) : Float :=
  if digits = 0 then 0.0
  else
    let leading := exponent + (Nat.toDigits 10 digits).length
    if (exponentReach : Int) < leading then 1.0 / 0.0
    else if leading < -(exponentReach : Int) then 0.0
    else if 0 ≤ exponent then Float.ofScientific (digits * Nat.pow 10 exponent.toNat) false 0
    else Float.ofScientific digits true exponent.natAbs

/-- The float nearest to a power of ten. -/
def powerOfTen (exponent : Nat) : Float :=
  Float.ofScientific 1 false exponent

/-- Divides by `10 ^ size` in steps of at most `10 ^ 308`. A few steps leave zero. -/
def divideByPower : Nat → Float → Nat → Float
  | 0, value, _ => value
  | fuel + 1, value, size =>
    if size ≤ 308 then value / powerOfTen size
    else if value == 0.0 then value
    else divideByPower fuel (value / powerOfTen 308) (size - 308)

/-- The digits as a float, then multiplied or divided by a power of ten. -/
def stepwise? (digits : Nat) (exponent : Int) : Option Float :=
  let start := Float.ofNat digits
  if 0 ≤ exponent then
    if exponent ≤ 308 then
      let scaled := start * powerOfTen exponent.toNat
      if scaled.isInf then none else some scaled
    else if digits = 0 then some start else none
  else some (divideByPower 4 start exponent.natAbs)

/-- The digits at the start of a text and what follows them. -/
def spanDigits (text : List Char) : List Char × List Char :=
  text.span Char.isDigit

/-- The number that digits spell. -/
def valueOfDigits (digits : List Char) : Nat :=
  digits.foldl (fun value digit => value * 10 + (digit.toNat - '0'.toNat)) 0

/-- A sign at the start of a text: whether it is a minus, and the rest. -/
def takeSign : List Char → Bool × List Char
  | '-' :: rest => (true, rest)
  | '+' :: rest => (false, rest)
  | text => (false, text)

/-- An exponent with an optional sign; the whole text has to be used up. -/
def readExponent? (text : List Char) : Option Int :=
  let (negative, rest) := takeSign text
  let (digits, after) := spanDigits rest
  if digits.isEmpty || !after.isEmpty then none
  else
    let size := min (valueOfDigits digits) (Nat.pow 10 9)
    some (if negative then -(size : Int) else size)

/-- Digits with an optional point and exponent, at least one digit around the point. -/
def readMagnitude? (text : List Char) : Option Float :=
  let (whole, afterWhole) := spanDigits text
  let (part, rest) := match afterWhole with
    | '.' :: after => spanDigits after
    | _ => ([], afterWhole)
  if whole.isEmpty && part.isEmpty then none
  else
    let digits := valueOfDigits (whole ++ part)
    match rest with
    | [] => some (nearest digits (-(part.length : Int)))
    | mark :: after =>
      if mark = 'e' || mark = 'E' then
        (readExponent? after).map fun exponent => nearest digits (exponent - part.length)
      else none

/-- The text of a float: an optional sign, then digits or one of the names for the infinities and
the undefined value, in any case of letters. -/
def readFloat? (text : String) : Option Float :=
  let (negative, rest) := takeSign text.toList
  let size :=
    match String.ofList (rest.map Char.toLower) with
    | "inf" | "infinity" => some (1.0 / 0.0)
    | "nan" => some (0.0 / 0.0)
    | _ => readMagnitude? rest
  size.map fun value => if negative then -value else value

end PromptRelay.Decimal
