/-
**How the digits of a float are laid out as text.**

One record holds every decision of a format; the formats themselves are values of the record and
stand beside the documents that use them.

* `Layout`: the decisions;
* `Layout.write`: the text of a float;
* `fixedPlaces`: the text with a given number of places, rounded from the exact value, a half going
  to the even neighbour.
-/

import PromptRelay.Decimal.Shortest

namespace PromptRelay.Decimal

/-- The decisions of a float format. -/
structure Layout where
  /-- Which way an exact tie between two shortest candidates goes. -/
  tie : Tie
  /-- The least and greatest decimal exponent written positionally; `none` for all. -/
  positional : Option (Int × Int)
  /-- What follows the digits of a whole number. -/
  wholeEnd : String
  /-- The exponent of a large number carries a plus sign. -/
  exponentPlus : Bool
  undefinedText : String
  infiniteText : String
  deriving Repr

/-- The text of digits. -/
def digitText (digits : List Nat) : String :=
  String.ofList (digits.map fun digit => Char.ofNat ('0'.toNat + digit))

/-- A run of zeros. -/
def zeros (count : Nat) : String :=
  String.ofList (List.replicate count '0')

/-- Digits with the point put where the scale says. -/
def positionalText (wholeEnd : String) (number : Digits) : String :=
  let count := number.digits.length
  if number.scale ≤ 0 then "0." ++ zeros (-number.scale).toNat ++ digitText number.digits
  else
    let whole := number.scale.toNat
    if count ≤ whole then digitText number.digits ++ zeros (whole - count) ++ wholeEnd
    else digitText (number.digits.take whole) ++ "." ++ digitText (number.digits.drop whole)

/-- One digit before the point, the rest after it, and the exponent. -/
def exponentText (layout : Layout) (number : Digits) : String :=
  let exponent := number.scale - 1
  let sign := if exponent < 0 then "-" else if layout.exponentPlus then "+" else ""
  let fraction :=
    if number.digits.length ≤ 1 then "" else "." ++ digitText (number.digits.drop 1)
  digitText (number.digits.take 1) ++ fraction ++ "e" ++ sign ++ toString exponent.natAbs

/-- The exponent is one that the layout writes positionally. -/
def Layout.isPositional (layout : Layout) (exponent : Int) : Bool :=
  match layout.positional with
  | none => true
  | some (least, greatest) => least ≤ exponent && exponent ≤ greatest

/-- The text of a finite float without its sign. -/
def Layout.size (layout : Layout) (value : Binary) : String :=
  if value.significand = 0 then "0" ++ layout.wholeEnd
  else
    let number := shortest layout.tie value
    if layout.isPositional (number.scale - 1) then positionalText layout.wholeEnd number
    else exponentText layout number

/-- The text of a float. -/
def Layout.write (layout : Layout) (value : Float) : String :=
  match FloatValue.ofFloat value with
  | .finite exact => (if exact.negative then "-" else "") ++ layout.size exact
  | .infinite negative => (if negative then "-" else "") ++ layout.infiniteText
  | .undefined => layout.undefinedText

/-- The whole number nearest to a fraction, a half going to the even one. -/
def roundHalfEven (numerator denominator : Nat) : Nat :=
  let floor := numerator / denominator
  let rest := numerator % denominator
  if rest * 2 < denominator then floor
  else if denominator < rest * 2 then floor + 1
  else if floor % 2 = 0 then floor else floor + 1

/-- The text of a float with `places` digits after the point. -/
def fixedPlaces (places : Nat) (value : Float) : String :=
  match FloatValue.ofFloat value with
  | .finite exact =>
    let (numerator, denominator) := exact.fraction
    let units := roundHalfEven (numerator * Nat.pow 10 places) denominator
    let whole := toString (units / Nat.pow 10 places)
    let part := toString (units % Nat.pow 10 places)
    let sign := if exact.negative then "-" else ""
    if places = 0 then sign ++ whole
    else sign ++ whole ++ "." ++ zeros (places - part.length) ++ part
  | .infinite negative => (if negative then "-" else "") ++ "inf"
  | .undefined => "NaN"

/-- Amounts in messages: all digits positional, a whole number without a point. -/
def amount : Layout where
  tie := .up
  positional := none
  wholeEnd := ""
  exponentPlus := false
  undefinedText := "NaN"
  infiniteText := "inf"

/-- The message text of a float. -/
def amountText (value : Float) : String :=
  amount.write value

end PromptRelay.Decimal
