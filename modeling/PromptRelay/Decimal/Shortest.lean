/-
**The fewest decimal digits that read back as the same float.**

Every real number strictly between the midpoints to the two neighbouring floats reads back as the
float, and the midpoints themselves do when the significand is even. For one digit, two digits and
so on, the two points of that decimal grid around the value are tried in exact arithmetic; the first
grid with a point in the interval gives the digits, of two such points the nearer one.

* `Interval.around`: the interval of one float;
* `Digits`: digits with a scale, `0.d₁d₂… · 10 ^ scale`;
* `shortest`: the digits of one float.
-/

import PromptRelay.Decimal.Binary

namespace PromptRelay.Decimal

/-- Which way a value goes that lies exactly between two points of a grid. -/
inductive Tie where
  | up
  | toEven
  deriving DecidableEq, Repr

/-- The real numbers that read back as one float, over a common denominator. -/
structure Interval where
  low : Nat
  value : Nat
  high : Nat
  denominator : Nat
  closed : Bool
  deriving DecidableEq, Repr

/-- A quarter of the distance to the next float is the unit, so that every bound is whole. -/
def Interval.around (value : Binary) : Interval :=
  let scaled := 4 * value.significand
  let unit := Nat.pow 2 (value.exponent - 2).toNat
  { low := (if value.lowEdge then scaled - 1 else scaled - 2) * unit
    value := scaled * unit
    high := (scaled + 2) * unit
    denominator := Nat.pow 2 (2 - value.exponent).toNat
    closed := value.significand % 2 = 0 }

/-- The fraction `numerator / denominator` reads back as the float. -/
def Interval.holds (interval : Interval) (numerator denominator : Nat) : Bool :=
  let point := numerator * interval.denominator
  let low := interval.low * denominator
  let high := interval.high * denominator
  if interval.closed then low ≤ point && point ≤ high else low < point && point < high

/-- Decimal digits without a leading zero, and the number of them that stand before the point
(negative when zeros follow the point first). -/
structure Digits where
  digits : List Nat
  scale : Int
  deriving DecidableEq, Repr

/-- The digits of a natural number, most significant first; none for zero. -/
def digitsOf (number : Nat) : List Nat :=
  if number = 0 then [] else ((Nat.toDigits 10 number).map fun digit => digit.toNat - '0'.toNat)

/-- Zeros at the end carry nothing. -/
def dropTrailingZeros (digits : List Nat) : List Nat :=
  (digits.reverse.dropWhile (· == 0)).reverse

/-- The number of zeros between the point and the first digit of a fraction below one, of which at
most `fuel` are counted. -/
def leadingZeros (denominator : Nat) : Nat → Nat → Nat
  | 0, _ => 0
  | fuel + 1, numerator =>
    if denominator ≤ numerator * 10 then 0
    else leadingZeros denominator fuel (numerator * 10) + 1

/-- The number of digits before the point, or less zero the number of zeros that follow it. No float
has more than 323 such zeros. -/
def scaleOf (numerator denominator : Nat) : Int :=
  let whole := numerator / denominator
  if 0 < whole then (Nat.toDigits 10 whole).length
  else Int.negOfNat (leadingZeros denominator 400 numerator)

/-- The two points around the value on the grid with `count` digits, as whole multiples of
`10 ^ (scale - count)`, with the fraction that one unit stands for. -/
def gridAround (interval : Interval) (scale : Int) (count : Nat) : Nat × Nat × Nat :=
  let power := scale - count
  let up := Nat.pow 10 power.toNat
  let down := Nat.pow 10 (-power).toNat
  (interval.value * down / (interval.denominator * up), up, down)

/-- The point of the grid with `count` digits that is taken, if one reads back. -/
def gridPoint? (tie : Tie) (interval : Interval) (scale : Int) (count : Nat) : Option Nat :=
  let (floor, up, down) := gridAround interval scale count
  let exact := interval.value * down
  let step := interval.denominator * up
  let floorHolds := interval.holds (floor * up) down
  let ceilHolds := interval.holds ((floor + 1) * up) down
  let rest := exact - floor * step
  match floorHolds, ceilHolds with
  | true, true =>
    if rest * 2 < step then some floor
    else if step < rest * 2 then some (floor + 1)
    else match tie with
      | .up => some (floor + 1)
      | .toEven => some (if floor % 2 = 0 then floor else floor + 1)
  | true, false => some floor
  | false, true => some (floor + 1)
  | false, false => none

/-- Tries `count` digits, then one more, and so on, `fuel` times at most. -/
def searchGrids (tie : Tie) (interval : Interval) (scale : Int) : Nat → Nat → Digits
  | 0, _ => ⟨[], 0⟩
  | fuel + 1, count =>
    match gridPoint? tie interval scale count with
    | some point =>
      let digits := digitsOf point
      ⟨dropTrailingZeros digits, scale + (digits.length - count : Int)⟩
    | none => searchGrids tie interval scale fuel (count + 1)

/-- The digits of a nonzero finite float. Seventeen digits always suffice. -/
def shortest (tie : Tie) (value : Binary) : Digits :=
  let interval := Interval.around value
  searchGrids tie interval (scaleOf interval.value interval.denominator) 17 1

end PromptRelay.Decimal
