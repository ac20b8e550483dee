/-
**Floats as whole numbers.**

* `wholeOf`: the natural number nearest to a float, a half going up, inside bounds that cut what
  lies outside them.
-/

import PromptRelay.Decimal.Binary

namespace PromptRelay.Decimal

/-- The whole number nearest to a fraction, a half going up. -/
def roundHalfUp (numerator denominator : Nat) : Nat :=
  (2 * numerator + denominator) / (2 * denominator)

/-- The natural number nearest to a float: zero for what is below zero or undefined, the greatest
one for what is above it. -/
def wholeOf (greatest : Nat) (value : Float) : Nat :=
  match FloatValue.ofFloat value with
  | .finite exact =>
    if exact.negative then 0
    else min greatest (roundHalfUp exact.fraction.1 exact.fraction.2)
  | .infinite negative => if negative then 0 else greatest
  | .undefined => 0

end PromptRelay.Decimal
