/-
**The exact value of a 64-bit float.**

A finite float is `± significand · 2 ^ exponent` with natural `significand` and integer `exponent`.
Everything that writes a float in decimal starts from this form and computes with natural numbers
alone.

* `Binary.ofBits`: the form read off the sign, exponent and fraction fields of the word;
* `FloatValue.ofFloat`: the same with the infinities and the undefined value set apart.
-/

namespace PromptRelay.Decimal

/-- A finite float as an exact number, `± significand · 2 ^ exponent`. -/
structure Binary where
  negative : Bool
  significand : Nat
  exponent : Int
  /-- The float just below in size lies at half the usual distance: the significand is the least
  one of its exponent, and a smaller exponent exists. -/
  lowEdge : Bool
  deriving DecidableEq, Repr

/-- The kinds of float. -/
inductive FloatValue where
  | finite (value : Binary)
  | infinite (negative : Bool)
  | undefined
  deriving DecidableEq, Repr

/-- Reads the fields of a word whose exponent field is not all ones. -/
def Binary.ofBits (bits : Nat) : Binary :=
  let fraction : Nat := bits % Nat.pow 2 52
  let field : Nat := bits / Nat.pow 2 52 % Nat.pow 2 11
  { negative := bits / Nat.pow 2 63 % 2 = 1
    significand := if field = 0 then fraction else Nat.pow 2 52 + fraction
    exponent := if field = 0 then -1074 else (field : Int) - 1075
    lowEdge := fraction = 0 && 1 < field }

/-- Reads any word. -/
def FloatValue.ofBits (bits : Nat) : FloatValue :=
  if bits / Nat.pow 2 52 % Nat.pow 2 11 = 2047 then
    if bits % Nat.pow 2 52 = 0 then .infinite (bits / Nat.pow 2 63 % 2 = 1) else .undefined
  else .finite (.ofBits bits)

/-- The kind and exact value of a float. -/
def FloatValue.ofFloat (value : Float) : FloatValue :=
  .ofBits value.toBits.toNat

/-- The value is neither infinite nor undefined. -/
def FloatValue.isFinite : FloatValue → Bool
  | .finite _ => true
  | _ => false

/-- The exact size of a finite float as a fraction, numerator and denominator. -/
def Binary.fraction (value : Binary) : Nat × Nat :=
  (value.significand * Nat.pow 2 value.exponent.toNat, Nat.pow 2 (-value.exponent).toNat)

end PromptRelay.Decimal
