import Componentry.Decimal.Shortest

/-!
# Integers among the floating point numbers
-/

namespace Componentry.Decimal

/-- The magnitude, if it is an integer. -/
def Binary.integer? (x : Binary) : Option Nat :=
  if 0 ≤ x.exponent then some (x.significand * Nat.pow 2 x.exponent.toNat)
  else if x.significand % Nat.pow 2 (-x.exponent).toNat = 0 then
    some (x.significand / Nat.pow 2 (-x.exponent).toNat)
  else none

/-- The integer that a floating point number is equal to. -/
def integer? (x : Float) : Option Int :=
  if x.isNaN || x.isInf then none
  else (Binary.ofFloat x).integer?.map fun n => if x < 0 then -(n : Int) else n

end Componentry.Decimal
