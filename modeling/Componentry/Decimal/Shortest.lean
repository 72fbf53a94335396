/-!
# Shortest decimals

A finite binary floating point number is read back from every decimal in an interval around it,
whose ends belong to it when the significand is even. The shortest decimal is the one with the
fewest digits in that interval, and among those the nearest to the number; a tie goes to the even
digit.

The search runs over one grid of decimals after the other, from one digit to seventeen, in exact
arithmetic. If a point of a grid lies in the interval, then so does one of the two around the
number.
-/

namespace Componentry.Decimal

/-- The non-negative number `significand * 2 ^ exponent`, with `narrow` set if the next smaller
number is only half as far away as the next larger one. -/
structure Binary where
  significand : Nat
  exponent : Int
  narrow : Bool
  deriving Repr, DecidableEq

/-- The magnitude of a finite floating point number. -/
def Binary.ofFloat (x : Float) : Binary :=
  let bits : Nat := x.toBits.toNat % Nat.pow 2 63
  let field : Nat := bits / Nat.pow 2 52
  let fraction : Nat := bits % Nat.pow 2 52
  if field = 0 then ⟨fraction, -1074, false⟩
  else ⟨fraction + Nat.pow 2 52, (field : Int) - 1075, fraction == 0 && field > 1⟩

/-- The non-negative number `digits * 10 ^ exponent`. -/
structure Point where
  digits : Nat
  exponent : Int
  deriving Repr, DecidableEq

/-- The number of decimal digits. -/
def digitCount (n : Nat) : Nat :=
  (Nat.toDigits 10 n).length

/-- The exponent of the leading decimal digit of a positive number. -/
def Binary.magnitude (x : Binary) : Int :=
  let numerator := x.significand * Nat.pow 2 x.exponent.toNat
  let denominator := Nat.pow 2 (-x.exponent).toNat
  if denominator ≤ numerator then (digitCount (numerator / denominator) : Int) - 1
  else -(digitCount ((denominator - 1) / numerator) : Int)

/-- The multiple of `10 ^ k` that reads back as the number and is nearest to it, if there is one.
The number, the interval around it and the grid are all brought to one common unit. -/
def Binary.onGrid? (x : Binary) (k : Int) : Option Nat :=
  let quarter := x.exponent - 2
  let unit := Nat.pow 2 quarter.toNat * Nat.pow 10 (-k).toNat
  let step := Nat.pow 10 k.toNat * Nat.pow 2 (-quarter).toNat
  let value := 4 * x.significand * unit
  let low := (4 * x.significand - if x.narrow then 1 else 2) * unit
  let high := (4 * x.significand + 2) * unit
  let inside (y : Nat) : Bool :=
    if x.significand % 2 = 0 then low ≤ y && y ≤ high else low < y && y < high
  let d := value / step
  match inside (d * step), inside ((d + 1) * step) with
  | false, false => none
  | true, false => some d
  | false, true => some (d + 1)
  | true, true =>
    let below := value - d * step
    let above := (d + 1) * step - value
    if below < above || below = above && d % 2 = 0 then some d else some (d + 1)

/-- The first grid with a point that reads back, of those with the given numbers of digits. -/
def Binary.firstGrid (x : Binary) (top : Int) : List Nat → Point
  | [] => ⟨x.significand, 0⟩
  | n :: rest =>
    match x.onGrid? (top - n) with
    | some d => ⟨d, top - n⟩
    | none => x.firstGrid top rest

/-- The shortest decimal that reads back as the number. -/
def Binary.shortest (x : Binary) : Point :=
  if x.significand = 0 then ⟨0, 0⟩ else x.firstGrid x.magnitude (List.range 17)

end Componentry.Decimal
