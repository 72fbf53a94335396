import Componentry.Decimal.Shortest

/-!
# The text of a floating point number

A layout decides which numbers are written positionally and how an exponent looks. Generated code
and project files use one layout: positional from one ten-thousandth up to sixteen digits before the
point, always with a fractional part, and otherwise a signed exponent of two digits or more.
-/

namespace Componentry.Decimal

/-- How a number is written. -/
structure Layout where
  /-- The least number of places between the point and the first digit that is written
  positionally. -/
  leastPlaces : Int
  /-- The largest number of digits before the point that is written positionally. -/
  mostPlaces : Int
  exponentMark : String
  /-- The least number of digits of an exponent. -/
  exponentWidth : Nat
  infinity : String
  notANumber : String

/-- The layout of numbers in generated code and in messages. -/
def Layout.standard : Layout := ⟨-3, 16, "e", 2, "inf", "nan"⟩

/-- The digits of a number, at least `width` of them. -/
def padded (width n : Nat) : List Char :=
  let ds := Nat.toDigits 10 n
  List.replicate (width - ds.length) '0' ++ ds

/-- The text of a decimal given by its digits. -/
def Layout.point (layout : Layout) (p : Point) : List Char :=
  let ds := Nat.toDigits 10 p.digits
  let significant := (ds.reverse.dropWhile (· == '0')).reverse
  let significant := if significant.isEmpty then ['0'] else significant
  let places : Int := if p.digits = 0 then 1 else ds.length + p.exponent
  if layout.leastPlaces ≤ places && places ≤ layout.mostPlaces then
    if places ≤ 0 then '0' :: '.' :: List.replicate (-places).toNat '0' ++ significant
    else
      let whole := significant.take places.toNat
      let fraction := significant.drop places.toNat
      whole ++ List.replicate (places.toNat - whole.length) '0' ++ '.' ::
        (if fraction.isEmpty then ['0'] else fraction)
  else
    let power := places - 1
    significant.take 1 ++ (if significant.length > 1 then '.' :: significant.drop 1 else []) ++
      layout.exponentMark.toList ++ (if power < 0 then '-' else '+') ::
        padded layout.exponentWidth power.natAbs

/-- The text of a floating point number. -/
def Layout.float (layout : Layout) (x : Float) : String :=
  let negative := x.toBits.toNat ≥ Nat.pow 2 63
  if x.isNaN then layout.notANumber
  else
    let magnitude :=
      if x.isInf then layout.infinity else String.ofList (layout.point (Binary.ofFloat x).shortest)
    if negative then "-" ++ magnitude else magnitude

end Componentry.Decimal
