/-!
# Ranges of characters

A character class of the Unicode standard is a list of inclusive code point ranges in increasing
order.
-/

namespace Componentry.Text

/-- The code points from `first` to `last`, both included. -/
structure CharRange where
  first : Nat
  last : Nat
  deriving Repr, DecidableEq

/-- Whether the code point lies in the range. -/
def CharRange.contains (r : CharRange) (code : Nat) : Bool :=
  r.first ≤ code && code ≤ r.last

/-- Whether the character lies in one of the ranges. -/
def inRanges (ranges : List CharRange) (c : Char) : Bool :=
  ranges.any (·.contains c.toNat)

end Componentry.Text
