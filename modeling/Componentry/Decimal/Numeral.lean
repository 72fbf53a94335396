import Componentry.Text.Blank
import Componentry.Text.Digit

/-!
# Numerals

Reading of written numbers. Blanks around a numeral are ignored, digits of every script count, and
single low lines may stand between digits.
-/

namespace Componentry.Decimal

open Componentry.Text

/-- The value of a digit in bases up to sixteen. -/
def baseDigit? (base : Nat) (c : Char) : Option Nat :=
  let value? :=
    match digitValue? c with
    | some v => some v
    | none =>
      if 'a' ≤ c && c ≤ 'f' then some (c.toNat - 'a'.toNat + 10)
      else if 'A' ≤ c && c ≤ 'F' then some (c.toNat - 'A'.toNat + 10)
      else none
  value?.filter (· < base)

/-- The value of digits that may be separated by single low lines; `gap` says whether a low line may
come next, and `value` is what was read so far. -/
def readDigits (base : Nat) (gap : Bool) (value : Nat) : List Char → Option Nat
  | [] => if gap then some value else none
  | c :: rest =>
    if c = '_' then if gap then readDigits base false value rest else none
    else
      match baseDigit? base c with
      | some d => readDigits base true (value * base + d) rest
      | none => none

/-- A sign and what follows it. -/
def splitSign : List Char → Bool × List Char
  | '-' :: rest => (true, rest)
  | '+' :: rest => (false, rest)
  | rest => (false, rest)

/-- The letter that marks the base after a leading zero. -/
def baseMark (base : Nat) (c : Char) : Bool :=
  match base with
  | 2 => c == 'b' || c == 'B'
  | 8 => c == 'o' || c == 'O'
  | 16 => c == 'x' || c == 'X'
  | _ => false

/-- The integer that a text denotes in a base. A base other than ten may be marked once more in
front of the digits, and a low line may follow the mark. -/
def readInt? (base : Nat) (cs : List Char) : Option Int :=
  let (negative, body) := splitSign (trim cs)
  let magnitude? :=
    match body with
    | '0' :: mark :: rest =>
      if baseMark base mark then
        match rest with
        | '_' :: digits => readDigits base false 0 digits
        | digits => readDigits base false 0 digits
      else readDigits base false 0 body
    | _ => readDigits base false 0 body
  magnitude?.map fun n => if negative then -(n : Int) else n

/-- Whether low lines stand only between digits; `digit` says whether a digit was just read. -/
def gapsBetweenDigits (digit : Bool) : List Char → Bool
  | [] => true
  | '_' :: c :: rest => digit && isDigit c && gapsBetweenDigits true rest
  | ['_'] => false
  | c :: rest => gapsBetweenDigits (isDigit c) rest

/-- The digits at the start of a text, as values, and the rest. -/
def takeDigits : List Char → List Nat × List Char
  | [] => ([], [])
  | c :: rest =>
    match digitValue? c with
    | some d => let (ds, after) := takeDigits rest; (d :: ds, after)
    | none => ([], c :: rest)

/-- The number with the given decimal digits. -/
def ofDigits (ds : List Nat) : Nat :=
  ds.foldl (fun n d => n * 10 + d) 0

/-- The floating point number nearest to `n * 10 ^ e`. An exponent that only a zero or an infinity
can have is cut off. -/
def scientific (n : Nat) (e : Int) : Float :=
  if n = 0 then 0.0
  else
    let size : Int := (Nat.toDigits 10 n).length + e
    if size > 400 then 1.0 / 0.0
    else if size < -400 then 0.0
    else if e < 0 then Float.ofScientific n true e.natAbs
    else Float.ofScientific n false e.natAbs

/-- The exponent of a numeral, nothing standing for zero. -/
def readExponent? : List Char → Option Int
  | [] => some 0
  | mark :: rest =>
    if mark = 'e' || mark = 'E' then
      let (negative, body) := splitSign rest
      match takeDigits body with
      | ([], _) => none
      | (ds, []) => some (if negative then -(ofDigits ds : Int) else ofDigits ds)
      | _ => none
    else none

/-- The magnitude that unsigned text denotes. -/
def readMagnitude? (cs : List Char) : Option Float :=
  let word := String.ofList (cs.map Char.toLower)
  if word = "inf" || word = "infinity" then some (1.0 / 0.0)
  else if word = "nan" then some (0.0 / 0.0)
  else
    let (whole, rest) := takeDigits cs
    let (fraction, rest) :=
      match rest with
      | '.' :: r => takeDigits r
      | r => ([], r)
    if whole.isEmpty && fraction.isEmpty then none
    else (readExponent? rest).map fun e =>
      scientific (ofDigits (whole ++ fraction)) (e - fraction.length)

/-- The floating point number that a text denotes. -/
def readFloat? (cs : List Char) : Option Float :=
  let body := trim cs
  if gapsBetweenDigits false body then
    let (negative, unsigned) := splitSign (body.filter (· != '_'))
    (readMagnitude? unsigned).map fun x => if negative then -x else x
  else none

end Componentry.Decimal
