import Componentry.Text.Lines

/-!
# Types of YAML nodes

A node has a type, given by its tag. A plain scalar without a tag has the type whose pattern its
text matches, and is a text if none does.
-/

namespace Componentry.Yaml

/-- The type of a node. -/
inductive Tag where
  | null
  | bool
  | int
  | float
  | binary
  | timestamp
  | orderedMap
  | pairs
  | set
  | text
  | sequence
  | mapping
  /-- The key under which a mapping takes over the entries of others. -/
  | merge
  /-- The key of the value that a mapping stands for where a scalar is needed. -/
  | value
  /-- A type without values. -/
  | other
  deriving Repr, DecidableEq

/-- The start of the names of the types of YAML. -/
def standardNames : List Char := "tag:yaml.org,2002:".toList

/-- The type with the given full name. -/
def Tag.ofName (name : List Char) : Tag :=
  if standardNames.isPrefixOf name then
    match String.ofList (name.drop standardNames.length) with
    | "null" => .null
    | "bool" => .bool
    | "int" => .int
    | "float" => .float
    | "binary" => .binary
    | "timestamp" => .timestamp
    | "omap" => .orderedMap
    | "pairs" => .pairs
    | "set" => .set
    | "str" => .text
    | "seq" => .sequence
    | "map" => .mapping
    | "merge" => .merge
    | "value" => .value
    | _ => .other
  else .other

/-- The words for the truth values, true first. -/
def boolWords : List String × List String :=
  (["yes", "Yes", "YES", "true", "True", "TRUE", "on", "On", "ON"],
   ["no", "No", "NO", "false", "False", "FALSE", "off", "Off", "OFF"])

/-- The words for no value. -/
def nullWords : List String := ["", "~", "null", "Null", "NULL"]

/-- The text without a sign in front. -/
def unsigned : List Char → List Char
  | '-' :: rest => rest
  | '+' :: rest => rest
  | rest => rest

/-- Whether a character is a digit or a low line. -/
def isDigitGap (c : Char) : Bool :=
  c.isDigit || c == '_'

/-- Whether the text is a digit followed by digits and low lines. -/
def isDigits : List Char → Bool
  | [] => false
  | c :: rest => c.isDigit && rest.all isDigitGap

/-- Whether the text is one of the numbers 0 to 59 in one or two digits. -/
def isSixtieth : List Char → Bool
  | [c] => c.isDigit
  | [a, b] => '0' ≤ a && a ≤ '5' && b.isDigit
  | _ => false

/-- Whether the text is empty or an exponent with its sign. -/
def isExponent : List Char → Bool
  | [] => true
  | e :: sign :: digits =>
    (e == 'e' || e == 'E') && (sign == '+' || sign == '-') && !digits.isEmpty &&
      digits.all Char.isDigit
  | _ => false

/-- Whether the text has the form of an integer: in base 2, 8, 10, 16 or 60. -/
def isIntText (cs : List Char) : Bool :=
  match unsigned cs with
  | ['0'] => true
  | '0' :: 'b' :: rest => !rest.isEmpty && rest.all fun c => c == '0' || c == '1' || c == '_'
  | '0' :: 'x' :: rest =>
    !rest.isEmpty && rest.all fun c => isDigitGap c || ('a' ≤ c && c ≤ 'f') || ('A' ≤ c && c ≤ 'F')
  | '0' :: rest => rest.all fun c => ('0' ≤ c && c ≤ '7') || c == '_'
  | body =>
    isDigits body ||
      match Text.splitAt ':' body with
      | whole :: parts => isDigits whole && !parts.isEmpty && parts.all isSixtieth
      | [] => false

/-- Whether the text has the form of a floating point number: with a point, or one of the words for
the infinities and for no number. -/
def isFloatText (cs : List Char) : Bool :=
  let body := unsigned cs
  let fraction (rest : List Char) : Bool := isExponent (rest.dropWhile isDigitGap)
  String.ofList body ∈ [".inf", ".Inf", ".INF"] ||
  String.ofList cs ∈ [".nan", ".NaN", ".NAN"] ||
  match body.dropWhile (· != '.') with
  | '.' :: rest =>
    let whole := body.takeWhile (· != '.')
    if whole.isEmpty then
      cs.head? == some '.' && (rest.head?.map Char.isDigit).getD false && fraction rest
    else if isDigits whole then fraction rest
    else
      match Text.splitAt ':' whole with
      | first :: parts =>
        isDigits first && !parts.isEmpty && parts.all isSixtieth && rest.all isDigitGap
      | [] => false
  | _ => false

/-- A point in time as it is written, with the digits of its parts. -/
structure Stamp where
  year : List Char
  month : List Char
  day : List Char
  time : Option (List Char × List Char × List Char × List Char)
  /-- The sign, the hours and the minutes of the offset from universal time. -/
  zone : Option (Bool × List Char × List Char)

/-- Between `least` and `most` digits, as many as there are, and what follows. -/
def someDigits? (least most : Nat) (cs : List Char) : Option (List Char × List Char) :=
  let digits := (cs.take most).takeWhile Char.isDigit
  if digits.length < least then none else some (digits, cs.drop digits.length)

/-- The text after a character. -/
def after? (c : Char) : List Char → Option (List Char)
  | d :: rest => if c = d then some rest else none
  | [] => none

/-- The offset from universal time at the end of a point in time. -/
def zone? (cs : List Char) : Option (Option (Bool × List Char × List Char)) :=
  match cs with
  | [] => some none
  | _ =>
    match cs.dropWhile fun c => c == ' ' || c == '\t' with
    | ['Z'] => some (some (false, ['0'], []))
    | sign :: rest =>
      if sign == '+' || sign == '-' then do
        let (hours, rest) ← someDigits? 1 2 rest
        match rest with
        | [] => some (some (sign == '-', hours, []))
        | _ => do
          let (minutes, rest) ← someDigits? 2 2 (← after? ':' rest)
          if rest.isEmpty then some (some (sign == '-', hours, minutes)) else none
      else none
    | [] => none

/-- The point in time that a text has the form of. -/
def Stamp.ofChars? (cs : List Char) : Option Stamp := do
  let (year, rest) ← someDigits? 4 4 cs
  let (month, rest) ← someDigits? 1 2 (← after? '-' rest)
  let (day, rest) ← someDigits? 1 2 (← after? '-' rest)
  match rest with
  | [] => return ⟨year, month, day, none, none⟩
  | c :: rest =>
    let rest ←
      if c == 'T' || c == 't' then some rest
      else if c == ' ' || c == '\t' then some (rest.dropWhile fun c => c == ' ' || c == '\t')
      else none
    let (hour, rest) ← someDigits? 1 2 rest
    let (minute, rest) ← someDigits? 2 2 (← after? ':' rest)
    let (second, rest) ← someDigits? 2 2 (← after? ':' rest)
    let (fraction, rest) :=
      match rest with
      | '.' :: rest => (rest.takeWhile Char.isDigit, rest.dropWhile Char.isDigit)
      | _ => ([], rest)
    return ⟨year, month, day, some (hour, minute, second, fraction), ← zone? rest⟩

/-- Whether a plain scalar is a point in time: a date of eight digits, or a date and a time. -/
def isTimestampText (cs : List Char) : Bool :=
  match Stamp.ofChars? cs with
  | some t => t.time.isSome || (t.month.length == 2 && t.day.length == 2)
  | none => false

/-- The type of a plain scalar. A line break at the very end of its text does not count. -/
def Tag.ofPlain (cs : List Char) : Tag :=
  let cs := if cs.getLast? = some '\n' then cs.dropLast else cs
  let text := String.ofList cs
  if text ∈ boolWords.1 || text ∈ boolWords.2 then .bool
  else if isFloatText cs then .float
  else if isIntText cs then .int
  else if text = "<<" then .merge
  else if text ∈ nullWords then .null
  else if isTimestampText cs then .timestamp
  else if text = "=" then .value
  else if text ∈ ["!", "&", "*"] then .other
  else .text

end Componentry.Yaml
