import Componentry.Fault
import Componentry.Decimal.Layout

/-!
# Scalars

The values that a property or attribute may have by default, and their spelling as literals in
generated code.
-/

namespace Componentry

/-- A default value. Lists cannot be written as literals. -/
inductive Scalar where
  | null
  | bool (value : Bool)
  | int (value : Int)
  | float (value : Float)
  | text (value : String)
  | list (items : List Scalar)

namespace Scalar

/-- Whether two values are the same. No number is the same as no number, though they do not compare
equal. -/
def same : Scalar → Scalar → Bool
  | .null, .null => true
  | .bool a, .bool b => a == b
  | .int m, .int n => m == n
  | .float x, .float y => x == y || x.isNaN && y.isNaN
  | .text s, .text t => s == t
  | .list as, .list bs => sameItems as bs
  | _, _ => false
where
  /-- Whether the items of two lists are the same. -/
  sameItems : List Scalar → List Scalar → Bool
    | [], [] => true
    | a :: as, b :: bs => a.same b && sameItems as bs
    | _, _ => false

/-- Values are compared by whether they are the same. -/
instance : BEq Scalar := ⟨same⟩

/-- A value as messages show it. -/
def shown : Scalar → String
  | .null => "None"
  | .bool true => "True"
  | .bool false => "False"
  | .int n => toString n
  | .float x => Decimal.Layout.standard.float x
  | .text s => Text.quoted s
  | .list items => "[" ++ Text.joined ", " (shownItems items) ++ "]"
where
  /-- The items of a list as messages show them. -/
  shownItems : List Scalar → List String
    | [] => []
    | item :: rest => item.shown :: shownItems rest

/-- A character between the quotes of a literal: quotes and backslashes are escaped. -/
def escape (c : Char) : List Char :=
  if c = '\x5c' then ['\x5c', '\x5c']
  else if c = '\x22' then ['\x5c', '\x22']
  else [c]

/-- A text as a string literal. -/
def textLiteral (s : String) : String :=
  String.ofList ('\x22' :: s.toList.flatMap escape ++ ['\x22'])

/-- The literal that denotes a value. -/
def literal : Scalar → Except Fault String
  | .bool true => .ok "true"
  | .bool false => .ok "false"
  | .int n => .ok (toString n)
  | .float x => .ok (Decimal.Layout.standard.float x)
  | .text s => .ok (textLiteral s)
  | value => .error (.noLiteral value.shown)

end Scalar

end Componentry
