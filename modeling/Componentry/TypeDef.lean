import Componentry.Fault
import Componentry.Typename

/-!
# Type definitions

A definition gives the structure of one type: its kind, and what the kind calls for. Definitions
refer to each other by name only; a registry resolves the names.
-/

namespace Componentry

/-- What sort of type a definition describes. -/
inductive TypeKind where
  | numeric
  | null
  | enumeration
  | compound
  | array
  | container
  | opaqueType
  deriving Repr, DecidableEq

/-- The word for a kind. -/
def TypeKind.word : TypeKind → String
  | .numeric => "numeric"
  | .null => "null"
  | .enumeration => "enum"
  | .compound => "compound"
  | .array => "array"
  | .container => "container"
  | .opaqueType => "opaque"

/-- Every kind. -/
def TypeKind.all : List TypeKind :=
  [.numeric, .null, .enumeration, .compound, .array, .container, .opaqueType]

/-- The kind that a word names. -/
def TypeKind.ofWord (word : String) : Except Fault TypeKind :=
  match TypeKind.all.find? (·.word = word) with
  | some kind => .ok kind
  | none => .error (.unknownTypeKind word)

/-- A named field of a compound type. -/
structure TypeField where
  name : String
  typeName : String
  deriving Repr, DecidableEq

/-- The definition of a type. -/
structure TypeDef where
  name : String
  kind : TypeKind
  category : Option String := none
  size : Option Int := none
  elementType : Option String := none
  dimension : Option Int := none
  containerKind : Option String := none
  fields : List TypeField := []
  values : List String := []
  deriving Repr, DecidableEq

namespace TypeDef

/-- Whether the type is a number. -/
def isNumeric (t : TypeDef) : Bool :=
  t.kind = .numeric

/-- Whether the type has no known structure. -/
def isOpaque (t : TypeDef) : Bool :=
  t.kind = .opaqueType

/-- The spelling of the type in generated code. -/
def cxxName (t : TypeDef) : String :=
  Typename.cxxName t.name

/-- The names of the types that the definition refers to. -/
def dependencies (t : TypeDef) : List String :=
  if t.kind = .compound then t.fields.map (·.typeName) else t.elementType.toList

/-- The numeric types that the framework transports without a typekit. -/
def nativeNames : List String :=
  ["/bool", "/char", "/int", "/unsigned int", "/int32_t", "/uint32_t", "/float", "/double"]

/-- Whether the framework transports the type without a typekit. -/
def isNative (t : TypeDef) : Bool :=
  t.name ∈ nativeNames

/-- Ports, properties and attributes have neither an array type, which may stand only inside a
structure, nor a numeric type that the framework does not transport. -/
def checkToplevel (t : TypeDef) : Except Fault Unit :=
  if t.kind = .array then .error (.toplevelArray t.name)
  else if t.kind = .numeric && !t.isNative then .error (.toplevelNumeric t.name)
  else .ok ()

end TypeDef

end Componentry
