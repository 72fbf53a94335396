import Componentry.Member.Operation
import Componentry.Member.Port
import Componentry.Scalar

/-!
# Members

The members of a component: its ports, properties, attributes and operations.
-/

namespace Componentry

/-- A property, which is read when the component is configured, or an attribute, which can change
while it runs. -/
structure Setting where
  name : String
  doc : Option String := none
  typeName : String
  /-- The default value; the null value stands for none. -/
  default : Scalar := .null

/-- A member of a component. -/
inductive Member where
  | port (port : Port)
  | property (setting : Setting)
  | attribute (setting : Setting)
  | operation (operation : Operation)
  /-- A member that has a name and nothing else. -/
  | plain (name : String) (doc : Option String)

namespace Member

/-- The name of a member. -/
def name : Member → String
  | .port p => p.name
  | .property s | .attribute s => s.name
  | .operation o => o.name
  | .plain name _ => name

/-- The documentation of a member. -/
def doc : Member → Option String
  | .port p => p.doc
  | .property s | .attribute s => s.doc
  | .operation o => o.doc
  | .plain _ doc => doc

/-- The word for the kind of a member. -/
def kind : Member → String
  | .port _ => "port"
  | .property _ => "property"
  | .attribute _ => "attribute"
  | .operation _ => "operation"
  | .plain .. => "member"

/-- The types that a member exposes. -/
def usedTypes : Member → NameSet
  | .port p => p.usedTypes
  | .property s | .attribute s => .ofList [s.typeName]
  | .operation o => o.usedTypes
  | .plain .. => .empty

/-- The name of the data member that stands for a member in generated code. -/
def fieldName (m : Member) : String :=
  "_" ++ m.name

end Member

end Componentry
