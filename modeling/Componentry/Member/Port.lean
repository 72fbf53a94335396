import Componentry.NameSet
import Componentry.Retention

/-!
# Ports

A port passes samples of one type into or out of a component. A dynamic port is a template for ports
that are made while the component runs; it may leave the type open.
-/

namespace Componentry

/-- The direction in which samples pass a port. -/
inductive Direction where
  | input
  | output
  deriving Repr, DecidableEq

/-- The word for a direction. -/
def Direction.word : Direction → String
  | .input => "input"
  | .output => "output"

/-- A port of a component. -/
structure Port where
  name : String
  doc : Option String := none
  direction : Direction
  typeName : Option String
  isDynamic : Bool := false
  /-- Whether a sample that arrives triggers the component. -/
  isTrigger : Bool := false
  retention : Retention := .onlyIfUnread
  clearOnStart : Bool := true
  deriving Repr, DecidableEq

namespace Port

/-- Whether samples arrive at the port. -/
def isInput (p : Port) : Bool :=
  p.direction = .input

/-- The class of the port in generated code. -/
def frameworkClass (p : Port) : String :=
  if p.isInput then "RTT::InputPort" else "RTT::OutputPort"

/-- A port like this one, with another name. -/
def instantiate (p : Port) (name : String) : Port :=
  { p with name }

/-- The types that the port exposes. -/
def usedTypes (p : Port) : NameSet :=
  .ofList (p.typeName.toList.filter (· ≠ ""))

end Port

end Componentry
