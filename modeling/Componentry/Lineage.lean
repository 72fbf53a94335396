import Componentry.Member.Basic

/-!
# Components and their ancestors

A component derives from at most one other component, which was declared before it; so the chain of
its ancestors ends. A lineage holds the interfaces of all components in the order of their
declaration.
-/

namespace Componentry

/-- The number of a project, by the order in which projects are made. -/
structure ProjectId where
  index : Nat
  deriving Repr, DecidableEq

/-- The number of a component, by the order in which components are declared. -/
structure ComponentId where
  index : Nat
  deriving Repr, DecidableEq

/-- The class from which every component derives in the end. -/
def frameworkClass : String := "RTT::TaskContext"

/-- The header of that class. -/
def frameworkHeader : String := "rtt/TaskContext.hpp"

/-- What a component declares of itself. -/
structure Interface where
  /-- The name with that of its project in front, separated by two colons. -/
  name : String
  project : ProjectId
  superclass : Option ComponentId := none
  /-- Whether the component belongs to an imported library. -/
  isExternal : Bool := false
  doc : Option String := none
  ports : List Port := []
  dynamicPorts : List Port := []
  properties : List Setting := []
  attributes : List Setting := []
  operations : List Operation := []
  /-- Whether the component itself is declared to have a fixed initial state. -/
  fixesInitialState : Bool := false
  /-- Whether the component itself is declared to need configuration. -/
  needsConfiguration : Bool := false

namespace Interface

instance : Inhabited Interface := ⟨{ name := "", project := ⟨0⟩ }⟩

/-- The text before the first two colons. -/
def beforeColons : List Char → List Char
  | ':' :: ':' :: _ => []
  | c :: rest => c :: beforeColons rest
  | [] => []

/-- Whether two colons stand in a row. -/
def hasColons : List Char → Bool
  | ':' :: ':' :: _ => true
  | _ :: rest => hasColons rest
  | [] => false

/-- The part of a qualified name after the last two colons. -/
def basenameOf (name : String) : String :=
  String.ofList (beforeColons name.toList.reverse).reverse

/-- The name of the component without that of its project. -/
def basename (c : Interface) : String :=
  basenameOf c.name

/-- The name of the library that defines the component. -/
def library (c : Interface) : String :=
  String.ofList (beforeColons c.name.toList)

/-- The path by which generated code includes the class of the component. -/
def header (c : Interface) : String :=
  Text.lower c.library ++ "/" ++ c.basename ++ ".hpp"

/-- The members that the component itself declares, in the order in which their code is
generated. -/
def members (c : Interface) : List Member :=
  c.operations.map .operation ++ c.properties.map .property ++ c.attributes.map .attribute ++
    c.ports.map .port ++ c.dynamicPorts.map .port

end Interface

/-- The interfaces of components, in the order of their declaration. -/
structure Lineage where
  interfaces : List Interface
  /-- A component derives from one that was declared before it. -/
  ordered : ∀ (i : Nat) (c : Interface) (s : ComponentId),
    interfaces[i]? = some c → c.superclass = some s → s.index < i

namespace Lineage

/-- The lineage without components. -/
def empty : Lineage := ⟨[], by simp⟩

/-- The interface of a component. -/
def interface? (l : Lineage) (id : ComponentId) : Option Interface :=
  l.interfaces[id.index]?

/-- The interface of a component. -/
def interface (l : Lineage) (id : ComponentId) : Interface :=
  (l.interface? id).getD default

/-- The component that a component derives from. -/
def superclass? (l : Lineage) (id : ComponentId) : Option ComponentId :=
  (l.interface? id).bind (·.superclass)

/-- A superclass was declared before its component. -/
theorem superclass?_lt {l : Lineage} {id s : ComponentId} (h : l.superclass? id = some s) :
    s.index < id.index := by
  obtain ⟨c, hc, hs⟩ := Option.bind_eq_some_iff.1 h
  exact l.ordered _ c s hc hs

/-- The components that a component derives from, nearest first. -/
def ancestors (l : Lineage) (id : ComponentId) : List ComponentId :=
  match h : l.superclass? id with
  | some s =>
    have := superclass?_lt h
    s :: l.ancestors s
  | none => []
termination_by id.index

/-- The component and those it derives from, farthest first. -/
def chain (l : Lineage) (id : ComponentId) : List ComponentId :=
  (l.ancestors id).reverse ++ [id]

/-- The interfaces of the component and of those it derives from, farthest first. -/
def chainInterfaces (l : Lineage) (id : ComponentId) : List Interface :=
  (l.chain id).map l.interface

/-- The members of the component and of those it derives from, the farthest first. -/
def allMembers (l : Lineage) (id : ComponentId) : List Member :=
  (l.chainInterfaces id).flatMap (·.members)

/-- The ports of the component and of those it derives from. -/
def allPorts (l : Lineage) (id : ComponentId) : List Port :=
  (l.chainInterfaces id).flatMap (·.ports)

/-- The templates for ports of the component and of those it derives from. -/
def allDynamicPorts (l : Lineage) (id : ComponentId) : List Port :=
  (l.chainInterfaces id).flatMap (·.dynamicPorts)

/-- The properties of the component and of those it derives from. -/
def allProperties (l : Lineage) (id : ComponentId) : List Setting :=
  (l.chainInterfaces id).flatMap (·.properties)

/-- The attributes of the component and of those it derives from. -/
def allAttributes (l : Lineage) (id : ComponentId) : List Setting :=
  (l.chainInterfaces id).flatMap (·.attributes)

/-- The operations of the component and of those it derives from. -/
def allOperations (l : Lineage) (id : ComponentId) : List Operation :=
  (l.chainInterfaces id).flatMap (·.operations)

/-- Whether the component is, or derives from, the component of a name. -/
def implements (l : Lineage) (id : ComponentId) (name : String) : Bool :=
  name == frameworkClass || (l.interface id).name == name ||
    (l.ancestors id).any fun a => (l.interface a).name == name

/-- Whether the component or one it derives from must be configured before it can start. -/
def isConfigurationRequired (l : Lineage) (id : ComponentId) : Bool :=
  (l.chainInterfaces id).any (·.needsConfiguration)

/-- Whether the initial state of the component cannot be chosen: it is fixed, or preset as the
component must be configured, by the component itself or by one it derives from. -/
def isFixedInitialState (l : Lineage) (id : ComponentId) : Bool :=
  (l.chainInterfaces id).any fun c => c.fixesInitialState || c.needsConfiguration

/-- The class that the component derives from in generated code. -/
def superclassName (l : Lineage) (id : ComponentId) : String :=
  match l.superclass? id with
  | some s => (l.interface s).name
  | none => frameworkClass

/-- The header of that class. -/
def superclassHeader (l : Lineage) (id : ComponentId) : String :=
  match l.superclass? id with
  | some s => (l.interface s).header
  | none => frameworkHeader

/-- Fails if a member of the component or of one it derives from has the name. The component is
searched first, then its ancestors, the nearest first. -/
def checkUnused (l : Lineage) (id : ComponentId) (name : String) : Except Fault Unit :=
  match (id :: l.ancestors id).find? fun c => (l.interface c).members.any (·.name == name) with
  | some c => .error (.memberTaken name (l.interface c).name)
  | none => .ok ()

/-- The port of a name. -/
def findPort (l : Lineage) (id : ComponentId) (name : String) : Except Fault Port :=
  match (l.allPorts id).find? (·.name == name) with
  | some p => .ok p
  | none => .error (.noPort (l.interface id).name name)

/-- The component, or the one it derives from, that declares the operation of a name. -/
def findOperation (l : Lineage) (id : ComponentId) (name : String) : Except Fault ComponentId :=
  match (l.chain id).find? fun c => (l.interface c).operations.any (·.name == name) with
  | some c => .ok c
  | none => .error (.noOperation (l.interface id).name name)

end Lineage

end Componentry
