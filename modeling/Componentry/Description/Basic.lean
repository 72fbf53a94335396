import Componentry.Retention
import Componentry.Scalar

/-!
# Project descriptions

A project description names a project, says where the types of its typekit are described, which
typekits and component libraries it uses, and which components it declares. This is the description
as it is written, before any name in it is resolved.
-/

namespace Componentry.Description

/-- The marshalling rule of an opaque type. -/
structure Marshalling where
  type : String
  marshalAs : String
  headers : List String := []
  needsCopy : Bool := true
  deriving BEq

/-- The typekit that a project builds: the paths of its descriptor and its typelist, and further
marshalling rules. -/
structure Typekit where
  registry : Option String := none
  typelist : Option String := none
  opaques : List Marshalling := []
  deriving BEq

/-- A property or attribute. The null value stands for no default. -/
structure Setting where
  name : String
  type : String
  default : Scalar := .null
  doc : Option String := none
  deriving BEq

/-- An input port. -/
structure InputPort where
  name : String
  type : String
  doc : Option String := none
  pointer : Option Pointer := none
  clearOnStart : Bool := true
  deriving BEq

/-- An output port. -/
structure OutputPort where
  name : String
  type : String
  doc : Option String := none
  pointer : Option Pointer := none
  retention : Retention := .onlyIfUnread
  deriving BEq

/-- A template for ports that are made while a component runs. -/
structure DynamicPort where
  name : String
  type : Option String := none
  doc : Option String := none
  deriving BEq

/-- An argument of an operation. -/
structure Argument where
  name : String
  type : String
  doc : Option String := none
  deriving BEq

/-- An operation. -/
structure Operation where
  name : String
  doc : Option String := none
  methodName : Option String := none
  returns : Option String := none
  arguments : List Argument := []
  callerThread : Bool := false
  hidden : Bool := false
  body : Option String := none
  deriving BEq

/-- The input ports that trigger a component: none or all of them, or those that are named. -/
inductive Triggers where
  | all (driven : Bool)
  | named (ports : List String)
  deriving BEq

/-- A component. -/
structure Component where
  name : String
  subclasses : Option String := none
  doc : Option String := none
  fixedInitialState : Bool := false
  needsConfiguration : Bool := false
  portDriven : Triggers := .all false
  properties : List Setting := []
  attributes : List Setting := []
  inputPorts : List InputPort := []
  outputPorts : List OutputPort := []
  dynamicInputPorts : List DynamicPort := []
  dynamicOutputPorts : List DynamicPort := []
  operations : List Operation := []
  /-- The statements for each hook that is given. -/
  hooks : List (String × List String) := []
  methods : List String := []
  commands : List String := []
  deriving BEq

/-- A project. -/
structure Project where
  name : String
  typekit : Option Typekit := none
  usedTypekits : List String := []
  usedLibraries : List String := []
  components : List Component := []
  deriving BEq

end Componentry.Description
