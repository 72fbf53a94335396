import Componentry.Scope.Components

/-!
# Declarations of components

A component declares its members and the code that is added to its generated classes, until its
project is frozen. The name of a member must differ from the names of all members of the component
and of those it derives from.
-/

namespace Componentry

/-- An operation: that of a name in a component, or one that belongs to no component. -/
inductive OperationRef where
  | owned (component : ComponentId) (name : String)
  | free (index : Nat)
  deriving Repr, DecidableEq

namespace ComponentId

/-- Fails if declarations in the project of a component have ended. -/
def checkMutable (c : ComponentId) : Work Unit := do
  ((← get).interface c).project.checkMutable

/-- The definition of a type, as it is seen from a component. -/
def findType (c : ComponentId) (type : TypeRef) : Work TypeDef := do
  ((← get).interface c).project.findType type

/-- The canonical name of a type that a port, property or attribute may have. -/
def toplevelType (c : ComponentId) (type : TypeRef) : Work String := do
  let t ← c.findType type
  Work.ofExcept t.checkToplevel
  return t.name

/-- Fails if a member of the component or of one it derives from has the name. -/
def checkUnused (c : ComponentId) (name : String) : Work Unit := do
  Work.ofExcept ((← get).lineage.checkUnused c name)

/-- Fails if no member of the name can be declared. -/
def checkDeclarable (c : ComponentId) (name : String) : Work Unit := do
  c.checkMutable
  c.checkUnused name

/-- Adds a port to a component. -/
def addPort (c : ComponentId) (p : Port) : Work Port := do
  c.checkDeclarable p.name
  Work.modifyInterface c fun i => { i with ports := i.ports ++ [p] }
  return p

/-- Declares an input port. -/
def declareInput (c : ComponentId) (name : String) (type : TypeRef) (doc : Option String)
    (clearOnStart : Bool) :
    Work Port := do
  let typeName ← c.toplevelType type
  c.addPort { name, doc, direction := .input, typeName := some typeName, clearOnStart }

/-- Declares an output port. What it keeps is given by the word of a retention policy. -/
def declareOutput (c : ComponentId) (name : String) (type : TypeRef) (doc : Option String)
    (keep : Scalar) :
    Work Port := do
  let typeName ← c.toplevelType type
  let retention ← Work.ofExcept (Retention.ofScalar keep)
  c.addPort { name, doc, direction := .output, typeName := some typeName, retention }

/-- Declares that ports may be made while the component runs. Their type may be left open. -/
def declareDynamic (c : ComponentId) (direction : Direction) (name : String) (type : Option TypeRef)
    (doc : Option String) : Work Port := do
  c.checkDeclarable name
  let typeName ←
    match type with
    | some type => some <$> c.toplevelType type
    | none => pure none
  let p : Port := { name, doc, direction, typeName, isDynamic := true }
  Work.modifyInterface c fun i => { i with dynamicPorts := i.dynamicPorts ++ [p] }
  return p

/-- Makes an input port of a component trigger the component. -/
def triggerBy (c : ComponentId) (name : String) : Work Unit := do
  let i := (← get).interface c
  if i.ports.any fun p => p.name == name && p.isInput then
    Work.modifyInterface c fun i =>
      { i with
        ports := i.ports.map fun p => if p.name == name then { p with isTrigger := true } else p }
  else throw (.noInputPort i.name name)

/-- Makes input ports of a component trigger it: those of the given names, or all if no name is
given. -/
def portDriven (c : ComponentId) (names : List String) : Work Unit := do
  c.checkMutable
  let all := (((← get).interface c).ports.filter (·.isInput)).map (·.name)
  (if names.isEmpty then all else names).forM c.triggerBy

/-- Declares a property. -/
def declareProperty (c : ComponentId) (name : String) (type : TypeRef) (default : Scalar)
    (doc : Option String) :
    Work Setting := do
  c.checkDeclarable name
  let s : Setting := { name, doc, typeName := ← c.toplevelType type, default }
  Work.modifyInterface c fun i => { i with properties := i.properties ++ [s] }
  return s

/-- Declares an attribute. -/
def declareAttribute (c : ComponentId) (name : String) (type : TypeRef) (default : Scalar)
    (doc : Option String) :
    Work Setting := do
  c.checkDeclarable name
  let s : Setting := { name, doc, typeName := ← c.toplevelType type, default }
  Work.modifyInterface c fun i => { i with attributes := i.attributes ++ [s] }
  return s

/-- Declares an operation. -/
def addOperation (c : ComponentId) (o : Operation) : Work OperationRef := do
  c.checkDeclarable o.name
  Work.modifyInterface c fun i => { i with operations := i.operations ++ [o] }
  return .owned c o.name

/-- Declares an operation that the user class implements. -/
def declareOperation (c : ComponentId) (name : String)
    (doc methodName : Option String) : Work OperationRef :=
  c.addOperation (.new name doc methodName)

/-- Declares an operation that the generated base class implements. -/
def declareHiddenOperation (c : ComponentId) (name : String) (body doc methodName : Option String) :
    Work OperationRef :=
  c.addOperation { Operation.new name doc methodName with body, hidden := true }

/-- Declares that the initial state of the component cannot be chosen. -/
def fixInitialState (c : ComponentId) : Work Unit := do
  c.checkMutable
  Work.modifyInterface c ({ · with fixesInitialState := true })

/-- Declares that the component must be configured before it can start. -/
def needConfiguration (c : ComponentId) : Work Unit := do
  c.checkMutable
  Work.modifyInterface c ({ · with needsConfiguration := true })

/-- Adds a statement for a hook. -/
def addHookCode (c : ComponentId) (hook : String) (code : Code) : Work Unit := do
  c.checkMutable
  let hook ← Work.ofExcept (Hook.ofName hook)
  Work.modifyCode c fun a => { a with hooks := a.hooks ++ [⟨hook, code⟩] }

/-- Adds code to the generated header. -/
def addHeaderCode (c : ComponentId) (snippet : Snippet) : Work Unit := do
  c.checkMutable
  Work.modifyCode c fun a => { a with header := a.header ++ [snippet] }

/-- Adds code to the generated source file. -/
def addImplementationCode (c : ComponentId) (snippet : Snippet) : Work Unit := do
  c.checkMutable
  Work.modifyCode c fun a => { a with implementation := a.implementation ++ [snippet] }

/-- Adds a generation handler. -/
def addHandler (c : ComponentId) (handler : Handler) : Work Unit := do
  c.checkMutable
  Work.modifyCode c fun a => { a with handlers := a.handlers ++ [handler] }

/-- Adds an extension, whose name no other extension of the component has. -/
def addExtension (c : ComponentId) (extension : ComponentExtension) : Work Unit := do
  c.checkMutable
  let component := (← get).component c
  if component.code.extensions.any (·.name == extension.name) then
    throw (.extensionTaken component.interface.name extension.name)
  Work.modifyCode c fun a => { a with extensions := a.extensions ++ [extension] }

/-- The template of a smart pointer, and the header that defines it. -/
def pointerTemplate : Pointer → String × String
  | .shared => (OpaqueRule.sharedPointer, "boost/shared_ptr.hpp")
  | .readOnly => (OpaqueRule.readOnlyPointer, "rtt/extras/ReadOnlyPointer.hpp")

/-- The name of the type of smart pointers to a type. If it is not defined, it is declared as an
opaque type that is marshalled as what it points to. -/
def pointerType (c : ComponentId) (pointer : Pointer) (type : TypeRef) : Work String := do
  let (template, header) := pointerTemplate pointer
  let target ← c.findType type
  let name := s!"{template}<{target.name}>"
  tryCatch (do return (← c.findType (.named name)).name) fun fault => do
    match fault with
    | .typeNotFound _ =>
      let _ ← ((← get).interface c).project.declareOpaque name target.name [header] false
      return (← c.findType (.named name)).name
    | _ => throw fault

end ComponentId

namespace OperationRef

/-- The operation that is referred to. -/
def find (s : Store) : OperationRef → Operation
  | .owned c name => ((s.interface c).operations.find? (·.name == name)).getD (.new name none none)
  | .free index => s.freeOperations[index]?.getD (.new "" none none)

/-- Makes an operation that belongs to no component. -/
def newFree (o : Operation) : Work OperationRef := fun s =>
  .ok (.free s.freeOperations.length) { s with freeOperations := s.freeOperations ++ [o] }

/-- Changes the operation that is referred to. -/
def update (r : OperationRef) (f : Operation → Operation) : Work Unit :=
  match r with
  | .owned c name =>
    Work.modifyInterface c fun i =>
      { i with
        operations := i.operations.map fun o =>
          if o.name == name then { f o with name := o.name } else o }
  | .free index => modify fun s => { s with freeOperations := s.freeOperations.modify index f }

/-- The name of a type as an operation keeps it: if the operation belongs to a component, the type
must be found there. -/
def resolveType (r : OperationRef) (type : String) : Work String := do
  match r with
  | .owned c _ => return (← c.findType (.named type)).name
  | .free _ => return type

/-- Adds an argument. -/
def addArgument (r : OperationRef) (name type : String) (doc : Option String) : Work Unit := do
  let typeName ← r.resolveType type
  r.update (·.withArgument ⟨name, typeName, doc⟩)

/-- Sets the type of the result; none stands for no result. -/
def setReturn (r : OperationRef) (type : Option String) : Work Unit := do
  let returnType ←
    match type with
    | some type => some <$> r.resolveType type
    | none => pure none
  r.update ({ · with returnType })

/-- Makes the operation run in the thread of its caller. -/
def runInCallerThread (r : OperationRef) : Work Unit :=
  r.update ({ · with runsInCallerThread := true })

/-- Sets whether the operation is hidden. -/
def setHidden (r : OperationRef) (hidden : Bool) : Work Unit :=
  r.update ({ · with hidden })

/-- Sets the body of the operation. -/
def setBody (r : OperationRef) (body : Option String) : Work Unit :=
  r.update ({ · with body })

end OperationRef

end Componentry
