import Componentry.Member.Code
import Componentry.Scope.Declarations
import Componentry.Scope.Dependencies

/-!
# Collecting contributions

The generated classes of a component are made from the contributions of the operations that every
component has, of its members, of its extensions and of its generation handlers, in this order, and
from the code that was added to it. No two records of a kind may have one field name, and no two
methods of a class one name. Each method that only the user class has is declared in the base class,
without body.
-/

namespace Componentry

namespace ComponentId

/-- For each argument of an operation, whether its type, as seen from a component, is a number. -/
def numericArguments (c : ComponentId) (o : Operation) : Work (List Bool) :=
  o.arguments.mapM fun a => do return (← c.findType (.named a.typeName)).isNumeric

/-- What a member contributes to a component. -/
def memberContribution (c : ComponentId) (m : Member) : Work Contribution := do
  match m with
  | .port p => Work.ofExcept p.contribution
  | .property s => Work.ofExcept s.propertyContribution
  | .attribute s => Work.ofExcept s.attributeContribution
  | .operation o =>
    let numeric ← c.numericArguments o
    Work.ofExcept (o.contribution ((← get).interface c) numeric)
  | .plain .. => return .empty

end ComponentId

namespace Generation

/-- The statement that returns the name of a component. -/
def modelNameBody (c : Interface) : String :=
  s!"    return \"{c.name}\";"

/-- The operation that tells the name of a component. -/
def modelName (c : Interface) : Operation :=
  { name := "getModelName", doc := some "returns the model name of this task",
    returnType := some "/std/string"
    runsInCallerThread := true, hidden := true, body := some (modelNameBody c), methodName :=
      "getModelName" }

/-- The operation that tells the thread of a component. -/
def threadId : Operation :=
  { name := "__taskgen_getTID", doc := some "returns the thread ID of this task",
    returnType := some "/int"
    hidden := true, methodName := "__taskgen_getTID"
    body :=
      some "#ifdef HAS_GETTID\n    return syscall(SYS_gettid);\n#else\n    return 0;\n#endif" }

/-- The code that the second of these operations needs. -/
def threadIdInclude : Snippet :=
  ⟨.text "#ifdef HAS_GETTID\n#include <sys/syscall.h>\n#endif", true⟩

/-- What every component contributes: the two operations if it derives from the framework class, and
otherwise a method that tells its own name. -/
def implicitContribution (c : Interface) : Except Fault Contribution :=
  if c.superclass.isSome then
    .ok { baseMethods := [
      { returnType := "std::string", name := "getModelName",
        body := some (.text (modelNameBody c)) }] }
  else do
    let name ← (modelName c).contribution c []
    let thread ← threadId.contribution c []
    return name ++ { implementationCode := [threadIdInclude] } ++ thread

/-- The first element whose key is that of an element before it. -/
def firstRepeated? {α : Type} (key : α → String) (seen : List String) : List α → Option α
  | [] => none
  | a :: rest => if key a ∈ seen then some a else firstRepeated? key (key a :: seen) rest

/-- The kind and the field name of a record, as messages show them. -/
def recordKey (record : String × String) : String :=
  s!"{record.1}:{record.2}"

/-- Fails if two records of one sort have one kind and field name, or two methods of a class one
name. -/
def checkDuplicates (c : Interface) (k : Contribution) : Except Fault Unit := do
  let declared := k.declarations.map fun r => (r.kind, r.fieldName)
  let constructed := k.constructions.map fun r => (r.kind, r.fieldName)
  checkRecords declared
  checkRecords constructed
  checkMethods k.baseMethods
  checkMethods k.userMethods
where
  /-- Fails if two records have one kind and field name. -/
  checkRecords (records : List (String × String)) : Except Fault Unit :=
    match firstRepeated? recordKey [] records with
    | some (kind, field) => .error (.recordTaken c.name kind field)
    | none => .ok ()
  /-- Fails if two methods have one name. -/
  checkMethods (methods : List MethodRecord) : Except Fault Unit :=
    match firstRepeated? (·.name) [] methods with
    | some m => .error (.methodTaken c.name m.name)
    | none => .ok ()

/-- The declaration in the base class of a method that the user class has to implement. -/
def pureVirtual (c : Interface) (m : MethodRecord) : MethodRecord :=
  { returnType := m.returnType, name := m.name, signature := m.signature
    doc := ["If the compiler issues an error at this point, it is probably that",
      s!"you forgot to add the corresponding method to the {c.name} class."] }

/-- The contribution with a declaration in the base class for each method that only the user class
has. -/
def withPureVirtuals (c : Interface) (k : Contribution) : Contribution :=
  let baseNames := k.baseMethods.map (·.name)
  let missing := k.userMethods.filter fun m => m.name ∉ baseNames
  { k with baseMethods := k.baseMethods ++ missing.map (pureVirtual c) }

end Generation

/-- All that goes into the generated classes of a component. -/
def ComponentId.collect (c : ComponentId) : Work Contribution := do
  let s ← get
  let component := s.component c
  let implicit ← Work.ofExcept (Generation.implicitContribution component.interface)
  let members ← component.interface.members.mapM c.memberContribution
  let lineage := (← get).lineage
  let extensions ← component.code.extensions.mapM fun e => Work.ofExcept (e.contribute c lineage)
  let handlers ← component.code.handlers.mapM fun h => Work.ofExcept (h c lineage)
  let added : Contribution :=
    { headerCode := component.code.header, implementationCode := component.code.implementation }
  let all := Contribution.concat
    ([implicit] ++ members ++ extensions ++ handlers.map (·.getD .empty) ++ [added])
  Work.ofExcept (Generation.checkDuplicates component.interface all)
  return Generation.withPureVirtuals component.interface all

end Componentry
