import Componentry.Code
import Componentry.Hook

/-!
# Contributions

What a member, an extension or a generation handler adds to the generated classes of a component.
-/

namespace Componentry

/-- A data member of the generated base class. -/
structure DeclarationRecord where
  kind : String
  fieldName : String
  type : String
  doc : Option String := none
  deriving Repr, DecidableEq

/-- The declaration of a data member. -/
def DeclarationRecord.render (r : DeclarationRecord) : String :=
  let declaration := s!"{r.type} {r.fieldName};"
  match r.doc with
  | some doc => if doc = "" then declaration else s!"/* {doc} */\n{declaration}"
  | none => declaration

/-- The code that sets up a data member of the base class, and that tears it down. -/
structure ConstructionRecord where
  kind : String
  fieldName : String
  initializer : Code := .absent
  setUp : Code := .absent
  tearDown : Code := .absent

/-- A statement for a hook of the base class. -/
structure HookRecord where
  hook : Hook
  code : Code

/-- A method of the base class or the user class. A method without body is left to be
implemented. -/
structure MethodRecord where
  returnType : String
  name : String
  signature : String := ""
  body : Option Code := none
  doc : List String := []
  /-- Whether the method belongs to the base class. -/
  inBase : Bool := true

namespace MethodRecord

/-- The declaration of a method in a class. -/
def declaration (m : MethodRecord) : String :=
  let head := s!"virtual {m.returnType} {m.name}({m.signature})"
  let documented :=
    if m.doc.isEmpty then head else "/* " ++ Text.joined "\n * " m.doc ++ "\n */\n" ++ head
  documented ++ (if m.body.isNone then " = 0" else "") ++ ";"

/-- The definition of a method of a class, if it has a body. -/
def definition (l : Lineage) (m : MethodRecord)
    (className : String) : Except Fault (Option String) :=
  match m.body with
  | none => .ok none
  | some body =>
    (fun code =>
      some s!"{m.returnType} {className}::{m.name}({m.signature})\n\x7b\n{code}\n\x7d") <$>
      body.render l 0

end MethodRecord

/-- What is added to the generated classes of a component. -/
structure Contribution where
  declarations : List DeclarationRecord := []
  constructions : List ConstructionRecord := []
  hooks : List HookRecord := []
  baseMethods : List MethodRecord := []
  userMethods : List MethodRecord := []
  headerCode : List Snippet := []
  implementationCode : List Snippet := []

namespace Contribution

/-- The contribution that adds nothing. -/
def empty : Contribution := {}

/-- One contribution after another. -/
def append (a b : Contribution) : Contribution where
  declarations := a.declarations ++ b.declarations
  constructions := a.constructions ++ b.constructions
  hooks := a.hooks ++ b.hooks
  baseMethods := a.baseMethods ++ b.baseMethods
  userMethods := a.userMethods ++ b.userMethods
  headerCode := a.headerCode ++ b.headerCode
  implementationCode := a.implementationCode ++ b.implementationCode

/-- Contributions are put one behind the other. -/
instance : Append Contribution := ⟨append⟩

/-- Contributions one after the other. -/
def concat (parts : List Contribution) : Contribution :=
  parts.foldl append empty

/-- The contribution with methods added to the class that each belongs to. -/
def withMethods (c : Contribution) (methods : List MethodRecord) : Contribution :=
  { c with
    baseMethods := c.baseMethods ++ methods.filter (·.inBase)
    userMethods := c.userMethods ++ methods.filter (!·.inBase) }

end Contribution

end Componentry
