import Componentry.Generation.Collection

/-!
# The parts of generated classes

The pieces of text of which the generated base class and the skeleton of the user class are made.
-/

namespace Componentry

namespace Generation

/-- The parts of a generated base class. -/
structure BaseClass where
  includes : List String
  declarations : List String
  initializers : List String
  /-- The code of the constructors. -/
  setUp : List String
  /-- The code of the destructor. -/
  tearDown : List String
  /-- The statements for each hook that has any. -/
  hooks : List (Hook × List String)
  methodDeclarations : List String
  methodDefinitions : List String
  headerBefore : List String
  headerAfter : List String
  implementationBefore : List String
  implementationAfter : List String

/-- The parts of a skeleton of a user class. -/
structure UserClass where
  methodDeclarations : List String
  methodDefinitions : List String

/-- The names with more names at the end, each only once. -/
def appendNew (names more : List String) : List String :=
  more.foldl (fun names name => if name ∈ names then names else names ++ [name]) names

/-- The headers that the base class of a component needs: those of its superclass, of the used
libraries that define components it derives from, of the typekits it needs, and of the opaque types
of its interface. -/
def includes (s : Store) (c : ComponentId) : Except Fault (List String) := do
  let lineage := s.lineage
  let p := (s.interface c).project
  let library := (s.requiredLibraries p c).flatMap fun library =>
    ((s.project library).components.filter fun d => lineage.implements c (s.interface d).name).map
      fun d => (s.interface d).header
  let typekits := ((s.requiredTypekits p c).filter fun k => !(s.typekit k).isVirtual).map
    fun k => (s.typekit k).name ++ "/Types.hpp"
  let rules ← s.interfaceRules c
  return appendNew (appendNew [lineage.superclassHeader c] library ++ typekits)
    (rules.flatMap (·.headers))

/-- The texts of pieces of code, without the empty ones. -/
def rendered (l : Lineage) (width : Nat) (codes : List Code) : Except Fault (List String) := do
  let texts ← codes.mapM (·.render l width)
  return texts.filter (· ≠ "")

/-- The parts that the records of construction give: initializers, code of the constructors and code
of the destructor. -/
def constructed (l : Lineage) :
    List ConstructionRecord → Except Fault (List String × List String × List String)
  | [] => .ok ([], [], [])
  | r :: rest => do
    let initializer ← rendered l 0 [r.initializer]
    let setUp ← rendered l 4 [r.setUp]
    let tearDown ← rendered l 4 [r.tearDown]
    let (initializers, setUps, tearDowns) ← constructed l rest
    return (initializer ++ initializers, setUp ++ setUps, tearDown ++ tearDowns)

/-- The statements for each hook that has any: those of the contributions, then the component's
own. -/
def hookStatements (l : Lineage) (contributed : List HookRecord) (own : AddedCode) :
    Except Fault (List (Hook × List String)) := do
  let hooks ← Hook.all.mapM fun hook => do
    let codes := (contributed.filter (·.hook = hook)).map (·.code) ++ own.statements hook
    return (hook, ← rendered l 4 codes)
  return hooks.filter fun (_, statements) => !statements.isEmpty

/-- The declarations and the definitions of methods of a class. -/
def methodTexts (l : Lineage) (className : String) (methods : List MethodRecord) :
    Except Fault (List String × List String) := do
  let definitions ← methods.mapM fun m => m.definition l className
  return (methods.map (·.declaration), definitions.filterMap id)

/-- The texts of snippets, apart those that stand before the class and those that stand after it. -/
def snippetTexts (l : Lineage)
    (snippets : List Snippet) : Except Fault (List String × List String) := do
  let texts ← snippets.mapM fun snippet => do return (snippet.before, ← snippet.code.render l 0)
  let present := texts.filter fun (_, text) => text ≠ ""
  return ((present.filter (·.1)).map (·.2), (present.filter (!·.1)).map (·.2))

/-- The parts of the base class of a component. -/
def baseClass (s : Store) (c : ComponentId) (k : Contribution) : Except Fault BaseClass := do
  let l := s.lineage
  let includes ← includes s c
  let (initializers, setUp, tearDown) ← constructed l k.constructions
  let hooks ← hookStatements l k.hooks (s.component c).code
  let (methodDeclarations, methodDefinitions) ← methodTexts l
    ((s.interface c).basename ++ "Base") k.baseMethods
  let (headerBefore, headerAfter) ← snippetTexts l k.headerCode
  let (implementationBefore, implementationAfter) ← snippetTexts l k.implementationCode
  return {
    includes, declarations := k.declarations.map (·.render), initializers, setUp, tearDown, hooks
    methodDeclarations, methodDefinitions, headerBefore, headerAfter, implementationBefore,
      implementationAfter }

/-- The method of the user class for a method that the base class leaves open. -/
def defaultOverride (m : MethodRecord) : MethodRecord :=
  { returnType := m.returnType, name := m.name, signature := m.signature, inBase := false
    body := some (.text (if m.returnType = "void" then "" else s!"    return {m.returnType}();")) }

/-- The methods of the user class: those contributed, and one for each further method that the base
class leaves open. -/
def userMethods (k : Contribution) : List MethodRecord :=
  let names := k.userMethods.map (·.name)
  let open_ := k.baseMethods.filter fun m => m.body.isNone && m.name ∉ names
  k.userMethods ++ (distinct [] open_).map defaultOverride
where
  /-- The first method of each name. -/
  distinct (seen : List String) : List MethodRecord → List MethodRecord
    | [] => []
    | m :: rest => if m.name ∈ seen then distinct seen rest else m :: distinct (m.name :: seen) rest

/-- The parts of the skeleton of the user class of a component. -/
def userClass (s : Store) (c : ComponentId) (k : Contribution) : Except Fault UserClass := do
  let (methodDeclarations, methodDefinitions) ← methodTexts s.lineage (s.interface c).basename
    (userMethods k)
  return { methodDeclarations, methodDefinitions }

end Generation

end Componentry
