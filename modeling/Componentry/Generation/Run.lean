import Componentry.Generation.Page
import Componentry.Generation.Writer
import Componentry.Validation

/-!
# Generation

The files of a component are its base class, which is written anew, and the skeleton of its user
class, which is written once. The files of a typekit are the header of its types, its typelist, and,
if it has marshalling rules, the conversions of its opaque types. The generation of a project ends
its declarations, and generates its typekit and then its components; it stops at the first fault and
leaves what it has written.
-/

namespace Componentry

open Files (Path)

namespace Generation

/-- How the text of a page is made. -/
abbrev Renderer := Page → String

/-- The text of a page, which is noted as rendered. -/
def render (renderer : Renderer) (page : Page) : Work String := do
  modify fun s => { s with rendered := s.rendered ++ [page.name] }
  return renderer page

/-- The files of a component. -/
structure ComponentFiles where
  baseHeader : Path
  baseSource : Path
  userHeader : Path
  userSource : Path
  links : List Path
  warnings : List String

/-- The files of a typekit. -/
structure TypekitFiles where
  typesHeader : Path
  typelist : Path
  links : List Path
  conversions : List Path

/-- The files of a project. -/
structure ProjectFiles where
  typekit : Option TypekitFiles
  components : List ComponentFiles

/-- The warnings about the user files of a project. -/
def ProjectFiles.warnings (f : ProjectFiles) : List String :=
  f.components.flatMap (·.warnings)

/-- What the pages of a component show. -/
def componentView (s : Store) (c : ComponentId) (base : BaseClass)
    (user : UserClass) : ComponentView :=
  let i := s.interface c
  let l := s.lineage
  { projectName := (s.project i.project).name
    name := i.name
    basename := i.basename
    doc := i.doc.getD ""
    superclassName := l.superclassName c
    isDerived := i.superclass.isSome
    isFixedInitialState := l.isFixedInitialState c
    isConfigurationRequired := l.isConfigurationRequired c
    base
    user }

/-- Writes the files of a component. -/
def writeComponent (w : FileWriter) (renderer : Renderer) (c : ComponentId) (v : ComponentView) :
    Work ComponentFiles := do
  let baseHeader ← w.saveAutomatic ["tasks", v.basename ++ "Base.hpp"]
    (← render renderer (.baseHeader v))
  let baseSource ← w.saveAutomatic ["tasks", v.basename ++ "Base.cpp"]
    (← render renderer (.baseSource v))
  let userHeader ← w.saveUser ["tasks", v.basename ++ ".hpp"] (← render renderer (.userHeader v))
  let userSource ← w.saveUser ["tasks", v.basename ++ ".cpp"] (← render renderer (.userSource v))
  let sourceWarnings ← Validation.constructorWarnings c userSource
  let headerWarnings ← Validation.constructorWarnings c userHeader
  let warnings := sourceWarnings ++ headerWarnings
  warnings.forM fun warning => Work.log .warning "taskgen.generation.tasks" warning
  let links ← w.fakeInstall (Text.lower v.projectName) [userHeader, baseHeader]
  return { baseHeader, baseSource, userHeader, userSource, links, warnings }

/-- The writer of the files of a project, if no other is asked for. -/
def defaultWriter (s : Store) (p : ProjectId) : FileWriter :=
  { baseDir := (s.project p).baseDir }

end Generation

/-- Fails if an opaque type that is reachable from the interface of a component has no marshalling
rule. -/
def ComponentId.checkOpaques (c : ComponentId) : Work Unit := do
  discard (Work.ofExcept ((← get).interfaceRules c))

/-- Generates the classes of a component. -/
def ComponentId.generate (c : ComponentId) (writer : Option FileWriter)
    (renderer : Generation.Renderer) :
    Work Generation.ComponentFiles := do
  let i := (← get).interface c
  if i.isExternal then throw (.importedComponent i.name)
  Work.log .info "taskgen.generation.tasks" s!"generating {i.name}"
  c.checkOpaques
  let k ← c.collect
  let s ← get
  let base ← Work.ofExcept (Generation.baseClass s c k)
  let user ← Work.ofExcept (Generation.userClass s c k)
  let w := writer.getD (Generation.defaultWriter s i.project)
  Generation.writeComponent w renderer c (Generation.componentView s c base user)

namespace Generation

/-- What the pages of a typekit show. -/
def typekitView (s : Store) (p : ProjectId) (k : Typekit) : Except Fault TypekitView := do
  let used := ((s.scope p).usedTypekits.map s.typekit).filter (!·.isVirtual)
  let interface ← k.interfaceTypes (s.registry k.registry)
  return {
    name := k.name
    opaqueHeaders := appendNew [] (k.opaques.flatMap (·.headers))
    usedTypekits := used.map (·.name)
    interfaceTypes := interface.map (·.cxxName)
    conversions := k.opaques.map fun rule => {
      type := Typename.cxxName rule.typeName
      intermediate := Typename.cxxName (k.intermediateName (.named rule.typeName))
      needsCopy := rule.needsCopy
      pointerTemplate := rule.pointerTemplate? }
    conversionHeaders := (used.filter fun u => u.hasOpaques (s.registry u.registry)).map fun u =>
      u.name ++ "/OpaqueConvertions.hpp" }

/-- Writes the conversions of the opaque types of a typekit, if it has marshalling rules. -/
def writeConversions (w : FileWriter) (renderer : Renderer)
    (v : TypekitView) : Work (List Path) := do
  if v.conversions.isEmpty then return []
  let header ← w.saveAutomatic ["typekit", "OpaqueConvertions.hpp"]
    (← render renderer (.conversionsHeader v))
  let source ← w.saveAutomatic ["typekit", "OpaqueConvertions.cpp"]
    (← render renderer (.conversionsSource v))
  return [header, source]

/-- Writes the files of a typekit. -/
def writeTypekit (w : FileWriter) (renderer : Renderer) (k : Typekit)
    (v : TypekitView) : Work TypekitFiles := do
  let typesHeader ← w.saveAutomatic ["typekit", "Types.hpp"] (← render renderer (.types v))
  let typelistText ← Work.ofExcept k.types.serialize
  let typelist ← w.saveAutomatic ["typekit", k.name ++ ".typelist"] typelistText
  let conversions ← writeConversions w renderer v
  let links ← w.fakeInstall (Text.lower k.name) (typesHeader :: conversions.take 1)
  return { typesHeader, typelist, links, conversions }

end Generation

/-- Generates the typekit of a project; there is nothing to do if it has none. -/
def ProjectId.generateTypekit (p : ProjectId) (writer : Option FileWriter)
    (renderer : Generation.Renderer) :
    Work (Option Generation.TypekitFiles) := do
  let project := (← get).project p
  if project.isImported then throw (.importedTypekit project.name)
  match ← p.typekit with
  | none => return none
  | some id =>
    let s ← get
    let k := s.typekit id
    Work.log .info "taskgen.generation.typekit" s!"generating typekit {k.name}"
    let v ← Work.ofExcept (Generation.typekitView s p k)
    let w := writer.getD (Generation.defaultWriter s p)
    some <$> Generation.writeTypekit w renderer k v

/-- Generates the typekit and the components of a project. -/
def ProjectId.generate (p : ProjectId) (area : String) (links : Bool)
    (renderer : Generation.Renderer) :
    Work Generation.ProjectFiles := do
  p.freeze
  let project := (← get).project p
  let w : FileWriter := { baseDir := project.baseDir, area, links }
  let typekit ← p.generateTypekit (some w) renderer
  let components ← project.components.mapM fun c => c.generate (some w) renderer
  Work.log .info "taskgen.generation.build"
    s!"generated {components.length} component(s) of project {project.name}"
  return { typekit, components }

end Componentry
