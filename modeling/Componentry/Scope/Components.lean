import Componentry.Scope.Types

/-!
# Components of a scope

A component is declared in a project, under a name that no other component of the project has. Its
superclass is looked up among the components of the project, by the name with or without the project
in front, then among those of the used libraries by the full name, and then in the project that
imports it.
-/

namespace Componentry

namespace ProjectId

/-- Whether a component of a project goes by a name there. -/
def answersTo (c : Interface) (name : String) : Bool :=
  c.name == name || (c.basename == name && !Interface.hasColons name.toList)

/-- The component of a name among those of a project and of the libraries that its scope uses. -/
def findInProject (s : Store) (p : ProjectId) (name : String) : Option ComponentId :=
  let own := (s.project p).components.find? fun c => answersTo (s.interface c) name
  let libraries := (s.scope p).usedLibraries.filter (· ≠ p)
  own.or <| libraries.findSome? fun library =>
    (s.project library).components.find? fun c => (s.interface c).name == name

/-- The component of a name, as it is seen from a project. -/
def findComponent (p : ProjectId) (name : String) : Work ComponentId := do
  let s ← get
  let projects := s.projects.outwards p
  match projects.findSome? fun q => findInProject s q name with
  | some c => return c
  | none => throw (.componentNotFound name (s.project (projects.getLastD p)).name)

/-- The superclass of a component that is to be declared. -/
inductive Superclass where
  | framework
  | named (name : String)
  | given (component : ComponentId)

/-- Adds a component to a project. -/
def addComponent (p : ProjectId) (c : Interface) : Work ComponentId := do
  let s ← get
  if h : ∀ b, c.superclass = some b → b.index < s.components.items.length then
    let id := s.components.next
    set { s with components := s.components.push { interface := c } h }
    Work.modifyProject p fun q => { q with components := q.components ++ [id] }
    return id
  else throw (.componentNotFound c.name (s.project p).name)

/-- Declares a component in a project. -/
def declareComponent (p : ProjectId) (name : String) (superclass : Superclass)
    (doc : Option String) :
    Work ComponentId := do
  p.checkMutable
  let s ← get
  let project := s.project p
  let qualified := project.qualify name
  if project.components.any fun c => (s.interface c).name == qualified then
    throw (.componentTaken qualified project.name)
  let base ←
    match superclass with
    | .framework => pure none
    | .named base => some <$> p.findComponent base
    | .given base => pure (some base)
  p.addComponent
    { name := qualified, project := p, superclass := base, isExternal := project.isImported, doc }

/-- The used library of a name. -/
def findLibrary (p : ProjectId) (name : String) : Work (Option ProjectId) := do
  let s ← get
  return (s.scope p).usedLibraries.find? fun library => (s.project library).name == name

end ProjectId

/-- The name of the typekit that is built into the framework. -/
def frameworkTypekit : String := "rtt"

/-- Makes a project, which is imported by another one if `main` is given. A project that is not
imported has the standard types, and uses the typekit that is built into the framework. -/
def Work.newProject (name : String) (baseDir : Files.Path) (packages : PackageMapId)
    (main : Option ProjectId) (package : Option Package) : Work ProjectId := do
  let registry ← Work.newRegistry (if main.isSome then .empty else .standard)
  let usedTypekits ←
    if main.isSome then pure []
    else do
      let id ← Work.newTypekit (.newVirtual frameworkTypekit registry .standard)
      pure [id]
  let s ← get
  let id := s.projects.next
  let made : Project := { name, baseDir, packages, main, package, registry, usedTypekits }
  if h : ∀ m, made.main = some m → m.index < s.projects.items.length then
    set { s with projects := s.projects.push made h }
    return id
  else throw (.notLibrary name)

end Componentry
