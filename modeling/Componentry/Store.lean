import Componentry.Project

/-!
# The state of a run

All projects, components, typekits, registries and package maps that a run has made, the files, and
the log. Operations on it either give a value or fail; one that fails keeps what it has done before.
-/

namespace Componentry

/-- How serious a line of the log is. -/
inductive Severity where
  | debug
  | info
  | warning
  deriving Repr, DecidableEq

/-- The word for a severity. -/
def Severity.word : Severity → String
  | .debug => "DEBUG"
  | .info => "INFO"
  | .warning => "WARNING"

/-- A line of the log, with the part of the program that wrote it. -/
structure LogLine where
  severity : Severity
  origin : String
  text : String
  deriving Repr, DecidableEq

/-- The text of a line of the log. -/
def LogLine.render (l : LogLine) : String :=
  s!"{l.severity.word} {l.origin}: {l.text}"

/-- The state of a run. -/
structure Store where
  registries : List Registry := []
  typekits : List Typekit := []
  projects : Projects := .empty
  components : Components := .empty
  packageMaps : List PackageMap := []
  /-- The operations that belong to no component. -/
  freeOperations : List Operation := []
  files : Files.Tree := {}
  log : List LogLine := []
  /-- The names of the pages that were rendered. -/
  rendered : List String := []

namespace Store

instance : Inhabited Store := ⟨{}⟩

/-- A registry by its number. -/
def registry (s : Store) (id : RegistryId) : Registry :=
  (s.registries[id.index]?).getD .empty

/-- A typekit by its number. -/
def typekit (s : Store) (id : TypekitId) : Typekit :=
  (s.typekits[id.index]?).getD default

/-- A project by its number. -/
def project (s : Store) (id : ProjectId) : Project :=
  s.projects.get id

/-- The project that answers for the types, typekits and libraries of a project. -/
def scope (s : Store) (id : ProjectId) : Project :=
  s.project (s.projects.scope id)

/-- The registry in which a project looks up its types. -/
def registryOf (s : Store) (id : ProjectId) : Registry :=
  s.registry (s.scope id).registry

/-- A component by its number. -/
def component (s : Store) (id : ComponentId) : Component :=
  s.components.get id

/-- The interfaces of all components. -/
def lineage (s : Store) : Lineage :=
  s.components.lineage

/-- The interface of a component. -/
def interface (s : Store) (id : ComponentId) : Interface :=
  (s.component id).interface

/-- A package map by its number. -/
def packageMap (s : Store) (id : PackageMapId) : PackageMap :=
  (s.packageMaps[id.index]?).getD {}

/-- The typekits that components of a project may use: that of the scope first, then those that it
uses. -/
def visibleTypekits (s : Store) (id : ProjectId) : List TypekitId :=
  let scope := s.scope id
  match scope.typekit with
  | some own => own :: scope.usedTypekits.filter (· ≠ own)
  | none => scope.usedTypekits

end Store

/-- Operations on the state of a run. -/
abbrev Work := EStateM Fault Store

namespace Work

/-- The outcome of a computation. -/
def ofExcept {α : Type} : Except Fault α → Work α
  | .ok a => pure a
  | .error fault => throw fault

/-- An operation on the files. -/
def onFiles {α : Type} (x : Files.Change α) : Work α := fun s =>
  match x s.files with
  | .ok a files => .ok a { s with files }
  | .error fault files => .error fault { s with files }

/-- An operation on a registry. -/
def onRegistry {α : Type} (id : RegistryId) (x : Registry.Extension α) : Work α := fun s =>
  match x (s.registry id) with
  | .ok a r => .ok a { s with registries := s.registries.set id.index r }
  | .error fault r => .error fault { s with registries := s.registries.set id.index r }

/-- An operation on a typekit and its registry. -/
def onTypekit {α : Type} (id : TypekitId) (x : Typekit.Change α) : Work α := fun s =>
  let k := s.typekit id
  match x (k, s.registry k.registry) with
  | .ok a (k', r) =>
    .ok a { s with typekits := s.typekits.set id.index k',
                   registries := s.registries.set k.registry.index r }
  | .error fault (k', r) =>
    .error fault
      { s with typekits := s.typekits.set id.index k',
               registries := s.registries.set k.registry.index r }

/-- Adds a line to the log. -/
def log (severity : Severity) (origin text : String) : Work Unit :=
  modify fun s => { s with log := s.log ++ [⟨severity, origin, text⟩] }

/-- Makes a registry. -/
def newRegistry (r : Registry) : Work RegistryId := fun s =>
  .ok ⟨s.registries.length⟩ { s with registries := s.registries ++ [r] }

/-- Makes a typekit. -/
def newTypekit (k : Typekit) : Work TypekitId := fun s =>
  .ok ⟨s.typekits.length⟩ { s with typekits := s.typekits ++ [k] }

/-- Makes a package map. -/
def newPackageMap (m : PackageMap) : Work PackageMapId := fun s =>
  .ok ⟨s.packageMaps.length⟩ { s with packageMaps := s.packageMaps ++ [m] }

/-- Adds a package to a package map. -/
def addPackage (id : PackageMapId) (name : String) (path : Files.Path) : Work Unit :=
  modify fun s => { s with packageMaps := s.packageMaps.modify id.index (·.insert name path) }

/-- Changes a project. -/
def modifyProject (id : ProjectId) (f : Project → Project) : Work Unit :=
  modify fun s => { s with projects := s.projects.modify id f }

/-- Changes a typekit. -/
def modifyTypekit (id : TypekitId) (f : Typekit → Typekit) : Work Unit :=
  modify fun s => { s with typekits := s.typekits.modify id.index f }

/-- Changes what a component declares of itself. -/
def modifyInterface (id : ComponentId) (f : Interface → Interface) : Work Unit :=
  modify fun s =>
    { s with components := s.components.modify id fun c => { c with interface := f c.interface } }

/-- Changes the code that is added to a component. -/
def modifyCode (id : ComponentId) (f : AddedCode → AddedCode) : Work Unit :=
  modify fun s =>
    { s with components := s.components.modify id fun c => { c with code := f c.code } }

/-- Resolves an import of a project. -/
def resolveSlot {α : Type} (id : ProjectId) (read : Project → Slot α)
    (write : Slot α → Project → Project) (name : String) (load : Work α) : Work α :=
  Slot.resolve (fun s => read (s.project id))
    (fun slot s => { s with projects := s.projects.modify id (write slot) }) name load

end Work

end Componentry
