import Componentry.Descriptor
import Componentry.Store

/-!
# Typekits of a scope

A typekit that is used adds its types to the registry of the scope. Typekits are loaded from
packages by name, once for a scope. An imported project has no typekit of its own; it uses the one
that its scope imports under the name of the project.
-/

namespace Componentry

/-- Makes a complete typekit from a type descriptor and a typelist. -/
def Work.typekitOfDescriptor (name : String) (package : Option Package) (xml typelist : String) :
    Work TypekitId := do
  let registry ← Work.newRegistry .standard
  let _ ← Work.onRegistry registry (Descriptor.mergeInto xml)
  let types ← Work.ofExcept (Typelist.parse typelist)
  let typekit ← Work.ofExcept
    (Typekit.new name registry types.exported.toList types.interface.toList package)
  let id ← Work.newTypekit typekit
  let rules ← Work.ofExcept (Descriptor.opaqueRules xml)
  rules.forM fun rule => Work.onTypekit id (Typekit.addRule rule)
  Work.modifyTypekit id ({ · with frozen := true })
  return id

/-- A computation whose failure to find a package gives a value instead. -/
def Work.orNoPackage {α : Type} (x : Work α) (instead : Work α) : Work α :=
  tryCatch x fun fault =>
    match fault with
    | .packageNotConfigured _ | .packageDirectoryMissing .. => instead
    | _ => throw fault

namespace ProjectId

/-- Where the log says that lines about projects come from. -/
def logName : String := "taskgen.project.project"

/-- The project that answers for the types, typekits and libraries of a project. -/
def scope (p : ProjectId) : Work ProjectId := do
  return (← get).projects.scope p

/-- Fails if declarations in the project have ended. -/
def checkMutable (p : ProjectId) : Work Unit := do
  Work.ofExcept ((← get).project p).checkMutable

/-- The files of a typekit: its type descriptor, and its typelist, empty if there is none. -/
def readTypekitFiles (name : String) (package : Package) : Work (String × String) :=
  tryCatch (Work.onFiles do
    let xml ← Files.Change.readText package.registryFile
    if ← Files.Change.isPresent package.typelistFile then
      return (xml, ← Files.Change.readText package.typelistFile)
    else return (xml, "")) fun fault =>
    match fault with
    | .file failure => throw (.typekitUnreadable name failure)
    | _ => throw fault

/-- Loads the typekit of a package, if there is one. -/
def loadTypekitPackage (p : ProjectId) (name : String) : Work (Option TypekitId) := do
  let s ← get
  let project := s.project p
  let package? ← Work.orNoPackage
      (some <$> Work.onFiles ((s.packageMap project.packages).find name)) do
    Work.log .debug logName s!"{project.name}: no package for typekit {name}"
    return none
  match package? with
  | none => return none
  | some package =>
    if !(← Work.onFiles package.hasTypekit) then return none
    let (xml, typelist) ← readTypekitFiles name package
    Work.log .info logName s!"loading typekit {name} from {package.path.toText}"
    some <$> Work.typekitOfDescriptor name (some package) xml typelist

/-- The typekit of a name, imported at most once for the scope; none if there is none. -/
def importedTypekit (p : ProjectId) (name : String) : Work (Option TypekitId) := do
  let scope ← p.scope
  Work.resolveSlot scope (fun q => Project.slotOf q.typekitSlots name)
    (fun slot q => { q with typekitSlots := Project.setSlot q.typekitSlots name slot }) name
    (loadTypekitPackage scope name)

/-- Whether a typekit of a name can be imported. -/
def hasTypekit (p : ProjectId) (name : String) : Work Bool := do
  return (← p.importedTypekit name).isSome

/-- The typekit of a name. -/
def importTypekit (p : ProjectId) (name : String) : Work TypekitId := do
  match ← p.importedTypekit name with
  | some id => return id
  | none => throw (.typekitUnavailable name)

/-- Makes the types of a typekit available in the scope of a project. -/
def usingTypekit (p : ProjectId) (id : TypekitId) : Work TypekitId := do
  let scope ← p.scope
  let s ← get
  if id ∈ (s.project scope).usedTypekits then return id
  let types := (s.registry (s.typekit id).registry).types
  let _ ← Work.onRegistry (s.project scope).registry (Registry.addAll types)
  Work.modifyProject scope fun q => { q with usedTypekits := q.usedTypekits ++ [id] }
  Work.log .debug logName s!"{(s.project scope).name}: using typekit {(s.typekit id).name}"
  return id

/-- Imports the typekit that has the name of an imported project and makes its types available, if
there is such a typekit. -/
def importOwnTypekit (p : ProjectId) : Work (Option TypekitId) := do
  let scope ← p.scope
  let name := ((← get).project p).name
  if ← scope.hasTypekit name then
    some <$> (do scope.usingTypekit (← scope.importTypekit name))
  else return none

/-- The typekit of a project. That of an imported project is imported when it is first asked for;
that of another project is made if it is absent and `create` says so. -/
def typekit (p : ProjectId) (create : Bool := false) : Work (Option TypekitId) := do
  let s ← get
  let project := s.project p
  if project.isImported then
    Work.resolveSlot p (·.ownTypekitSlot)
      (fun slot q => { q with ownTypekitSlot := slot }) project.name (importOwnTypekit p)
  else
    match project.typekit with
    | some id => return some id
    | none =>
      if create then
        p.checkMutable
        let id ← Work.newTypekit { name := project.name, registry := project.registry }
        Work.modifyProject p ({ · with typekit := some id })
        return some id
      else return none

/-- The visible typekit of a name. -/
def findTypekit (p : ProjectId) (name : String) : Work (Option TypekitId) := do
  let s ← get
  return (s.visibleTypekits p).find? fun id => (s.typekit id).name == name

/-- Ends the declarations of a project. -/
def freeze (p : ProjectId) : Work Unit := do
  Work.modifyProject p ({ · with frozen := true })
  let project := (← get).project p
  match project.typekit with
  | some id => if !project.isImported then Work.modifyTypekit id ({ · with frozen := true })
  | none => pure ()

end ProjectId

end Componentry
