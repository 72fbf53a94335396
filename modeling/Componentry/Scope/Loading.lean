import Componentry.Description.Reader
import Componentry.Scope.Declarations

/-!
# Loading projects

A project is made from its description by the same declarations that can be made one by one.
Component libraries that it uses are loaded in turn, each once for the scope. A library whose load
is under way is taken off the packages that may still be loaded, so every load ends.
-/

namespace Componentry

/-- Where the log says that lines about the loading of projects come from. -/
def Work.loaderLogName : String := "taskgen.project.loader"

/-- The text of a file that belongs to a typekit. -/
def Work.readTypekitFile (path : Files.Path) : Work String :=
  tryCatch (Work.onFiles (Files.Change.readText path)) fun fault =>
    match fault with
    | .file failure => throw (.typekitFileUnreadable path.toText failure)
    | _ => throw fault

/-- The text of a project file. -/
def Work.readProjectFile (path : Files.Path) : Work String :=
  tryCatch (Work.onFiles (Files.Change.readText path)) fun fault =>
    match fault with
    | .file ⟨.missing, _⟩ => throw (.projectFileMissing path.toText)
    | .file failure => throw (.projectFileUnreadable path.toText failure)
    | _ => throw fault

namespace ComponentId

/-- The type of a port whose samples may be passed through a pointer. -/
def portType (c : ComponentId) (type : String) (pointer : Option Pointer) : Work TypeRef := do
  match pointer with
  | some pointer => return .named (← c.pointerType pointer (.named type))
  | none => return .named type

/-- Declares an operation as it is described. -/
def replayOperation (c : ComponentId) (d : Description.Operation) : Work Unit := do
  let o ←
    if d.hidden && d.body.isSome then c.declareHiddenOperation d.name d.body d.doc d.methodName
    else do
      let o ← c.declareOperation d.name d.doc d.methodName
      o.setHidden d.hidden
      o.setBody d.body
      pure o
  d.arguments.forM fun a => o.addArgument a.name a.type a.doc
  o.setReturn d.returns
  if d.callerThread then o.runInCallerThread

/-- Declares the trigger ports of a component as they are described. -/
def replayTriggers (c : ComponentId) (d : Description.Triggers) : Work Unit :=
  match d with
  | .all true => c.portDriven []
  | .all false => pure ()
  | .named ports => if ports.isEmpty then pure () else c.portDriven ports

/-- Declares the members of a component, and the statements for its hooks, as they are described. -/
def replay (c : ComponentId) (d : Description.Component) : Work Unit := do
  d.methods.forM fun _ => throw .methodsReplaced
  d.commands.forM fun _ => throw .commandsReplaced
  if d.fixedInitialState then c.fixInitialState
  if d.needsConfiguration then c.needConfiguration
  d.properties.forM fun s => discard (c.declareProperty s.name (.named s.type) s.default s.doc)
  d.attributes.forM fun s => discard (c.declareAttribute s.name (.named s.type) s.default s.doc)
  d.inputPorts.forM fun p => do
    discard (c.declareInput p.name (← c.portType p.type p.pointer) p.doc p.clearOnStart)
  d.outputPorts.forM fun p => do
    discard (c.declareOutput p.name (← c.portType p.type p.pointer) p.doc (.text p.retention.word))
  d.dynamicInputPorts.forM fun p =>
    discard (c.declareDynamic .input p.name (p.type.map .named) p.doc)
  d.dynamicOutputPorts.forM fun p =>
    discard (c.declareDynamic .output p.name (p.type.map .named) p.doc)
  c.replayTriggers d.portDriven
  d.operations.forM c.replayOperation
  d.hooks.forM fun (hook, statements) =>
    statements.forM fun statement => c.addHookCode hook (.text statement)

end ComponentId

namespace ProjectId

/-- Defines the typekit of a project as it is described. -/
def replayTypekit (p : ProjectId) (d : Description.Typekit) (baseDir : Files.Path) : Work Unit := do
  match d.registry with
  | some registry =>
    let typelist ←
      match d.typelist with
      | some typelist => some <$> Work.readTypekitFile (baseDir.join typelist)
      | none => pure none
    discard (p.loadTypekit (← Work.readTypekitFile (baseDir.join registry)) typelist)
  | none => discard (p.typekit true)
  d.opaques.forM fun m => discard (p.declareOpaque m.type m.marshalAs m.headers m.needsCopy)

/-- Declares a component as it is described. -/
def replayComponent (p : ProjectId) (d : Description.Component) : Work Unit := do
  let superclass := match d.subclasses with
    | some name => Superclass.named name
    | none => .framework
  let c ← p.declareComponent d.name superclass d.doc
  c.replay d

end ProjectId

/-- Where a project comes from. -/
structure Origin where
  /-- The directory that its paths are relative to. -/
  baseDir : Files.Path
  packages : PackageMapId
  /-- The project that imports it. -/
  main : Option ProjectId := none
  /-- The package that it was found in. -/
  package : Option Package := none

/-- Where a library comes from that a scope finds in a package. -/
def Origin.ofLibrary (s : Store) (scope : ProjectId) (package : Package) : Origin :=
  ⟨package.projectFile.parent, (s.project scope).packages, some scope, some package⟩

mutual

/-- Makes a project from its description. Libraries are loaded from the available packages. -/
def Work.loadWithin (available : List String) (d : Description.Project) (origin : Origin)
    (label : String) :
    Work ProjectId := do
  let p ← Work.newProject d.name origin.baseDir origin.packages origin.main origin.package
  Work.log .debug Work.loaderLogName s!"loading project {d.name} from {label}"
  d.usedTypekits.forM fun name => do discard (p.usingTypekit (← p.importTypekit name))
  d.usedLibraries.forM fun name => discard (p.usingLibraryWithin available name)
  match d.typekit with
  | some t => if origin.main.isNone then p.replayTypekit t origin.baseDir
  | none => pure ()
  d.components.forM p.replayComponent
  return p
termination_by (available.length, 2)

/-- Makes a library available in the scope of a project. It is loaded from the available
packages. -/
def ProjectId.usingLibraryWithin (p : ProjectId) (available : List String)
    (name : String) : Work ProjectId := do
  let scope ← p.scope
  let library ← Work.resolveSlot scope (fun q => Project.slotOf q.librarySlots name)
    (fun slot q => { q with librarySlots := Project.setSlot q.librarySlots name slot }) name
    (scope.loadLibraryWithin available name)
  if library ∉ ((← get).project scope).usedLibraries then
    Work.modifyProject scope fun q => { q with usedLibraries := q.usedLibraries ++ [library] }
  return library
termination_by (available.length, 1)

/-- Loads the library of a package into a scope. Its declarations then have ended. -/
def ProjectId.loadLibraryWithin (scope : ProjectId) (available : List String) (name : String) :
    Work ProjectId := do
  let s ← get
  let package ← Work.onFiles ((s.packageMap (s.project scope).packages).find name)
  if !(← Work.onFiles package.hasLibrary) then throw (.notLibrary name)
  Work.log .info ProjectId.logName s!"loading component library {name} from {package.path.toText}"
  if _h : name ∈ available then
    let label := package.projectFile.toText
    let text ← Work.readProjectFile package.projectFile
    let d ← Work.ofExcept (Description.Project.parse label text)
    let library ← Work.loadWithin (available.erase name) d (.ofLibrary s scope package) label
    library.freeze
    return library
  else throw (.importCycle name)
termination_by (available.length, 0)
decreasing_by
  have := List.length_erase_of_mem _h
  have := List.length_pos_of_mem _h
  left
  omega

end

/-- Makes a project from the text of its description. The label names the text in messages. A
project that is imported finds packages where the one that imports it does. -/
def Work.load (text label : String) (origin : Origin) : Work ProjectId := do
  let d ← Work.ofExcept (Description.Project.parse label text)
  let s ← get
  let packages := match origin.main with
    | some m => (s.project m).packages
    | none => origin.packages
  Work.loadWithin (s.packageMap packages).names d { origin with packages } label

/-- Makes a project from the file that describes it. -/
def Work.loadFile (path : Files.Path) (origin : Origin) : Work ProjectId := do
  let text ← Work.readProjectFile path
  Work.load text path.toText { origin with baseDir := path.parent }

/-- Makes a library, and the typekit that it needs, available to a project. -/
def ProjectId.usingLibrary (p : ProjectId) (name : String) : Work ProjectId := do
  let s ← get
  p.usingLibraryWithin (s.packageMap (s.scope p).packages).names name

end Componentry
