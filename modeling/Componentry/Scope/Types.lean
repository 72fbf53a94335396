import Componentry.Scope.Typekits

/-!
# Types of a scope

A type is looked up in the registry of the scope. If it is not there, the typekits that have the
names of the imported libraries are imported, and it is looked up once more.
-/

namespace Componentry

/-- The marshalling rule for an opaque type, from the first typekit visible from a project that has
one. -/
def Store.opaqueRule (s : Store) (p : ProjectId) (type : TypeRef) : Except Fault OpaqueRule :=
  match (s.visibleTypekits p).findSome? fun id => (s.typekit id).opaqueRule? type with
  | some rule => .ok rule
  | none => .error (.opaqueUnspecified type.name (s.project p).name)

namespace ProjectId

/-- Imports the typekits in which a missing type may be defined, and tells whether any came into
use. -/
def importOnMiss (p : ProjectId) : Work Bool := do
  let s ← get
  let before := (s.scope p).usedTypekits.length
  if (s.project p).isImported then
    let _ ← p.typekit
  else
    (s.scope p).usedLibraries.forM fun library => do
      let _ ← library.typekit
  return before < ((← get).scope p).usedTypekits.length

/-- The definition of a type. A definition that is at hand is taken as it is. -/
def findType (p : ProjectId) (type : TypeRef) : Work TypeDef := do
  match type with
  | .given t => return t
  | .named name =>
    match ((← get).registryOf p).get name with
    | .ok t => return t
    | .error fault =>
      if ← p.importOnMiss then
        Work.log .debug logName s!"retrying lookup of {type.name} after importing typekits"
        Work.ofExcept (((← get).registryOf p).get name)
      else throw fault

/-- Whether a visible typekit exports a type for interfaces. -/
def isInterfaceType (p : ProjectId) (type : TypeRef) : Work Bool := do
  let s ← get
  return (s.visibleTypekits p).any fun id => (s.typekit id).isInterfaceType type

/-- The marshalling rule for an opaque type. -/
def opaqueRule (p : ProjectId) (type : TypeRef) : Work OpaqueRule := do
  Work.ofExcept ((← get).opaqueRule p type)

/-- The name of the type through which a type is marshalled. -/
def intermediateName (p : ProjectId) (type : TypeRef) : Work String := do
  let t ← p.findType type
  if t.isOpaque then return (← p.opaqueRule (.given t)).intermediateName
  else return t.name

/-- Defines types in the typekit of a project. Without a typelist, the types that are new are
exported for interfaces. -/
def loadTypekit (p : ProjectId) (xml : String) (typelist : Option String) : Work TypekitId := do
  p.checkMutable
  match ← p.typekit true with
  | none => throw .typekitAbsent
  | some id =>
    let added ← Work.onRegistry ((← get).scope p).registry (Descriptor.mergeInto xml)
    match typelist with
    | none => Work.onTypekit id (Typekit.exportTypes added true)
    | some text =>
      let types ← Work.ofExcept (Typelist.parse text)
      Work.onTypekit id (Typekit.exportTypes (types.exported.diff types.interface).toList false)
      Work.onTypekit id (Typekit.exportTypes types.interface.toList true)
    let rules ← Work.ofExcept (Descriptor.opaqueRules xml)
    rules.forM fun rule => Work.onTypekit id (Typekit.addRule rule)
    return id

/-- Declares an opaque type in the typekit of a project. -/
def declareOpaque (p : ProjectId) (name intermediate : String) (headers : List String)
    (needsCopy : Bool) :
    Work OpaqueRule := do
  p.checkMutable
  let outside := Fault.opaqueOutsideTypekit name ((← get).project p).name
  match ← p.typekit true with
  | none => throw outside
  | some id =>
    if ((← get).typekit id).frozen then throw outside
    Work.onTypekit id (Typekit.declareOpaque name intermediate headers needsCopy)

end ProjectId

end Componentry
