import Componentry.OpaqueRule
import Componentry.Package
import Componentry.Registry
import Componentry.Typelist

/-!
# Typekits

A typekit exports types of a registry. Those of them that are interface types may be used across
component boundaries. It also holds marshalling rules for opaque types, and a registry of the types
that those rules need.
-/

namespace Componentry

/-- The number of a registry, by the order in which registries are made. -/
structure RegistryId where
  index : Nat
  deriving Repr, DecidableEq

/-- The number of a typekit, by the order in which typekits are made. -/
structure TypekitId where
  index : Nat
  deriving Repr, DecidableEq

/-- A type as it is referred to: by its name in any spelling, or by a definition that is at hand. -/
inductive TypeRef where
  | named (name : String)
  | given (type : TypeDef)

/-- The canonical name of a type that is referred to. -/
def TypeRef.name : TypeRef → String
  | .named name => Typename.normalize name
  | .given type => type.name

/-- A typekit. -/
structure Typekit where
  name : String
  package : Option Package := none
  /-- Whether the typekit is built into the framework. -/
  isVirtual : Bool := false
  registry : RegistryId
  types : Typelist := .empty
  opaques : List OpaqueRule := []
  /-- The opaque types of the rules, and the types that they need. -/
  opaqueRegistry : Registry := .empty
  /-- Whether the typekit is complete. -/
  frozen : Bool := false

namespace Typekit

instance : Inhabited Typekit := ⟨{ name := "", registry := ⟨0⟩ }⟩

/-- A typekit that exports types given by their names in any spelling. Interface types must be
exported. -/
def new (name : String) (registry : RegistryId) (exported interface : List String)
    (package : Option Package) : Except Fault Typekit :=
  let exported := NameSet.ofList (exported.map Typename.normalize)
  let interface := NameSet.ofList (interface.map Typename.normalize)
  if interface.subset exported then .ok { name, package, registry, types := ⟨exported, interface⟩ }
  else .error (.typekitInterfaceOutsideExports name (interface.diff exported).toList)

/-- The interface types of the typekit that is built into the framework, as far as they are
defined. -/
def virtualInterface : List String :=
  ["/bool", "/double", "/float", "/int32_t"]

/-- The typekit that is built into the framework. It exports the numbers of a registry and the null
type. -/
def newVirtual (name : String) (id : RegistryId) (registry : Registry) : Typekit :=
  let exported := NameSet.ofList
    ((registry.types.filter fun t => t.kind = .numeric || t.kind = .null).map
      fun t => Typename.normalize t.name)
  let native := NameSet.ofList
    ((registry.types.filter
      fun t => (t.kind = .numeric || t.kind = .null) && t.name ∈ virtualInterface).map
      fun t => Typename.normalize t.name)
  { name, isVirtual := true, registry := id, types := ⟨exported, native⟩, frozen := true }

/-- Whether the typekit exports a type. -/
def includes (k : Typekit) (type : TypeRef) : Bool :=
  type.name ∈ k.types.exported

/-- Whether the typekit exports a type for interfaces. -/
def isInterfaceType (k : Typekit) (type : TypeRef) : Bool :=
  type.name ∈ k.types.interface

/-- The marshalling rule for a type. -/
def opaqueRule? (k : Typekit) (type : TypeRef) : Option OpaqueRule :=
  k.opaques.find? (·.typeName == type.name)

/-- The name of the type through which a type is marshalled. -/
def intermediateName (k : Typekit) (type : TypeRef) : String :=
  match k.opaqueRule? type with
  | some rule => rule.intermediateName
  | none => type.name

/-- Whether there are marshalling rules, or the typekit exports an opaque type. -/
def hasOpaques (k : Typekit) (registry : Registry) : Bool :=
  !k.opaques.isEmpty || k.types.exported.toList.any fun name =>
    match registry.get name with
    | .ok t => t.isOpaque
    | .error _ => false

/-- The definitions of the exported types, in the order of their names. -/
def exportedTypes (k : Typekit) (registry : Registry) : Except Fault (List TypeDef) :=
  k.types.exported.toList.mapM registry.get

/-- The definitions of the interface types, in the order of their names. -/
def interfaceTypes (k : Typekit) (registry : Registry) : Except Fault (List TypeDef) :=
  k.types.interface.toList.mapM registry.get

/-- The directory of the headers of the types in the package. -/
def typesDir (k : Typekit) : Option Files.Path :=
  if k.isVirtual then none
  else k.package.map fun p => (p.includeDir.join k.name).join "types"

/-- The name of the package that transports the types in a given way. -/
def transportName (k : Typekit) (transport : String) : Option String :=
  if k.isVirtual then none
  else k.package.map fun p => s!"{p.name}-transport-{transport}"

/-- Fails if the typekit is complete. -/
def checkMutable (k : Typekit) : Except Fault Unit :=
  if k.frozen then .error (.frozenTypekit k.name) else .ok ()

/-- The typekit with the definition of a registered type exported. -/
def withExport (k : Typekit) (name : String) (interface : Bool) : Typekit :=
  { k with
    types := ⟨k.types.exported.insert name,
      if interface then k.types.interface.insert name else k.types.interface⟩ }

/-- Operations on a typekit and its registry. One that fails keeps what it has done before. -/
abbrev Change := EStateM Fault (Typekit × Registry)

/-- Adds a marshalling rule. There must be none for its type, and the types that it needs must be
registered. -/
def addRule (rule : OpaqueRule) : Change Unit := do
  let (k, r) ← get
  if (k.opaqueRule? (.named rule.typeName)).isSome then throw (.opaqueTwice k.name rule.typeName)
  match r.closure rule.typeName with
  | .error fault => throw fault
  | .ok needed =>
    match (Registry.addAll needed).run k.opaqueRegistry with
    | .ok _ opaqueRegistry => set ({ k with opaqueRegistry, opaques := k.opaques ++ [rule] }, r)
    | .error fault opaqueRegistry =>
      set ({ k with opaqueRegistry }, r)
      throw fault

/-- Exports registered types. -/
def exportTypes (names : List String) (interface : Bool) : Change Unit := do
  let (k, _) ← get
  match k.checkMutable with
  | .error fault => throw fault
  | .ok _ =>
    names.forM fun name => do
      let (k, r) ← get
      match r.get name with
      | .error fault => throw fault
      | .ok t => set (k.withExport t.name interface, r)

/-- Declares an opaque type with its marshalling rule, and exports it. The type is registered if it
is new; the intermediate type must be registered. -/
def declareOpaque (name intermediate : String) (headers : List String)
    (needsCopy : Bool) : Change OpaqueRule := do
  let (k, r) ← get
  match k.checkMutable with
  | .error fault => throw fault
  | .ok _ =>
    let name := Typename.normalize name
    match r.get name with
    | .ok t => if !t.isOpaque then throw (.notOpaque name)
    | .error _ =>
      match (Registry.add { name, kind := .opaqueType }).run r with
      | .ok _ r => set (k, r)
      | .error fault r =>
        set (k, r)
        throw fault
    let (_, r) ← get
    match r.get intermediate with
    | .error fault => throw fault
    | .ok t =>
      let rule : OpaqueRule := { typeName := name, intermediateName := t.name, needsCopy, headers }
      addRule rule
      modify fun (k, r) => (k.withExport name true, r)
      return rule

end Typekit

end Componentry
