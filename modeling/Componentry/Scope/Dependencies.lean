import Componentry.Scope.Components

/-!
# Dependencies of components

The generated code of a component needs the typekits that define the types of its interface, and the
libraries that define the component or those it derives from.
-/

namespace Componentry

namespace Store

/-- The types of the interface of a component: those that its members expose, inherited ones
included. -/
def interfaceTypes (s : Store) (c : ComponentId) : NameSet :=
  (s.lineage.allMembers c).foldl (fun types m => types.union m.usedTypes) .empty

/-- The typekits visible from a project that export a type of the interface of a component. -/
def requiredTypekits (s : Store) (p : ProjectId) (c : ComponentId) : List TypekitId :=
  let types := (s.interfaceTypes c).toList
  (s.visibleTypekits p).filter fun id => types.any fun t => (s.typekit id).includes (.named t)

/-- The libraries used by a project that define a component or one that it derives from. -/
def requiredLibraries (s : Store) (p : ProjectId) (c : ComponentId) : List ProjectId :=
  (s.scope p).usedLibraries.filter fun library =>
    (s.project library).components.any fun d => s.lineage.implements c (s.interface d).name

/-- The marshalling rules for the opaque types that are reachable from the types of the interface of
a component, type by type. -/
def interfaceRules (s : Store) (c : ComponentId) : Except Fault (List OpaqueRule) := do
  let p := (s.interface c).project
  let rules ← (s.interfaceTypes c).toList.mapM fun type => do
    let opaques ← (s.registryOf p).containedOpaques type
    opaques.toList.mapM fun name => s.opaqueRule p (.named name)
  return rules.flatten

end Store

end Componentry
