import Componentry.Generation.Run
import Componentry.Proofs.MemberNames
import Componentry.Proofs.TypeClosures
import Componentry.Proofs.TypedScopes
import Componentry.Proofs.Upholding

/-!
# Checks of opaque types

The check that precedes the generation of a component follows the types of its interface and looks
up a marshalling rule for each opaque type that it reaches. In a run on one project whose calls give
types by name, and none of which fails, the rules are all there; so the check fails exactly if a
type that is reached is not registered.
-/

namespace Componentry

open Declares

/-- The types of an interface are those exposed along its chain. -/
theorem Store.mem_interfaceTypes {s : Store} {c : ComponentId} {type : String} :
    type ∈ s.interfaceTypes c ↔ ∃ d ∈ s.lineage.chain c, (s.interface d).Exposes type := by
  have collected (members : List Member) (types : NameSet) :
      type ∈ members.foldl (fun types m => types.union m.usedTypes) types ↔
        type ∈ types ∨ ∃ m ∈ members, type ∈ m.usedTypes := by
    induction members generalizing types with
    | nil => simp
    | cons m members ih => simp [ih, or_assoc]
  have interface (d : ComponentId) : s.lineage.interface d = s.interface d :=
    s.components.interface_lineage d
  simp only [interfaceTypes, collected, Lineage.allMembers, Lineage.chainInterfaces, interface,
    Interface.Exposes, NameSet.notMem_empty, false_or, List.mem_flatMap, List.mem_map]
  grind

namespace ComponentId

/-- The check of the opaque types of a component leaves the state as it is. -/
theorem checkOpaques_eq (c : ComponentId) (s : Store) : c.checkOpaques s =
    match s.interfaceRules c with
    | .ok _ => .ok () s
    | .error fault => .error fault s := by
  change (discard (Work.ofExcept (s.interfaceRules c)) : Work Unit) s = _
  cases s.interfaceRules c <;> rfl

end ComponentId

namespace TypedScope

variable {m : ProjectId} {s : Store}

/-- The types of the interface of a component are registered. -/
theorem contains_interfaceType (h : TypedScope m s) {c : ComponentId} {type : String}
    (mem : type ∈ s.interfaceTypes c) :
    (s.registryOf m).contains type = true := by
  obtain ⟨d, -, exposes⟩ := Store.mem_interfaceTypes.1 mem
  obtain ⟨t, ht, rfl⟩ := List.mem_map.1 (h.known d type exposes)
  rw [Registry.contains, h.names t ht, Registry.find?_of_mem ht]
  rfl

/-- The opaque types of the registry have rules that are found from all projects of the scope. -/
theorem opaqueRule_of_opaque (h : TypedScope m s) {p : ProjectId} (scope : s.projects.scope p = m)
    {t : TypeDef} (ht : t ∈ (s.registryOf m).types) (isOpaque : t.isOpaque = true) :
    ∃ rule, s.opaqueRule p (.named t.name) = .ok rule := by
  obtain ⟨id, visible, rule, mem, same⟩ := h.rules t ht isOpaque
  have visible : id ∈ s.visibleTypekits p := by
    rw [Store.mem_visibleTypekits, Store.scope] at visible ⊢
    rwa [scope, ← h.scope]
  have ruled : ((s.typekit id).opaqueRule? (.named t.name)).isSome = true := by
    refine List.find?_isSome.2 ⟨rule, mem, ?_⟩
    simp [TypeRef.name, same, h.names t ht]
  have found : ((s.visibleTypekits p).findSome?
      fun id => (s.typekit id).opaqueRule? (.named t.name)).isSome = true :=
    List.findSome?_isSome_iff.2 ⟨id, visible, ruled⟩
  obtain ⟨rule, hrule⟩ := Option.isSome_iff_exists.1 found
  exact ⟨rule, by rw [Store.opaqueRule, hrule]⟩

/-- The rules for an interface fail for a type that is reached and not registered. -/
theorem interfaceRules_error (h : TypedScope m s) {c : ComponentId} {fault : Fault}
    (failed : s.interfaceRules c = .error fault) :
    ∃ type ∈ s.interfaceTypes c, ∃ d, (s.registryOf m).Reaches type d ∧
      (s.registryOf m).contains d = false ∧ fault = .typeNotFound (Typename.normalize d) := by
  have scope := h.homes c
  have failed := (of_bind_error failed).resolve_right fun ⟨_, _, impossible⟩ => by cases impossible
  obtain ⟨type, mem, failed⟩ := exists_of_mapM_error failed
  refine ⟨type, mem, ?_⟩
  rw [h.registryOf_of_scope scope] at failed
  rcases of_bind_error failed with failed | ⟨opaques, collected, failed⟩
  · rcases of_bind_error failed with failed | ⟨types, -, failed⟩
    · exact Registry.closure_error failed
    · cases failed
  · obtain ⟨types, closure, collected⟩ := of_bind_ok collected
    cases collected
    obtain ⟨name, among, unruled⟩ := exists_of_mapM_error failed
    obtain ⟨t, ht, rfl⟩ := List.mem_map.1 (NameSet.mem_ofList.1 (NameSet.mem_toList.1 among))
    obtain ⟨reached, isOpaque⟩ := List.mem_filter.1 ht
    obtain ⟨rule, found⟩ :=
      h.opaqueRule_of_opaque scope ((Registry.closure_ok closure).1 t reached) isOpaque
    rw [found] at unruled
    cases unruled

/-- The rules for an interface are given only if all types that are reached are registered. -/
theorem contains_of_interfaceRules (h : TypedScope m s) {c : ComponentId} {rules : List OpaqueRule}
    (given : s.interfaceRules c = .ok rules) {type : String} (mem : type ∈ s.interfaceTypes c)
    {d : String} (reaches : (s.registryOf m).Reaches type d) :
    (s.registryOf m).contains d = true := by
  obtain ⟨found, all, -⟩ := of_bind_ok given
  obtain ⟨rulesOfType, -, given⟩ := (mem_of_mapM_ok all).1 type mem
  obtain ⟨opaques, hopaques, -⟩ := of_bind_ok given
  rw [h.registryOf_of_scope (h.homes c)] at hopaques
  obtain ⟨types, closure, -⟩ := of_bind_ok hopaques
  exact Registry.closure_ok_iff.1 ⟨types, closure⟩ d reaches

/-- The scope of a project that was just made, and that is the only one. -/
theorem withMain_of_empty (files : Files.Tree) (packageMaps : List PackageMap) (name : String)
    (baseDir : Files.Path) (packages : PackageMapId) :
    TypedScope ⟨0⟩ (Store.withMain { files, packageMaps } name baseDir packages none) := by
  let start : Store := { files, packageMaps }
  have project := start.project_withMain name baseDir packages none
  have first : (start.withMain name baseDir packages none).project ⟨0⟩ = _ :=
    (project ⟨0⟩).trans (if_pos rfl)
  have mains (p : ProjectId) :
      ((start.withMain name baseDir packages none).project p).main = none := by
    rw [project]
    split <;> rfl
  have scope : (start.withMain name baseDir packages none).projects.scope ⟨0⟩ = ⟨0⟩ :=
    Store.scope_of_own (mains ⟨0⟩)
  have registry : (start.withMain name baseDir packages none).registryOf ⟨0⟩ = Registry.standard :=
    start.registryOf_withMain name baseDir packages none
  have apart : PackagesApart (start.withMain name baseDir packages none) :=
    .withMain_of_empty rfl rfl rfl name baseDir packages
  refine ⟨⟨Nat.one_pos, mains ⟨0⟩, apart, ?_, ?_, ?_, ?_, ?_, ?_⟩, ?_, ?_, ?_⟩
  · intro p m' hm
    rw [mains] at hm
    cases hm
  · intro id hid
    rw [first] at hid
    cases hid
  · intro name id hid
    rw [first] at hid
    cases hid
  · intro p id hid
    rw [project] at hid
    split at hid <;> cases hid
  · rw [registry]
    exact fun t ht => (Registry.standard_plain t ht).1
  · rw [registry]
    intro t ht isOpaque
    rw [(Registry.standard_plain t ht).2] at isOpaque
    cases isOpaque
  · exact Work.settled_push (settled_of_empty (s := start) rfl) project rfl rfl
  · exact fun c => scope
  · intro c type exposes
    obtain ⟨member, mem, -⟩ := exposes
    cases mem

end TypedScope

/-- Whether a call defines types in the typekit of a project, imports typekits and declares
components in the project, or is a declaration in a component that gives types by name. -/
def Declaration.NamesTypes (m : ProjectId) : Declaration → Prop
  | loadTypekit p .. | declareOpaque p .. | usingTypekitNamed p _ | declareComponent p .. => p = m
  | declareInput _ _ type .. | declareOutput _ _ type .. | declareProperty _ _ type ..
  | declareAttribute _ _ type .. | pointerType _ _ type => ∃ name, type = .named name
  | declareDynamic _ _ _ type _ => ∃ name : Option String, type = name.map .named
  | declareOperation .. | declareHiddenOperation .. | addArgument .. | setReturn ..
  | runInCallerThread .. | setHidden .. | setBody .. | portDriven .. | fixInitialState ..
  | needConfiguration .. | addHookCode .. | addHeaderCode .. | addImplementationCode ..
  | addHandler .. | addExtension .. | newOperation .. => True
  | _ => False

/-- Whether a call is such a declaration, or imports a library into the project. -/
def Call.NamesTypes (m : ProjectId) : Call → Prop
  | declare d => d.NamesTypes m
  | useLibrary p _ => p = m
  | _ => False

/-- A declaration that gives types by name keeps the types of all components registered. -/
theorem Declaration.keeps_typed {m : ProjectId} {d : Declaration} (named : d.NamesTypes m) :
    Keeps (TypedScope m) (fun _ => False) d.run fun _ _ => True := by
  have discarded {α : Type} {x : Work α}
      (hx : Keeps (TypedScope m) (fun _ => False) x fun _ _ => True) :
      Keeps (TypedScope m) (fun _ => False) (discard x) fun _ _ => True :=
        hx.map fun _ _ _ => trivial
  cases d with
  | loadTypekit p xml typelist =>
    obtain rfl : p = m := named
    refine discarded fun s h => h.ends_of_typing (p.typing_loadTypekit xml typelist) ?_
    exact (h.ends_loadTypekit xml typelist).mono (fun _ _ ht => ⟨ht, trivial⟩)
      fun _ _ _ => False.elim
  | declareOpaque p name intermediate headers needsCopy =>
    obtain rfl : p = m := named
    refine discarded fun s h => h.ends_of_typing (p.typing_declareOpaque _ _ _ _) ?_
    exact (h.ends_declareOpaque h.scope _ _ _ _).mono (fun _ _ ht => ⟨ht, trivial⟩)
      fun _ _ _ => False.elim
  | usingTypekitNamed p name =>
    obtain rfl : p = m := named
    exact fun s h => (h.ends_usingTypekitNamed h.scope name).mono (fun _ _ ht => ⟨ht, trivial⟩)
      fun _ _ _ => False.elim
  | declareComponent p name superclass doc =>
    obtain rfl : p = m := named
    refine discarded fun s h =>
      (h.ends_declareComponent h.scope name superclass doc).mono ?_ fun _ _ _ => False.elim
    exact fun _ _ ht => ⟨ht, trivial⟩
  | declareInput | declareOutput | declareProperty | declareAttribute | pointerType =>
    obtain ⟨name, rfl⟩ := named
    exact (TypedScope.upheld m _).run rfl fun type mem =>
      List.mem_singleton.1 mem ▸ (TypedScope.upheld m _).finds name
  | declareDynamic c direction port type doc =>
    obtain ⟨name, rfl⟩ := named
    refine (TypedScope.upheld m c).run rfl fun type mem => ?_
    obtain ⟨name, -, rfl⟩ := Option.map_eq_some_iff.1 (Option.mem_toList.1 mem)
    exact (TypedScope.upheld m c).finds name
  | addArgument r | setReturn r | runInCallerThread r | setHidden r | setBody r =>
    obtain ⟨c, hr⟩ := r.exists_in
    exact (TypedScope.upheld m c).run hr fun _ mem => nomatch mem
  | declareOperation | declareHiddenOperation | portDriven | fixInitialState | needConfiguration
  | addHookCode | addHeaderCode | addImplementationCode | addHandler | addExtension =>
    exact (TypedScope.upheld m _).run rfl fun _ mem => nomatch mem
  | newOperation => exact (TypedScope.upheld m ⟨0⟩).run trivial fun _ mem => nomatch mem
  | _ => exact named.elim

/-- A call that gives types by name keeps the types of all components registered. -/
theorem Call.keeps_typed {m : ProjectId} {call : Call} (named : call.NamesTypes m) :
    Keeps (TypedScope m) (fun _ => False) call.run fun _ _ => True := by
  cases call with
  | declare d => exact Declaration.keeps_typed named
  | useLibrary p name =>
    obtain rfl : p = m := named
    refine Keeps.map (Q := fun _ _ => True) (fun s h => ?_) fun _ _ _ => trivial
    exact ((TypedScope.importable p).ends_usingLibrary h ⟨h.made, h.scope⟩ name).mono
      (fun _ _ ht => ⟨ht, trivial⟩) fun _ _ ht => ht
  | _ => exact named.elim

/-- After a run on a project whose calls give types by name, and none of which fails, each opaque
type of the registry has a marshalling rule in a visible typekit, and the types of the interfaces of
all components are registered. So the check of the opaque types of a component fails only for types
that are not found, and exactly if the closure of a type of its interface names a type that is not
registered. -/
theorem checkOpaques_complete (files : Files.Tree) (packageMaps : List PackageMap) (name : String)
    (baseDir : Files.Path) (packages : PackageMapId) (calls : List Call)
    (named : ∀ call ∈ calls, call.NamesTypes ⟨0⟩) (s : Store)
    (run : calls.forM Call.run (Store.withMain { files, packageMaps } name baseDir packages none) =
        .ok () s) :
    (∀ t ∈ (s.registryOf ⟨0⟩).types, t.isOpaque = true →
      ∃ id ∈ s.visibleTypekits ⟨0⟩, ∃ rule ∈ (s.typekit id).opaques, rule.typeName = t.name) ∧
    (∀ c, ∀ type ∈ s.interfaceTypes c, (s.registryOf ⟨0⟩).contains type = true) ∧
    ∀ c, (∀ fault t, c.checkOpaques s = .error fault t → ∃ missing, fault = .typeNotFound missing) ∧
      ((∃ missing t, c.checkOpaques s = .error (.typeNotFound missing) t) ↔
        ∃ type ∈ s.interfaceTypes c, ∃ dependency, (s.registryOf ⟨0⟩).Reaches type dependency ∧
          (s.registryOf ⟨0⟩).contains dependency = false) := by
  have start := TypedScope.withMain_of_empty files packageMaps name baseDir packages
  have kept : Keeps (TypedScope ⟨0⟩) (fun _ => False) (calls.forM Call.run) fun _ _ => True :=
    keeps_forM fun call hcall => Call.keeps_typed (named call hcall)
  have h : TypedScope ⟨0⟩ s := ((kept _ start).of_ok run).1
  refine ⟨h.rules, fun c type mem => h.contains_interfaceType mem, fun c => ?_⟩
  rw [c.checkOpaques_eq]
  cases rules : s.interfaceRules c with
  | ok given =>
    refine ⟨nofun, nofun, fun ⟨type, mem, d, reaches, missing⟩ => ?_⟩
    rw [h.contains_of_interfaceRules rules mem reaches] at missing
    cases missing
  | error fault =>
    obtain ⟨type, mem, d, reaches, missing, rfl⟩ := h.interfaceRules_error rules
    refine ⟨fun fault t failed => ?_, fun _ => ⟨type, mem, d, reaches, missing⟩,
      fun _ => ⟨_, s, rfl⟩⟩
    cases failed
    exact ⟨_, rfl⟩

/-- A run that declares an opaque type, and a component with an attribute of that type. -/
def opaqueAttribute : List Call :=
  [.declare (.declareOpaque ⟨0⟩ "Handle" "int" ["handle.hpp"] false),
    .declare (.declareComponent ⟨0⟩ "Task" .framework none),
    .declare (.declareAttribute ⟨0⟩ "handle" (.named "Handle") .null none)]

/-- The run declares the opaque type and the component with its attribute. -/
theorem ends_opaqueAttribute :
    Ends (opaqueAttribute.forM Call.run) (Store.withMain {} "app" ⟨"/", []⟩ ⟨0⟩ none)
      (fun _ s => (s.interfaceTypes ⟨0⟩).toList = ["/Handle"] ∧
        (s.registryOf ⟨0⟩).find? "/Handle" = some { name := "/Handle", kind := .opaqueType })
      fun _ _ => False := by
  -- The kernel does not evaluate the closure of the opaque type, so its declaration is not run.
  generalize hstart : Store.withMain {} "app" ⟨"/", []⟩ ⟨0⟩ none = start
  have declared := ProjectId.ends_declareOpaque_initial hstart ["handle.hpp"] false
    ProjectId.typeDef_handle (ProjectId.find?_handle_initial hstart)
    (ProjectId.get_int_initial hstart)
  refine ends_bind.2 (ends_map.2 (declared.mono ?_ fun _ _ h => h))
  clear declared
  rintro _ _ rfl
  subst hstart
  decide +kernel

/-- The opaque type of the attribute has a rule, so the check of the component succeeds. -/
theorem checkOpaques_complete_opaqueAttribute :
    (∀ call ∈ opaqueAttribute, call.NamesTypes ⟨0⟩) ∧
      ∃ s, opaqueAttribute.forM Call.run (Store.withMain {} "app" ⟨"/", []⟩ ⟨0⟩ none) = .ok () s ∧
        "/Handle" ∈ s.interfaceTypes ⟨0⟩ ∧
        (∃ id ∈ s.visibleTypekits ⟨0⟩, ∃ rule ∈ (s.typekit id).opaques, rule.typeName = "/Handle") ∧
        ComponentId.checkOpaques ⟨0⟩ s = .ok () s := by
  have named : ∀ call ∈ opaqueAttribute, call.NamesTypes ⟨0⟩ := by
    simp [opaqueAttribute, Call.NamesTypes, Declaration.NamesTypes]
  obtain ⟨_, s, run, types, handle⟩ := ends_opaqueAttribute.exists_ok
  obtain ⟨rules, -, checks⟩ :=
    checkOpaques_complete {} [] "app" ⟨"/", []⟩ ⟨0⟩ opaqueAttribute named s run
  have spelled : Typename.normalize "/Handle" = "/Handle" := by decide +kernel
  have interface (type : String) : type ∈ s.interfaceTypes ⟨0⟩ ↔ type = "/Handle" := by
    rw [← NameSet.mem_toList, types, List.mem_singleton]
  refine ⟨named, s, run, (interface _).2 rfl, rules _ (Registry.mem_of_find? handle) rfl, ?_⟩
  cases check : ComponentId.checkOpaques ⟨0⟩ s with
  | ok _ t =>
    rw [ComponentId.checkOpaques_eq] at check
    split at check <;> cases check
    rfl
  | error fault t =>
    obtain ⟨missing, rfl⟩ := (checks ⟨0⟩).1 fault t check
    obtain ⟨type, mem, d, reaches, absent⟩ := (checks ⟨0⟩).2.1 ⟨missing, t, check⟩
    rw [(interface type).1 mem] at reaches
    rcases reaches.cases_head with rfl | ⟨_, ⟨t, found, dependency⟩, -⟩
    · rw [Registry.contains, spelled, handle] at absent
      cases absent
    · rw [spelled, handle] at found
      cases found
      cases dependency

end Componentry
