import Componentry.Proofs.BaseClassParts
import Componentry.Proofs.MinimalRegistries
import Componentry.Proofs.OpaqueChecks

/-!
# Headers of base classes

The base class of a component includes the header of the class that it derives from, those of its
ancestors in used libraries, those of the typekits that export a type of one of its members or of
its ancestors, and those that the marshalling of the opaque types asks for that such a type depends
on. Headers that are needed twice are left out where they would come again, so none of them is lost.
Of the typekits, no others are included.
-/

namespace Componentry

/-- Whether a member that a component declares itself has a type. A port of no type may have the
empty name for it. -/
inductive Interface.Uses (i : Interface) : String → Prop where
  | ofPort {p : Port} {type : String} (mem : p ∈ i.ports) (typed : p.typeName = some type)
    (named : type ≠ "") : Uses i type
  | ofDynamicPort {p : Port} {type : String} (mem : p ∈ i.dynamicPorts)
      (typed : p.typeName = some type) (named : type ≠ "") :
      Uses i type
  | ofProperty {x : Setting} (mem : x ∈ i.properties) : Uses i x.typeName
  | ofAttribute {x : Setting} (mem : x ∈ i.attributes) : Uses i x.typeName
  | ofArgument {o : Operation} {a : Argument} (mem : o ∈ i.operations) (among : a ∈ o.arguments) :
    Uses i a.typeName
  | ofResult {o : Operation} {type : String} (mem : o ∈ i.operations)
    (typed : o.returnType = some type) : Uses i type

/-- A port uses its type, if it has one. -/
theorem Port.mem_usedTypes {p : Port} {type : String} :
    type ∈ p.usedTypes ↔ p.typeName = some type ∧ type ≠ "" := by
  simp [usedTypes, NameSet.mem_ofList]

/-- An operation uses the types of its arguments and the one that it returns. -/
theorem Operation.mem_usedTypes {o : Operation} {type : String} :
    type ∈ o.usedTypes ↔ (∃ a ∈ o.arguments, a.typeName = type) ∨ o.returnType = some type := by
  simp [usedTypes, NameSet.mem_ofList]

/-- The types of the members of a component are those that they expose. -/
theorem Interface.exposes_iff_uses {i : Interface} {type : String} :
    i.Exposes type ↔ i.Uses type := by
  rw [exposes_iff]
  constructor
  · intro h
    rcases h with ⟨o, mem, used⟩ | ⟨x, mem, rfl⟩ | ⟨x, mem, rfl⟩ | ⟨p, mem, used⟩ | ⟨p, mem, used⟩
    · rcases Operation.mem_usedTypes.1 used with ⟨a, among, rfl⟩ | typed
      · exact .ofArgument mem among
      · exact .ofResult mem typed
    · exact .ofProperty mem
    · exact .ofAttribute mem
    · exact .ofPort mem (Port.mem_usedTypes.1 used).1 (Port.mem_usedTypes.1 used).2
    · exact .ofDynamicPort mem (Port.mem_usedTypes.1 used).1 (Port.mem_usedTypes.1 used).2
  · intro h
    cases h with
    | ofPort mem typed named =>
      exact .inr (.inr (.inr (.inl ⟨_, mem, Port.mem_usedTypes.2 ⟨typed, named⟩⟩)))
    | ofDynamicPort mem typed named =>
      exact .inr (.inr (.inr (.inr ⟨_, mem, Port.mem_usedTypes.2 ⟨typed, named⟩⟩)))
    | ofProperty mem => exact .inr (.inl ⟨_, mem, rfl⟩)
    | ofAttribute mem => exact .inr (.inr (.inl ⟨_, mem, rfl⟩))
    | ofArgument mem among => exact .inl ⟨_, mem, Operation.mem_usedTypes.2 (.inl ⟨_, among, rfl⟩)⟩
    | ofResult mem typed => exact .inl ⟨_, mem, Operation.mem_usedTypes.2 (.inr typed)⟩

/-- Whether a member of a component or of one of its ancestors has a type. -/
def Store.Uses (s : Store) (c : ComponentId) (type : String) : Prop :=
  ∃ d, (d = c ∨ d ∈ s.lineage.ancestors c) ∧ (s.interface d).Uses type

/-- The types of an interface are those that it or an ancestor uses. -/
theorem Store.mem_interfaceTypes_iff_uses {s : Store} {c : ComponentId} {type : String} :
    type ∈ s.interfaceTypes c ↔ s.Uses c type := by
  rw [mem_interfaceTypes, Uses]
  constructor
  · intro h
    obtain ⟨d, mem, exposes⟩ := h
    have inChain : d = c ∨ d ∈ s.lineage.ancestors c := by simpa [Lineage.chain, or_comm] using mem
    exact ⟨d, inChain, Interface.exposes_iff_uses.1 exposes⟩
  · intro h
    obtain ⟨d, inChain, uses⟩ := h
    have mem : d ∈ s.lineage.chain c := by simpa [Lineage.chain, or_comm] using inChain
    exact ⟨d, mem, Interface.exposes_iff_uses.2 uses⟩

namespace Generation

/-- What is new among more names comes after those that were there before, and nothing is lost. -/
theorem exists_appendNew (names more : List String) :
    ∃ new, appendNew names more = names ++ new ∧ new ⊆ more ∧ more ⊆ appendNew names more := by
  induction more generalizing names with
  | nil => exact ⟨[], by simp [appendNew]⟩
  | cons name more ih =>
    by_cases known : name ∈ names
    · have skips : appendNew names (name :: more) = appendNew names more := by
        simp [appendNew, known]
      obtain ⟨new, same, sub, held⟩ := ih names
      rw [skips]
      refine ⟨new, same, List.subset_cons_of_subset _ sub, List.cons_subset.2 ⟨?_, held⟩⟩
      rw [same]
      exact List.mem_append_left new known
    · have adds : appendNew names (name :: more) = appendNew (names ++ [name]) more := by
        simp [appendNew, known]
      obtain ⟨new, same, sub, held⟩ := ih (names ++ [name])
      rw [adds]
      refine ⟨name :: new,
        by simp [same], List.cons_subset_cons _ sub, List.cons_subset.2 ⟨?_, held⟩⟩
      simp [same]

section Headers

variable (s : Store) (c : ComponentId)

/-- The header of the types of a typekit. -/
def typesHeader (k : Typekit) : String :=
  k.name ++ "/Types.hpp"

/-- Whether a typekit has to be included by a component: it has a header, and exports a type that
the component uses. -/
def Supplies (id : TypekitId) : Prop :=
  id ∈ s.visibleTypekits (s.interface c).project ∧ (s.typekit id).isVirtual = false ∧
    ∃ type, s.Uses c type ∧ (s.typekit id).includes (.named type) = true

/-- Whether a definition is that of an opaque type that a type depends on which a component uses. -/
def ReachesOpaque (t : TypeDef) : Prop :=
  t.isOpaque = true ∧ ∃ type, s.Uses c type ∧
    (s.registryOf (s.interface c).project).ReachesType type t

/-- Whether headers are those that the base class of a component needs, and have the typekits for
one of their parts. -/
structure CompleteIncludes (headers : List String) : Prop where
  superclass : s.lineage.superclassHeader c ∈ headers
  ancestors :
    ∀ library ∈ (s.scope (s.interface c).project).usedLibraries, ∀ a ∈ s.lineage.ancestors c,
    a ∈ (s.project library).components → (s.interface a).header ∈ headers
  typekits : ∀ id, Supplies s c id → typesHeader (s.typekit id) ∈ headers
  rules : ∀ t, ReachesOpaque s c t →
    ∃ rule, s.opaqueRule (s.interface c).project (.named t.name) = .ok rule ∧ rule.headers ⊆ headers
  /-- What comes before and after the typekits is of the other kinds. -/
  parts : ∃ (before : List String) (suppliers : List TypekitId) (after : List String),
    headers = before ++ suppliers.map (fun id => typesHeader (s.typekit id)) ++ after ∧
    (∀ h ∈ before, h = s.lineage.superclassHeader c ∨
      ∃ library ∈ (s.scope (s.interface c).project).usedLibraries,
        ∃ d ∈ (s.project library).components,
        s.lineage.implements c (s.interface d).name = true ∧ h = (s.interface d).header) ∧
    (∀ id ∈ suppliers, Supplies s c id) ∧
    ∀ h ∈ after, ∃ t rule, ReachesOpaque s c t ∧
      s.opaqueRule (s.interface c).project (.named t.name) = .ok rule ∧ h ∈ rule.headers

variable {s c}

/-- The required typekits are those that supply a type, but for that of the framework. -/
theorem mem_requiredTypekits {id : TypekitId} :
    id ∈ ((s.requiredTypekits (s.interface c).project c).filter fun k => !(s.typekit k).isVirtual) ↔
      Supplies s c id := by
  simp only [Store.requiredTypekits, List.mem_filter, List.any_eq_true, NameSet.mem_toList,
    Store.mem_interfaceTypes_iff_uses, Bool.not_eq_true', Supplies]
  grind

/-- The rules for the types of a component are those of the opaque types that they depend on. -/
theorem mem_interfaceRules {rules : List OpaqueRule} (given : s.interfaceRules c = .ok rules) :
    (∀ t, ReachesOpaque s c t →
      ∃ rule ∈ rules, s.opaqueRule (s.interface c).project (.named t.name) = .ok rule) ∧
      ∀ rule ∈ rules, ∃ t, ReachesOpaque s c t ∧
        s.opaqueRule (s.interface c).project (.named t.name) = .ok rule := by
  obtain ⟨byType, each, flattened⟩ := of_bind_ok given
  cases flattened
  -- The opaque types that one of the types depends on, and the rules that are found for them.
  have opaques {type : String} {found : List OpaqueRule} (h : (do
      let opaques ← (s.registryOf (s.interface c).project).containedOpaques type
      opaques.toList.mapM fun name => s.opaqueRule (s.interface c).project (.named name)) =
          .ok found) :
      (∀ t, t.isOpaque = true → (s.registryOf (s.interface c).project).ReachesType type t →
        ∃ rule ∈ found, s.opaqueRule (s.interface c).project (.named t.name) = .ok rule) ∧
      ∀ rule ∈ found, ∃ t, t.isOpaque = true ∧
        (s.registryOf (s.interface c).project).ReachesType type t ∧
        s.opaqueRule (s.interface c).project (.named t.name) = .ok rule := by
    obtain ⟨names, contained, ruled⟩ := of_bind_ok h
    obtain ⟨types, closure, -⟩ := of_bind_ok contained
    obtain ⟨names', contained', mem⟩ := Registry.containedOpaques_of_closure closure
    obtain rfl : names = names' := Except.ok.inj (contained.symm.trans contained')
    constructor
    · intro t isOpaque reaches
      exact (mem_of_mapM_ok ruled).1 t.name
        (NameSet.mem_toList.2 ((mem t.name).2 ⟨t, reaches, isOpaque, rfl⟩))
    · intro rule hrule
      obtain ⟨name, among, found⟩ := (mem_of_mapM_ok ruled).2 rule hrule
      obtain ⟨t, reaches, isOpaque, rfl⟩ := (mem name).1 (NameSet.mem_toList.1 among)
      exact ⟨t, isOpaque, reaches, found⟩
  constructor
  · rintro t ⟨isOpaque, type, uses, reaches⟩
    obtain ⟨found, mem, h⟩ :=
      (mem_of_mapM_ok each).1 type (NameSet.mem_toList.2 (Store.mem_interfaceTypes_iff_uses.2 uses))
    obtain ⟨rule, hrule, given⟩ := (opaques h).1 t isOpaque reaches
    exact ⟨rule, List.mem_flatten.2 ⟨found, mem, hrule⟩, given⟩
  · intro rule hrule
    obtain ⟨found, mem, among⟩ := List.mem_flatten.1 hrule
    obtain ⟨type, ofType, h⟩ := (mem_of_mapM_ok each).2 found mem
    obtain ⟨t, isOpaque, reaches, given⟩ := (opaques h).2 rule among
    exact ⟨t, ⟨isOpaque, type, Store.mem_interfaceTypes_iff_uses.1 (NameSet.mem_toList.1 ofType),
      reaches⟩, given⟩

/-- The headers from used libraries are those of their components that a component is, or derives
from, by their names. -/
theorem mem_libraryHeaders {h : String} :
    (h ∈ (s.requiredLibraries (s.interface c).project c).flatMap fun library =>
      ((s.project library).components.filter
        fun d => s.lineage.implements c (s.interface d).name).map fun d => (s.interface d).header) ↔
    ∃ library ∈ (s.scope (s.interface c).project).usedLibraries,
      ∃ d ∈ (s.project library).components,
      s.lineage.implements c (s.interface d).name = true ∧ h = (s.interface d).header := by
  simp only [Store.requiredLibraries, List.mem_flatMap, List.mem_map, List.mem_filter,
    List.any_eq_true]
  constructor
  · intro ⟨library, ⟨used, _⟩, d, ⟨listed, implements⟩, same⟩
    exact ⟨library, used, d, listed, implements, same.symm⟩
  · intro ⟨library, used, d, listed, implements, same⟩
    exact ⟨library, ⟨used, d, listed, implements⟩, d, ⟨listed, implements⟩, same.symm⟩

/-- A component implements all its ancestors. -/
theorem implements_ancestor {a : ComponentId} (h : a ∈ s.lineage.ancestors c) :
    s.lineage.implements c (s.interface a).name = true := by
  have interface : s.lineage.interface a = s.interface a := s.components.interface_lineage a
  have named : ((s.lineage.ancestors c).any
      fun b => (s.lineage.interface b).name == (s.interface a).name) = true :=
    List.any_eq_true.2 ⟨a, h, by rw [interface, beq_self_eq_true]⟩
  rw [Lineage.implements, named, Bool.or_true]

/-- The headers that are given for a base class are all that it needs. -/
theorem completeIncludes_of_includes {headers : List String} (given : includes s c = .ok headers) :
    CompleteIncludes s c headers := by
  obtain ⟨rules, ofRules, made⟩ := of_bind_ok given
  cases made
  obtain ⟨ruled, fromRules⟩ := mem_interfaceRules ofRules
  let libraries := (s.requiredLibraries (s.interface c).project c).flatMap fun library =>
    ((s.project library).components.filter fun d => s.lineage.implements c (s.interface d).name).map
      fun d => (s.interface d).header
  let suppliers := (s.requiredTypekits (s.interface c).project c).filter fun k =>
    !(s.typekit k).isVirtual
  let typekits := suppliers.map fun id => typesHeader (s.typekit id)
  obtain ⟨fresh, before, freshSub, held⟩ :=
    exists_appendNew [s.lineage.superclassHeader c] libraries
  obtain ⟨new, all, newSub, kept⟩ :=
    exists_appendNew (appendNew [s.lineage.superclassHeader c] libraries ++ typekits)
      (rules.flatMap (·.headers))
  change CompleteIncludes s c
    (appendNew (appendNew [s.lineage.superclassHeader c] libraries ++ typekits)
    (rules.flatMap (·.headers)))
  have front : ∀ h ∈ appendNew [s.lineage.superclassHeader c] libraries ++ typekits,
      h ∈ appendNew (appendNew [s.lineage.superclassHeader c] libraries ++ typekits)
        (rules.flatMap (·.headers)) := by
    intro h mem
    rw [all]
    exact List.mem_append_left new mem
  constructor
  · apply front
    simp [before]
  · intro library used a ancestor listed
    apply front
    apply List.mem_append_left
    exact held (mem_libraryHeaders.2 ⟨library, used, a, listed, implements_ancestor ancestor, rfl⟩)
  · intro id supplies
    apply front
    apply List.mem_append_right
    exact List.mem_map_of_mem (mem_requiredTypekits.2 supplies)
  · intro t reaches
    obtain ⟨rule, mem, found⟩ := ruled t reaches
    refine ⟨rule, found, fun h among => kept ?_⟩
    exact List.mem_flatMap.2 ⟨rule, mem, among⟩
  · refine ⟨appendNew [s.lineage.superclassHeader c] libraries, suppliers, new, all, ?_, ?_, ?_⟩
    · intro h mem
      rw [before] at mem
      rcases List.mem_append.1 mem with first | later
      · exact .inl (List.mem_singleton.1 first)
      · exact .inr (mem_libraryHeaders.1 (freshSub later))
    · intro id mem
      exact mem_requiredTypekits.1 mem
    · intro h mem
      obtain ⟨rule, among, asked⟩ := List.mem_flatMap.1 (newSub mem)
      obtain ⟨t, reaches, found⟩ := fromRules rule among
      exact ⟨t, rule, reaches, found, asked⟩

end Headers

/-- The includes of a base class are those that are computed for it. -/
theorem includes_of_baseClass {s : Store} {c : ComponentId} {k : Contribution} {b : BaseClass}
    (made : baseClass s c k = .ok b) : includes s c = .ok b.includes := by
  obtain ⟨headers, given, rest⟩ := of_bind_ok made
  obtain ⟨_, -, rest⟩ := of_bind_ok rest
  obtain ⟨_, -, rest⟩ := of_bind_ok rest
  obtain ⟨_, -, rest⟩ := of_bind_ok rest
  obtain ⟨_, -, rest⟩ := of_bind_ok rest
  obtain ⟨_, -, rest⟩ := of_bind_ok rest
  cases rest
  exact given

/-- When the base class of a component is made, it includes all headers that it needs, and no
typekit that exports none of the types that the component and its ancestors use. -/
theorem baseClass_includes {s : Store} {c : ComponentId} {k : Contribution} {b : BaseClass}
    (made : baseClass s c k = .ok b) : CompleteIncludes s c b.includes :=
  completeIncludes_of_includes (includes_of_baseClass made)

/-- An opaque type is declared, a component with an attribute of that type, and one that derives
from it. -/
def inheritedHandle : List Call :=
  [.newProject "app" ⟨"/", []⟩ ⟨0⟩ none none,
    .declare (.declareOpaque ⟨0⟩ "Handle" "int" ["handle.hpp"] false),
    .declare (.declareComponent ⟨0⟩ "Task" .framework none),
    .declare (.declareAttribute ⟨0⟩ "handle" (.named "Handle") .null none),
    .declare (.declareComponent ⟨0⟩ "Sub" (.given ⟨0⟩) none)]

/-- What the headers of the second component are made of. -/
theorem runAll_inheritedHandle :
    let s := Call.runAll inheritedHandle {}
    (s.component ⟨1⟩).code.hooks.length = 0 ∧ (s.interfaceTypes ⟨1⟩).toList = ["/Handle"] ∧
      (s.interface ⟨1⟩).project = ⟨0⟩ ∧
      (s.registryOf ⟨0⟩).find? "/Handle" = some { name := "/Handle", kind := .opaqueType } ∧
      (s.opaqueRule ⟨0⟩ (.named "/Handle")).toOption =
        some ⟨"/Handle", "/int", false, ["handle.hpp"]⟩ ∧
      s.lineage.superclassHeader ⟨1⟩ = "app/Task.hpp" ∧ (s.scope ⟨0⟩).usedLibraries = [] ∧
      ((s.requiredTypekits ⟨0⟩ ⟨1⟩).filter
        fun k => !(s.typekit k).isVirtual).map (fun k => (s.typekit k).name ++ "/Types.hpp") =
        ["app/Types.hpp"] := by
  -- The kernel does not evaluate the closure of the opaque type, so its declaration is not run.
  generalize hstart : Store.withMain {} "app" ⟨"/", []⟩ ⟨0⟩ none = start
  rw [inheritedHandle, ProjectId.runAll_declareOpaque_initial hstart _ _ ProjectId.typeDef_handle
    (ProjectId.find?_handle_initial hstart) (ProjectId.get_int_initial hstart)]
  subst hstart
  decide +kernel

/-- The base class of the second component includes what the type of the inherited attribute
needs. -/
theorem baseClass_includes_inheritedHandle :
    ∃ b, baseClass (Call.runAll inheritedHandle {}) ⟨1⟩ {} = .ok b ∧
      b.includes = ["app/Task.hpp", "app/Types.hpp", "handle.hpp"] ∧
      CompleteIncludes (Call.runAll inheritedHandle {}) ⟨1⟩ b.includes := by
  obtain ⟨bare, types, home, found, ruled, superclass, unused, suppliers⟩ := runAll_inheritedHandle
  generalize Call.runAll inheritedHandle {} = s at *
  have spelled : Typename.normalize "/Handle" = "/Handle" := by decide +kernel
  have closure :
      (s.registryOf ⟨0⟩).closure "/Handle" = .ok [{ name := "/Handle", kind := .opaqueType }] :=
    Registry.closure_of_leaf (spelled.symm ▸ found) rfl
  have rule :
      s.opaqueRule ⟨0⟩ (.named "/Handle") = .ok ⟨"/Handle", "/int", false, ["handle.hpp"]⟩ := by
    cases h : s.opaqueRule ⟨0⟩ (.named "/Handle") with
    | ok rule =>
      rw [h] at ruled
      exact congrArg _ (Option.some.inj ruled)
    | error fault =>
      rw [h] at ruled
      cases ruled
  have opaques : (s.registryOf ⟨0⟩).containedOpaques "/Handle" = .ok ⟨["/Handle"], by simp⟩ := by
    rw [Registry.containedOpaques, closure]
    rfl
  have rules : s.interfaceRules ⟨1⟩ = .ok [⟨"/Handle", "/int", false, ["handle.hpp"]⟩] := by
    simp [Store.interfaceRules, home, types, opaques, rule, bind, Except.bind, pure, Except.pure]
  have headers : includes s ⟨1⟩ = .ok ["app/Task.hpp", "app/Types.hpp", "handle.hpp"] := by
    rw [includes, home, rules, superclass, suppliers, Store.requiredLibraries, unused]
    rfl
  have hooks : (s.component ⟨1⟩).code.hooks = [] := List.eq_nil_of_length_eq_zero bare
  obtain ⟨b, made⟩ := (exists_baseClass_iff (k := {})).2 ⟨⟨_, headers⟩, by simp [pieces, hooks]⟩
  have same := (includes_of_baseClass made).symm.trans headers
  exact ⟨b, made, Except.ok.inj same, baseClass_includes made⟩

end Generation

end Componentry
