import Componentry.Proofs.RuledTypekits
import Componentry.Proofs.TypelistText

/-!
# The typekits that projects build

The typekit that a project builds exports canonical names of types that the project has registered,
interface types among them, and holds for each of its marshalling rules all that the type of the
rule depends on. Each single edit keeps it so, so that it holds wherever an operation fails, and
also while others extend the registry of the project. So what is generated for the typekit finds all
definitions that it asks for.
-/

namespace Componentry

/-- What a typekit exports and marshals is registered, under canonical names, with all that its
rules need. -/
structure Typekit.Consistent (k : Typekit) (r : Registry) : Prop where
  interface : ∀ n ∈ k.types.interface, n ∈ k.types.exported
  exported : ∀ n ∈ k.types.exported, Typename.normalize n = n ∧ n ∈ r.names
  distinct : (k.opaques.map (·.typeName)).Nodup
  ruled : ∀ rule ∈ k.opaques, rule.typeName ∈ r.names
  /-- The definitions are the same in both registries. -/
  needed : ∀ rule ∈ k.opaques, ∀ d, r.Reaches rule.typeName d →
    ∃ t, r.get d = .ok t ∧ k.opaqueRegistry.get d = .ok t

namespace Registry

variable {r r' : Registry}

/-- A canonical name that is registered has a definition. -/
theorem exists_get {name : String} (canonical : Typename.normalize name = name)
    (h : name ∈ r.names) :
    ∃ t, r.get name = .ok t ∧ t.name = name := by
  obtain ⟨t, mem, rfl⟩ := List.mem_map.1 h
  refine ⟨t, ?_, rfl⟩
  rw [get, canonical, find?_of_mem mem]

/-- A name that is found in a registry has the same definition wherever that definition is. -/
theorem get_of_mem {name : String} {t : TypeDef} (h : r.find? (Typename.normalize name) = some t)
    (mem : t ∈ r'.types) :
    r'.get name = .ok t := by
  rw [get, ← name_of_find? h, find?_of_mem mem]

/-- Where all names that are reached are defined, no others are reached when the registry is
extended. -/
theorem Extends.reaches (h : r.Extends r') {name d : String}
    (defined : ∀ d, r.Reaches name d → ∃ t, r.get d = .ok t) (reaches : r'.Reaches name d) :
    r.Reaches name d := by
  induction reaches with
  | refl => exact .refl
  | tail _ refers ih =>
    obtain ⟨t, found, dependency⟩ := refers
    obtain ⟨u, hu⟩ := defined _ ih
    have same : r'.find? (Typename.normalize _) = some u := h.find? (find?_of_get hu)
    obtain rfl : t = u := Option.some.inj (found.symm.trans same)
    exact ih.tail ⟨t, find?_of_get hu, dependency⟩

/-- Canonical names that are registered have definitions. -/
theorem exists_mapM_get {names : List String}
    (h : ∀ n ∈ names, Typename.normalize n = n ∧ n ∈ r.names) :
    ∃ types, names.mapM r.get = .ok types ∧ types.map (·.name) = names := by
  induction names with
  | nil => exact ⟨[], rfl, rfl⟩
  | cons name names ih =>
    obtain ⟨canonical, registered⟩ := h name List.mem_cons_self
    obtain ⟨t, ht, hname⟩ := exists_get canonical registered
    obtain ⟨types, htypes, hnames⟩ := ih fun n mem => h n (List.mem_cons_of_mem _ mem)
    refine ⟨t :: types, ?_, by rw [List.map_cons, hname, hnames]⟩
    rw [List.mapM_cons, ht, htypes]
    rfl

end Registry

namespace Typekit

variable {k : Typekit} {r r' : Registry}

/-- A typekit that was just made exports nothing. -/
theorem consistent_of_empty (types : k.types = .empty) (opaques : k.opaques = []) :
    k.Consistent r where
  interface n mem := by
    rw [types] at mem
    exact absurd mem NameSet.notMem_empty
  exported n mem := by
    rw [types] at mem
    exact absurd mem NameSet.notMem_empty
  distinct := by
    rw [opaques]
    exact .nil
  ruled rule mem := by
    rw [opaques] at mem
    cases mem
  needed rule mem := by
    rw [opaques] at mem
    cases mem

/-- A type without a rule has another name than those with one. -/
theorem ne_of_opaqueRule? {name : String} (h : k.opaqueRule? (.named name) = none)
    {rule : OpaqueRule} (mem : rule ∈ k.opaques) : rule.typeName ≠ Typename.normalize name :=
  fun same => List.find?_eq_none.1 h rule mem (beq_iff_eq.2 same)

namespace Consistent

/-- No rule marshals a type that is not registered. -/
theorem opaqueRule?_of_new (h : k.Consistent r) {name : String}
    (canonical : Typename.normalize name = name) (new : r.find? name = none) :
    k.opaqueRule? (.named name) = none := by
  rw [opaqueRule?, List.find?_eq_none, TypeRef.name, canonical]
  intro rule mem same
  exact Registry.find?_eq_none new (beq_iff_eq.1 same ▸ h.ruled rule mem)

/-- The registry may be extended. -/
theorem mono (h : k.Consistent r) (grows : r.Extends r') : k.Consistent r' where
  interface := h.interface
  exported n mem := (h.exported n mem).imp_right fun registered => grows.names registered
  distinct := h.distinct
  ruled rule mem := grows.names (h.ruled rule mem)
  needed rule mem d reaches := by
    have defined (d : String) (reaches : r.Reaches rule.typeName d) : ∃ t, r.get d = .ok t :=
      (h.needed rule mem d reaches).imp fun t ht => ht.1
    obtain ⟨t, ht, held⟩ := h.needed rule mem d (grows.reaches defined reaches)
    exact ⟨t, grows.get ht, held⟩

/-- More definitions may be held for the rules. -/
theorem withOpaqueRegistry (h : k.Consistent r) {opaqueRegistry : Registry}
    (kept : k.opaqueRegistry.Extends opaqueRegistry) : Consistent { k with opaqueRegistry } r where
  interface := h.interface
  exported := h.exported
  distinct := h.distinct
  ruled := h.ruled
  needed rule mem d reaches := (h.needed rule mem d reaches).imp fun _ ht => ⟨ht.1, kept.get ht.2⟩

/-- A registered type may be exported under its canonical name. -/
theorem withExport (h : k.Consistent r) {name : String} (canonical : Typename.normalize name = name)
    (registered : name ∈ r.names) (interface : Bool) :
    (k.withExport name interface).Consistent r where
  interface := within_withExport h.interface name interface
  exported n mem := by
    rcases NameSet.mem_insert.1 mem with rfl | mem
    · exact ⟨canonical, registered⟩
    · exact h.exported n mem
  distinct := h.distinct
  ruled := h.ruled
  needed := h.needed

/-- A rule may be added for a type that has none, if all that the type depends on is held. -/
theorem withRule (h : k.Consistent r) {rule : OpaqueRule} {types : List TypeDef}
    (canonical : Typename.normalize rule.typeName = rule.typeName)
    (unruled : k.opaqueRule? (.named rule.typeName) = none)
    (closure : r.closure rule.typeName = .ok types)
    (held : ∀ t ∈ types, t ∈ k.opaqueRegistry.types) :
    Consistent { k with opaques := k.opaques ++ [rule] } r := by
  have supplied (d : String) (reaches : r.Reaches rule.typeName d) :
      ∃ t, r.get d = .ok t ∧ k.opaqueRegistry.get d = .ok t := by
    obtain ⟨e, he, mem⟩ := (Registry.closure_ok closure).2 d reaches
    have found := Registry.find?_of_entry he
    exact ⟨e.1, Registry.get_of_mem found e.2, Registry.get_of_mem found (held _ mem)⟩
  refine ⟨h.interface, h.exported, ?_, fun other mem => ?_, fun other mem => ?_⟩
  · rw [List.map_append, List.nodup_append]
    refine ⟨h.distinct, List.nodup_singleton _, ?_⟩
    rintro _ old _ new rfl
    obtain ⟨other, mem, same⟩ := List.mem_map.1 old
    exact ne_of_opaqueRule? unruled mem
      ((same.trans (List.mem_singleton.1 new)).trans canonical.symm)
  · rcases List.mem_append.1 mem with old | new
    · exact h.ruled other old
    · obtain ⟨t, ht, -⟩ := supplied _ .refl
      rw [List.mem_singleton.1 new, ← canonical]
      exact Registry.mem_names_of_find? (Registry.find?_of_get ht)
  · rcases List.mem_append.1 mem with old | new
    · exact h.needed other old
    · rw [List.mem_singleton.1 new]
      exact supplied

/-- Each edit keeps a typekit and its registry consistent. -/
theorem edit {kr kr' : Typekit × Registry} (h : kr.1.Consistent kr.2) (step : Edit kr kr') :
    kr'.1.Consistent kr'.2 := by
  cases step with
  | register opaqueType added => exact h.mono ⟨_, added.symm⟩
  | exported interface canonical known =>
    exact h.withExport canonical (Registry.mem_names_of_find? known) interface
  | need kept => exact h.withOpaqueRegistry kept
  | rule canonical unruled closure kept _ held =>
    exact (h.withOpaqueRegistry kept).withRule canonical unruled closure held

/-- Edits keep a typekit consistent. -/
theorem edits {kr kr' : Typekit × Registry} (h : kr.1.Consistent kr.2) (steps : Edits kr kr') :
    kr'.1.Consistent kr'.2 := by
  induction steps with
  | refl => exact h
  | tail _ step ih => exact ih.edit step

/-- The definitions of what is exported, and those of the interface types, can be had. -/
theorem exists_exportedTypes (h : k.Consistent r) :
    (∃ types, k.exportedTypes r = .ok types ∧ types.map (·.name) = k.types.exported.toList) ∧
      ∃ types, k.interfaceTypes r = .ok types ∧ types.map (·.name) = k.types.interface.toList :=
  ⟨Registry.exists_mapM_get h.exported, Registry.exists_mapM_get
    fun n mem => h.exported n (h.interface n mem)⟩

end Consistent

end Typekit

/-- How the typekit that a project builds belongs to the project. -/
structure Store.Builds (s : Store) (p : ProjectId) (id : TypekitId) : Prop where
  made : id.index < s.typekits.length
  isMain : (s.project p).isImported = false
  registry : (s.typekit id).registry = (s.project p).registry
  consistent : (s.typekit id).Consistent (s.registry (s.project p).registry)

/-- The projects have registries, and those that build typekits build consistent ones. -/
structure OwnTypekits (s : Store) : Prop where
  registries : ∀ p, p.index < s.projects.items.length →
    (s.project p).registry.index < s.registries.length
  builds : ∀ p id, (s.project p).typekit = some id → s.Builds p id

/-- A project that was not made builds no typekit. -/
theorem Store.made_of_typekit {s : Store} {p : ProjectId} {id : TypekitId}
    (h : (s.project p).typekit = some id) :
    p.index < s.projects.items.length := by
  by_contra past
  rw [project_of_unmade past] at h
  cases h

namespace Evolved

variable {s t : Store}

/-- Every step leaves a typekit that was made as it is, or completes it, or edits it if it is not
complete. -/
theorem reworked (step : Evolved s t) {id : TypekitId} (made : id.index < s.typekits.length)
    (inRange : (s.typekit id).registry.index < s.registries.length) :
    t.typekit id = s.typekit id ∨ t.typekit id = { s.typekit id with frozen := true } ∨
      (s.typekit id).frozen = false ∧
      Typekit.Edits (s.typekit id, s.registry (s.typekit id).registry)
        (t.typekit id, t.registry (s.typekit id).registry) := by
  cases step.typekit id with
  | same h => exact .inl h
  | completed h => exact .inr (.inl h)
  | edited isOpen edits registries =>
    refine .inr (.inr ⟨isOpen, ?_⟩)
    rwa [Store.registry_of_set registries, if_pos ⟨rfl, inRange⟩]
  | loaded next | built next | builtIn next => exact absurd next (TypekitId.ne_next made)

/-- A project that builds a typekit after a step built it before, or was made before and builds an
empty one. -/
theorem typekit_of_typekit (step : Evolved s t) {p : ProjectId} {id : TypekitId}
    (own : (t.project p).typekit = some id) :
    (s.project p).typekit = some id ∨ p.index < s.projects.items.length ∧
      (s.project p).isImported = false ∧ id = ⟨s.typekits.length⟩ ∧ t.registries = s.registries ∧
      t.typekits = s.typekits ++
        [{ name := (s.project p).name, registry := (s.project p).registry }] := by
  cases step.project p with
  | made h | madeLibrary h =>
    rw [h] at own
    cases own
  | withTypekit h known _ _ isMain registries typekits =>
    rw [h] at own
    exact .inr ⟨known, isMain, (Option.some.inj own).symm, registries, typekits⟩
  | _ h =>
    rw [h] at own
    exact .inl own

/-- Every step gives the projects that it makes a registry. -/
theorem registry_made (step : Evolved s t) {p : ProjectId}
    (made : p.index < t.projects.items.length) :
    p.index < s.projects.items.length ∨ (t.project p).registry.index < t.registries.length := by
  cases step.project p with
  | same _ old => exact .inl (old made)
  | made h _ longer | madeLibrary h _ longer =>
    rw [h, longer]
    exact .inr (Nat.lt_succ_self _)
  | _ _ known => exact .inl known

end Evolved

namespace OwnTypekits

variable {s t : Store}

/-- A project keeps the typekit that it builds, and the typekit stays consistent. -/
theorem builds_of_builds (h : OwnTypekits s) (step : Evolved s t) {p : ProjectId} {id : TypekitId}
    (own : (s.project p).typekit = some id) : t.Builds p id := by
  have inRange := Store.made_of_typekit own
  have placed := step.placed.2 p inRange
  obtain ⟨made, isMain, registry, consistent⟩ := h.builds p id own
  have grown := consistent.mono (step.grows (s.project p).registry)
  refine ⟨made.trans_le step.typekits_length, ?_, ?_, ?_⟩
  · rwa [Project.isImported, placed.main]
  all_goals rw [placed.registry]
  all_goals rcases step.reworked made (registry ▸ h.registries p inRange) with
    same | completed | ⟨-, edits⟩
  · rw [same, registry]
  · rw [completed, registry]
  · rw [edits.kept.registry, registry]
  · rwa [same]
  · rw [completed]
    exact ⟨grown.interface, grown.exported, grown.distinct, grown.ruled, grown.needed⟩
  · rw [registry] at edits
    exact Typekit.Consistent.edits consistent edits

/-- Every step keeps the typekits that projects build consistent. -/
theorem evolved (h : OwnTypekits s) (step : Evolved s t) : OwnTypekits t where
  registries p made := by
    rcases step.registry_made made with old | new
    · rw [(step.placed.2 p old).registry]
      exact Nat.lt_of_lt_of_le (h.registries p old) step.registries_length
    · exact new
  builds p id own := by
    rcases step.typekit_of_typekit own with own | ⟨made, isMain, rfl, registries, typekits⟩
    · exact h.builds_of_builds step own
    · have placed := step.placed.2 p made
      have typekit : t.typekit ⟨s.typekits.length⟩ = _ :=
        (Store.typekit_of_append typekits _).trans (if_pos rfl)
      refine ⟨?_, ?_, ?_, ?_⟩
      · simp [typekits]
      · rwa [Project.isImported, placed.main]
      · rw [typekit, placed.registry]
      · rw [typekit]
        exact Typekit.consistent_of_empty rfl rfl

/-- Steps keep own typekits consistent. -/
theorem evolves (h : OwnTypekits s) (steps : Evolves s t) : OwnTypekits t := by
  induction steps with
  | refl => exact h
  | tail _ step ih => exact ih.evolved step

/-- Without projects there are no own typekits. -/
theorem of_empty (empty : s.projects = .empty) : OwnTypekits s where
  registries p made := by
    rw [empty] at made
    exact absurd made (Nat.not_lt_zero _)
  builds p id own := by
    have made := Store.made_of_typekit own
    rw [empty] at made
    exact absurd made (Nat.not_lt_zero _)

end OwnTypekits

/-- After any calls, whichever of them failed, the typekit that a project builds has the registry of
the project and is consistent with it. So the definitions of its types and the text of its typelist
can be had. Typekits and registries of others may be there from the start. -/
theorem ownTypekit_consistent (s₀ : Store) (noProjects : s₀.projects = .empty) (calls : List Call)
    (p : ProjectId) (id : TypekitId) (own : ((Call.runAll calls s₀).project p).typekit = some id) :
    let s := Call.runAll calls s₀
    let k := s.typekit id
    let r := s.registry k.registry
    k.registry = (s.project p).registry ∧ k.Consistent r ∧
      (∃ types, k.exportedTypes r = .ok types ∧ types.map (·.name) = k.types.exported.toList) ∧
      (∃ types, k.interfaceTypes r = .ok types ∧ types.map (·.name) = k.types.interface.toList) ∧
      ∃ text, k.types.serialize = .ok text := by
  intro s k r
  have steps : Evolves s₀ s := (Call.evolves_runAll (settled_of_empty noProjects) calls).2
  obtain ⟨-, -, registry, consistent⟩ :=
    ((OwnTypekits.of_empty noProjects).evolves steps).builds p id own
  rw [← registry] at consistent
  obtain ⟨exported, interface⟩ := consistent.exists_exportedTypes
  exact ⟨registry, consistent, exported, interface, _,
    Typelist.serialize_of_subset consistent.interface⟩

/-- A run that declares an opaque type, and exports further types up to one that is not
registered. -/
def halfExported : List Call :=
  [.newProject "app" ⟨"/", []⟩ ⟨0⟩ none none,
    .declare (.declareOpaque ⟨0⟩ "Handle" "int" ["handle.hpp"] false),
    .declare (.exportTypes ⟨1⟩ ["double", "missing", "float"] false),
    .freeze ⟨0⟩]

/-- What was exported before the call failed is kept. -/
theorem runAll_halfExported :
    ((Call.runAll halfExported {}).project ⟨0⟩).typekit = some ⟨1⟩ ∧
      ((Call.runAll halfExported {}).typekit ⟨1⟩).types.exported.toList = ["/Handle", "/double"] ∧
      ((Call.runAll halfExported {}).typekit ⟨1⟩).opaques.map (·.typeName) = ["/Handle"] := by
  -- The kernel does not evaluate the closure of the opaque type, so its declaration is not run.
  generalize hstart : Store.withMain {} "app" ⟨"/", []⟩ ⟨0⟩ none = start
  rw [halfExported, ProjectId.runAll_declareOpaque_initial hstart _ _ ProjectId.typeDef_handle
    (ProjectId.find?_handle_initial hstart) (ProjectId.get_int_initial hstart)]
  subst hstart
  decide +kernel

/-- The typekit of the run is consistent, and the definitions of its two types can be had. -/
theorem ownTypekit_consistent_halfExported :
    ({} : Store).projects = .empty ∧
      ((Call.runAll halfExported {}).project ⟨0⟩).typekit = some ⟨1⟩ ∧
      let s := Call.runAll halfExported {}
      let k := s.typekit ⟨1⟩
      k.Consistent (s.registry k.registry) ∧
        ∃ types, k.exportedTypes (s.registry k.registry) = .ok types ∧
          types.map (·.name) = ["/Handle", "/double"] := by
  obtain ⟨own, exported, -⟩ := runAll_halfExported
  obtain ⟨-, consistent, ⟨types, found, names⟩, -⟩ :=
    ownTypekit_consistent {} rfl halfExported ⟨0⟩ ⟨1⟩ own
  exact ⟨rfl, own, consistent, types, found, names.trans exported⟩

end Componentry
