import Componentry.Proofs.BaseClassIncludes
import Componentry.Proofs.FrozenModels
import Componentry.Proofs.TypekitUses
import Componentry.Validation

/-!
# Internal types

The report on a project names the types of interfaces that are internal to typekits. It asks the
typekits visible from the project, besides the one built into the framework, and names a type for a
component if one of them exports it and none exports it for interfaces. Whether a type may be used
in an interface is answered by all visible typekits. So the report names no type that may be used,
but for those that the framework itself has for interfaces.
-/

namespace Componentry

namespace Typekit

/-- Whether a typekit exports its interface types and, if it is built into the framework, is as it
was made. -/
structure Sound (k : Typekit) : Prop where
  within : ∀ n ∈ k.types.interface, n ∈ k.types.exported
  builtIn : k.isVirtual = true → ∃ name registry, k = newVirtual name registry .standard

/-- A typekit that is not built into the framework is sound if it exports its interface types. -/
theorem Sound.of_plain {k : Typekit} (plain : k.isVirtual = false)
    (within : ∀ n ∈ k.types.interface, n ∈ k.types.exported) : k.Sound where
  within := within
  builtIn isVirtual := absurd isVirtual (by simp [plain])

/-- The typekit of the framework is sound. -/
theorem sound_newVirtual (name : String) (registry : RegistryId) :
    (newVirtual name registry .standard).Sound where
  within := by
    change ∀ n ∈ (newVirtual "" ⟨0⟩ .standard).types.interface,
      n ∈ (newVirtual "" ⟨0⟩ .standard).types.exported
    rw [← NameSet.subset_iff]
    decide +kernel
  builtIn _ := ⟨name, registry, rfl⟩

/-- The interface types of the typekit of the framework are those built into it. -/
theorem interface_newVirtual (name : String) (registry : RegistryId) :
    (newVirtual name registry .standard).types.interface.toList = virtualInterface := by
  change (newVirtual "" ⟨0⟩ .standard).types.interface.toList = virtualInterface
  decide +kernel

/-- The typekits built into the framework have the interface types of the framework. -/
theorem Sound.isInterfaceType_iff {k : Typekit} (h : k.Sound) (isVirtual : k.isVirtual = true)
    (type : TypeRef) :
    k.isInterfaceType type = true ↔ type.name ∈ virtualInterface := by
  obtain ⟨name, registry, rfl⟩ := h.builtIn isVirtual
  rw [isInterfaceType, decide_eq_true_iff, ← interface_newVirtual name registry]
  rfl

/-- A typekit that may be edited stays sound. -/
theorem Sound.edits {k : Typekit} (h : k.Sound) (isOpen : k.frozen = false) {r : Registry}
    {kr : Typekit × Registry} (edits : Edits (k, r) kr) : kr.1.Sound := by
  have plain : k.isVirtual = false := by
    by_contra isVirtual
    obtain ⟨name, registry, rfl⟩ := h.builtIn (by simpa using isVirtual)
    cases isOpen
  exact .of_plain (edits.kept.isVirtual.trans plain) (edits.within h.within)

end Typekit

namespace Store

/-- The typekits are sound, and every project that is not imported uses one that is built into the
framework. -/
structure FrameworkTypekits (s : Store) : Prop where
  sound : ∀ id, (s.typekit id).Sound
  used : ∀ p, p.index < s.projects.items.length → (s.project p).isImported = false →
    ∃ id ∈ (s.project p).usedTypekits, (s.typekit id).isVirtual = true

/-- Whether no project lists a component twice. -/
def ListedOnce (s : Store) : Prop :=
  ∀ p, (s.project p).components.Nodup

end Store

namespace Evolved

variable {s t : Store}

/-- Every step leaves a typekit that is built into the framework one. -/
theorem isVirtual (step : Evolved s t) {id : TypekitId} (h : (s.typekit id).isVirtual = true) :
    (t.typekit id).isVirtual = true := by
  have made : id.index < s.typekits.length := by
    by_contra past
    rw [Store.typekit_of_unmade past] at h
    cases h
  exact (step.lasts (TypekitId.ne_next made)).isVirtual.trans h

/-- Every step leaves all typekits sound. -/
theorem sound (step : Evolved s t) (h : ∀ id, (s.typekit id).Sound) (id : TypekitId) :
    (t.typekit id).Sound := by
  cases step.typekit id with
  | same kept =>
    rw [kept]
    exact h id
  | completed changed =>
    rw [changed]
    refine ⟨(h id).within, fun isVirtual => ?_⟩
    obtain ⟨name, registry, made⟩ := (h id).builtIn isVirtual
    exact ⟨name, registry, by rw [made]; rfl⟩
  | edited isOpen edits => exact (h id).edits isOpen edits
  | loaded _ _ _ _ plain within => exact .of_plain plain within
  | built _ made =>
    rw [made]
    exact .of_plain rfl fun n mem => absurd mem NameSet.notMem_empty
  | builtIn _ made =>
    rw [made]
    exact Typekit.sound_newVirtual _ _

/-- Every step leaves a typekit of the framework with each project that is not imported. -/
theorem frameworkTypekits (step : Evolved s t) (h : s.FrameworkTypekits) : t.FrameworkTypekits where
  sound := step.sound h.sound
  used p made own := by
    by_cases old : p.index < s.projects.items.length
    · have before : (s.project p).isImported = false := by
        rwa [Project.isImported, (step.placed.2 p old).main] at own
      obtain ⟨id, mem, isVirtual⟩ := h.used p old before
      exact ⟨id, (step.equipped old).usedTypekits mem, step.isVirtual isVirtual⟩
    -- A project of its own is made together with a typekit that is built into the framework.
    · cases step.project p with
      | same _ older => exact absurd (older made) old
      | made changed _ _ builtIn =>
        rw [changed]
        exact ⟨_, List.mem_cons_self, by rw [builtIn]; rfl⟩
      | madeLibrary changed =>
        rw [changed] at own
        cases own
      | _ _ known => exact absurd known old

/-- Every step lists in a project the components that it listed before, followed by the one that is
declared in it. -/
theorem components_eq (step : Evolved s t) (p : ProjectId) :
    (t.project p).components = (s.project p).components ∨ (t.project p).components = [] ∨
      (t.project p).components = (s.project p).components ++ [s.components.next] := by
  cases step.project p with
  | made h | madeLibrary h =>
    rw [h]
    exact .inr (.inl rfl)
  | withComponent h =>
    rw [h]
    exact .inr (.inr rfl)
  | _ h =>
    rw [h]
    exact .inl rfl

/-- A component that is declared is new, so it is not listed before. -/
theorem listedOnce (step : Evolved s t) (own : s.OwnComponents) (h : s.ListedOnce) :
    t.ListedOnce := by
  intro p
  rcases step.components_eq p with same | none | added
  · rw [same]
    exact h p
  · rw [none]
    exact List.nodup_nil
  · rw [added]
    refine List.nodup_append.2 ⟨h p, List.nodup_singleton _, fun c mem d last => ?_⟩
    obtain rfl := List.mem_singleton.1 last
    rintro rfl
    exact absurd (own p _ mem).1 (Nat.lt_irrefl _)

end Evolved

namespace Evolves

variable {s t : Store}

/-- Every run leaves a typekit of the framework with each project that is not imported. -/
theorem frameworkTypekits (steps : Evolves s t) (h : s.FrameworkTypekits) :
    t.FrameworkTypekits := by
  induction steps with
  | refl => exact h
  | tail _ step ih => exact step.frameworkTypekits ih

/-- Every run leaves each component listed once. -/
theorem listedOnce (steps : Evolves s t) (own : s.OwnComponents) (h : s.ListedOnce) :
    t.ListedOnce := by
  induction steps with
  | refl => exact h
  | tail before step ih => exact step.listedOnce (Evolves.ownComponents before own) ih

end Evolves

/-- At first there are no typekits and no projects. -/
theorem Store.FrameworkTypekits.of_empty {s : Store} (typekits : s.typekits = [])
    (projects : s.projects.items = []) :
    s.FrameworkTypekits where
  sound id := by
    rw [typekit, typekits]
    exact .of_plain rfl fun n mem => absurd mem NameSet.notMem_empty
  used p made := by
    rw [projects] at made
    exact absurd made (Nat.not_lt_zero _)

/-- Without projects no component is listed. -/
theorem Store.ListedOnce.of_empty {s : Store} (projects : s.projects.items = []) :
    s.ListedOnce := by
  intro p
  rw [project, Projects.get, projects]
  exact List.nodup_nil

namespace Validation

/-- Whether a typekit visible from a project, besides those built into the framework, exports a
type. -/
def Exports (s : Store) (p : ProjectId) (type : String) : Prop :=
  ∃ id ∈ s.visibleTypekits p, (s.typekit id).isVirtual = false ∧
    (s.typekit id).includes (.named type) = true

/-- Whether a typekit visible from a project, besides those built into the framework, exports a type
for interfaces. -/
def ExportsForInterfaces (s : Store) (p : ProjectId) (type : String) : Prop :=
  ∃ id ∈ s.visibleTypekits p, (s.typekit id).isVirtual = false ∧
    (s.typekit id).isInterfaceType (.named type) = true

/-- The types of the interface of a component that are internal to the typekits visible from a
project. -/
def internalTypes (s : Store) (p : ProjectId) (c : ComponentId) : List String :=
  (s.interfaceTypes c).toList.filter fun type =>
    let typekits := exporting s p type
    !(typekits.isEmpty || typekits.any (·.isInterfaceType (.named type)))

/-- What the report on a project says of a component and an internal type. -/
def internalTypeError (s : Store) (p : ProjectId) (c : ComponentId) (type : String) : String :=
  s!"{(s.interface c).name}: type {type} is internal to typekit(s) " ++
    Text.joined ", " ((exporting s p type).map (·.name))

/-- The internal types that the report on a project names, each with the component that it is
reported for. -/
def reported (s : Store) (p : ProjectId) : List (ComponentId × String) :=
  if (s.project p).isImported then []
  else (s.project p).components.flatMap fun c => (internalTypes s p c).map (c, ·)

variable {s : Store} {p : ProjectId} {c : ComponentId} {type : String}

/-- The typekits that export a type are the visible ones that include it, but for that of the
framework. -/
theorem mem_exporting {k : Typekit} : k ∈ exporting s p type ↔
    ∃ id ∈ s.visibleTypekits p, s.typekit id = k ∧ k.isVirtual = false ∧
      k.includes (.named type) = true := by
  simp only [exporting, List.mem_filter, List.mem_map, Bool.and_eq_true, Bool.not_eq_true']
  constructor
  · rintro ⟨⟨id, visible, rfl⟩, exported⟩
    exact ⟨id, visible, rfl, exported⟩
  · rintro ⟨id, visible, rfl, exported⟩
    exact ⟨⟨id, visible, rfl⟩, exported⟩

/-- No typekit is among those that export a type if none exports it. -/
theorem exporting_isEmpty_iff : (exporting s p type).isEmpty = true ↔ ¬Exports s p type := by
  rw [List.isEmpty_iff, List.eq_nil_iff_forall_not_mem]
  constructor
  · rintro none ⟨id, visible, exported⟩
    exact none _ (mem_exporting.2 ⟨id, visible, rfl, exported⟩)
  · intro none k mem
    obtain ⟨id, visible, rfl, exported⟩ := mem_exporting.1 mem
    exact none ⟨id, visible, exported⟩

/-- What a typekit has for interfaces it exports. -/
theorem exporting_any_iff (sound : ∀ id, (s.typekit id).Sound) :
    (exporting s p type).any (·.isInterfaceType (.named type)) = true ↔
      ExportsForInterfaces s p type := by
  rw [List.any_eq_true]
  constructor
  · rintro ⟨k, mem, interface⟩
    obtain ⟨id, visible, rfl, plain, -⟩ := mem_exporting.1 mem
    exact ⟨id, visible, plain, interface⟩
  · rintro ⟨id, visible, plain, interface⟩
    have exported : (s.typekit id).includes (.named type) = true := by
      rw [Typekit.includes, decide_eq_true_iff]
      exact (sound id).within _ (of_decide_eq_true interface)
    exact ⟨_, mem_exporting.2 ⟨id, visible, rfl, plain, exported⟩, interface⟩

/-- A type is reported for a component if it is used, exported, and not exported for interfaces. -/
theorem mem_internalTypes (sound : ∀ id, (s.typekit id).Sound) : type ∈ internalTypes s p c ↔
    s.Uses c type ∧ Exports s p type ∧ ¬ExportsForInterfaces s p type := by
  rw [internalTypes, List.mem_filter, ← exporting_any_iff sound,
    ← Store.mem_interfaceTypes_iff_uses]
  have nonempty : ¬(exporting s p type).isEmpty = true ↔ Exports s p type := by
    rw [exporting_isEmpty_iff, not_not]
  rw [← nonempty]
  simp only [Bool.not_eq_true', Bool.or_eq_false_iff, Bool.not_eq_true]
  rfl

/-- No type is reported twice for a component. -/
theorem nodup_internalTypes : (internalTypes s p c).Nodup :=
  (List.Pairwise.imp (fun h => String.ne_of_lt h) (s.interfaceTypes c).increasing).filter _

/-- The errors of a component are those of the types that are reported for it. -/
theorem internalTypeErrors_eq :
    internalTypeErrors s p c = (internalTypes s p c).map (internalTypeError s p c) := by
  rw [internalTypeErrors, internalTypes, ← List.filterMap_eq_filter, List.map_filterMap]
  congr
  funext type
  simp only [Option.guard, Bool.not_eq_true']
  by_cases none : ((exporting s p type).isEmpty ||
    (exporting s p type).any (·.isInterfaceType (.named type))) = true
  · simp [none]
  · simp [none, internalTypeError]

/-- Of reports one after another, the errors stand one after another. -/
theorem errors_foldl_append (reports : List Report) (first : Report) :
    (reports.foldl Report.append first).errors = first.errors ++ reports.flatMap (·.errors) := by
  induction reports generalizing first with
  | nil => simp
  | cons report reports ih => simp [ih, Report.append]

/-- The errors in the report on a project are those about internal types. -/
theorem errors_validate :
    (validate s p).errors = (reported s p).map fun (c, type) => internalTypeError s p c type := by
  unfold validate reported
  by_cases isImported : (s.project p).isImported = true
  · simp [isImported]
  · simp only [isImported, Bool.false_eq_true, if_false, errors_foldl_append, List.nil_append,
      List.flatMap_map, List.map_flatMap, List.map_map, checkComponent, internalTypeErrors_eq]
    rfl

/-- Exactly the components of a project that is not imported are reported, each with such types. -/
theorem mem_reported (sound : ∀ id, (s.typekit id).Sound) : (c, type) ∈ reported s p ↔
    (s.project p).isImported = false ∧ c ∈ (s.project p).components ∧ s.Uses c type ∧
    Exports s p type ∧
      ¬ExportsForInterfaces s p type := by
  rw [← mem_internalTypes sound, reported]
  by_cases isImported : (s.project p).isImported = true
  · simp [isImported]
  · simp [isImported]

/-- Nothing is reported twice, as no project lists a component twice. -/
theorem nodup_reported (listed : s.ListedOnce) : (reported s p).Nodup := by
  rw [reported]
  split
  · exact List.nodup_nil
  · refine List.nodup_flatMap.2 ⟨fun c _ => ?_, (listed p).imp fun differ => ?_⟩
    · exact nodup_internalTypes.map (Prod.mk_right_injective c)
    · intro (d, type) mem mem'
      obtain ⟨_, -, same⟩ := List.mem_map.1 mem
      obtain ⟨_, -, same'⟩ := List.mem_map.1 mem'
      cases same
      cases same'
      exact differ rfl

/-- Whether a type may be used in the interfaces of a project is answered by all visible
typekits. -/
theorem isInterfaceType_iff : p.isInterfaceType (.named type) s = .ok true s ↔
    ∃ id ∈ s.visibleTypekits p, (s.typekit id).isInterfaceType (.named type) = true := by
  change EStateM.Result.ok (List.any _ _) s = .ok true s ↔ _
  rw [EStateM.Result.ok.injEq, and_iff_left rfl, List.any_eq_true]

/-- A type that is internal to the other typekits may be used exactly if the framework has it for
interfaces. -/
theorem isInterfaceType_of_internal (framework : s.FrameworkTypekits)
    (isImported : (s.project p).isImported = false) (made : p.index < s.projects.items.length)
    (internal : ¬ExportsForInterfaces s p type) :
    p.isInterfaceType (.named type) s = .ok true s ↔
      Typename.normalize type ∈ Typekit.virtualInterface := by
  rw [isInterfaceType_iff]
  constructor
  · rintro ⟨id, visible, interface⟩
    have isVirtual : (s.typekit id).isVirtual = true := by
      by_contra plain
      exact internal ⟨id, visible, by simpa using plain, interface⟩
    exact ((framework.sound id).isInterfaceType_iff isVirtual (.named type)).1 interface
  · intro native
    obtain ⟨id, used, isVirtual⟩ := framework.used p made isImported
    have visible : id ∈ s.visibleTypekits p := by
      rw [Store.mem_visibleTypekits, Store.scope, RuledScope.scope_of_main isImported]
      exact .inr used
    exact ⟨id, visible, ((framework.sound id).isInterfaceType_iff isVirtual (.named type)).2 native⟩

/-- After any calls, the errors in the report on a project are about the types that components of it
use, inherited members included, and that are exported by some visible typekit and for interfaces by
none, leaving the typekit that is built into the framework aside; none of them is reported twice,
and of imported projects none is reported. In particular, each type is reported that a visible
typekit exports besides that of the framework, and that may not be used in interfaces. Conversely, a
type that is reported may not be used in interfaces, unless it is one that the framework has for
interfaces. -/
theorem reported_exactly (files : Files.Tree) (packageMaps : List PackageMap) (calls : List Call)
    (p : ProjectId) :
    let s := Call.runAll calls { files, packageMaps }
    ((validate s p).errors = (reported s p).map fun (c, type) => internalTypeError s p c type) ∧
      (reported s p).Nodup ∧ ∀ c type,
        ((c, type) ∈ reported s p ↔
          (s.project p).isImported = false ∧ c ∈ (s.project p).components ∧ s.Uses c type ∧
          Exports s p type ∧ ¬ExportsForInterfaces s p type) ∧
        ((s.project p).isImported = false → c ∈ (s.project p).components → s.Uses c type →
          Exports s p type →
          p.isInterfaceType (.named type) s = .ok false s → (c, type) ∈ reported s p) ∧
        ((c, type) ∈ reported s p →
          (p.isInterfaceType (.named type) s = .ok true s ↔
            Typename.normalize type ∈ Typekit.virtualInterface)) := by
  intro s
  have steps : Evolves { files, packageMaps } s :=
    (Call.evolves_runAll (settled_of_empty rfl) calls).2
  have framework : s.FrameworkTypekits := steps.frameworkTypekits (.of_empty rfl rfl)
  have listed : s.ListedOnce := steps.listedOnce (.of_empty rfl) (.of_empty rfl)
  refine ⟨errors_validate, nodup_reported listed,
    fun c type => ⟨mem_reported framework.sound, ?_, fun mem => ?_⟩⟩
  · intro isImported declared used exported refused
    refine (mem_reported framework.sound).2 ⟨isImported, declared, used, exported, ?_⟩
    rintro ⟨id, visible, -, interface⟩
    have usable := isInterfaceType_iff.2 ⟨id, visible, interface⟩
    rw [refused] at usable
    cases usable
  · obtain ⟨isImported, declared, -, -, internal⟩ := (mem_reported framework.sound).1 mem
    have made : p.index < s.projects.items.length := by
      by_contra past
      rw [Store.project, Projects.get, List.getElem?_eq_none (Nat.not_lt.1 past)] at declared
      cases declared
    exact isInterfaceType_of_internal framework isImported made internal

/-- A typekit exports a type of the framework for internal use only, and a component has a port of
that type. -/
def internalDouble : List Call :=
  [.newProject "tasks" ⟨"/", []⟩ ⟨0⟩ none none,
    .declare (.typekit ⟨0⟩ true),
    .declare (.exportTypes ⟨1⟩ ["double"] false),
    .declare (.declareComponent ⟨0⟩ "A" .framework none),
    .declare (.declareInput ⟨0⟩ "in" (.named "double") none true)]

/-- The type is reported, though it may be used in interfaces. -/
theorem reported_exactly_internalDouble :
    let s := Call.runAll internalDouble {}
    (validate s ⟨0⟩).errors = ["tasks::A: type /double is internal to typekit(s) tasks"] ∧
      ProjectId.isInterfaceType ⟨0⟩ (.named "/double") s = .ok true s := by
  intro s
  have all : reported s ⟨0⟩ = [(⟨0⟩, "/double")] := by decide +kernel
  obtain ⟨errors, -, each⟩ := reported_exactly {} [] internalDouble ⟨0⟩
  have usable := (each ⟨0⟩ "/double").2.2 (all ▸ List.mem_singleton_self _)
  refine ⟨?_, usable.2 (by decide +kernel)⟩
  rw [errors, all]
  decide +kernel

end Validation

end Componentry
