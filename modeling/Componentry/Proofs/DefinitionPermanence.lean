import Componentry.Proofs.TypekitPackages
import Componentry.Proofs.TypekitPermanence

/-!
# Definitions are permanent

Along every run, failed calls included, registries only grow at their ends. So a name that was
looked up keeps its definition, in any spelling and from every project of the scope, and a typekit
that was imported by name stays as it was loaded.
-/

namespace Componentry

open Declares

/-- What a run leaves of a project as it is. -/
structure Project.Placed (p q : Project) : Prop where
  registry : q.registry = p.registry
  main : q.main = p.main

namespace Evolved

variable {s t : Store}

/-- Every step extends every registry. -/
theorem grows (step : Evolved s t) (id : RegistryId) : (s.registry id).Extends (t.registry id) := by
  cases step.registry id with
  | same h =>
    rw [h]
    exact .refl _
  | made next =>
    rw [next, Store.registry_of_unmade (Nat.lt_irrefl _)]
    exact List.nil_prefix
  | extended _ grows => exact grows
  | edited _ _ grows => exact grows

/-- A project that was made keeps its registry and the project that imports it. -/
theorem placed (step : Evolved s t) : s.projects.items.length ≤ t.projects.items.length ∧
    ∀ p, p.index < s.projects.items.length → Project.Placed (s.project p) (t.project p) := by
  refine ⟨step.projects_length, fun p made => ?_⟩
  cases step.project p with
  | made _ next | madeLibrary _ next => exact absurd next (Projects.ne_next made)
  | _ h =>
    rw [h]
    exact ⟨rfl, rfl⟩

end Evolved

/-- Along a run, every registry is extended, and every project keeps its registry and the project
that imports it. -/
theorem Evolves.grows {s t : Store} (steps : Evolves s t) :
    (∀ id, (s.registry id).Extends (t.registry id)) ∧
      s.projects.items.length ≤ t.projects.items.length ∧
      ∀ p, p.index < s.projects.items.length → Project.Placed (s.project p) (t.project p) := by
  induction steps with
  | refl => exact ⟨fun _ => .refl _, Nat.le_refl _, fun _ _ => ⟨rfl, rfl⟩⟩
  | tail _ step ih =>
    obtain ⟨grown, longer, placed⟩ := ih
    obtain ⟨longer', placed'⟩ := step.placed
    refine ⟨fun id => (grown id).trans (step.grows id), Nat.le_trans longer longer', fun p hp => ?_⟩
    have first := placed p hp
    have last := placed' p (Nat.lt_of_lt_of_le hp longer)
    exact ⟨last.registry.trans first.registry, last.main.trans first.main⟩

/-- The registry of a scope is extended along a run. -/
theorem Evolves.registryOf {s t : Store} (steps : Evolves s t) {p : ProjectId}
    (hp : p.index < s.projects.items.length) :
    t.projects.scope p = s.projects.scope p ∧ (s.registryOf p).Extends (t.registryOf p) := by
  obtain ⟨grown, -, placed⟩ := steps.grows
  have scope : t.projects.scope p = s.projects.scope p := Store.scope_congr (placed p hp).main
  have inRange := Projects.scope_made hp
  refine ⟨scope, ?_⟩
  rw [Store.registryOf, Store.registryOf, Store.scope, Store.scope, scope,
    (placed _ inRange).registry]
  exact grown _

namespace ProjectId

/-- A type that is found is one of the registry of the scope from then on. -/
theorem ends_findType (p : ProjectId) (name : String) (s : Store) :
    Ends (p.findType (.named name)) s (fun d t => (t.registryOf p).get name = .ok d)
      fun _ _ => True := by
  refine ends_bind.2 (ends_get.2 ?_)
  cases hget : (s.registryOf p).get name with
  | ok d => exact hget
  | error fault =>
    refine ends_bind.2 ((ends_trivial p.importOnMiss s).mono (fun found t _ => ?_)
      fun _ _ _ => trivial)
    refine ends_ite.2 ⟨fun _ => ends_bind.2 ?_, fun _ => trivial⟩
    refine (ends_trivial (Work.log _ _ _) t).mono (fun _ u _ => ?_) fun _ _ _ => trivial
    exact Work.ends_ofExcept.2 ⟨fun d h => h, fun _ _ => trivial⟩

/-- A type of the registry of the scope is found as it is there. -/
theorem findType_of_get {p : ProjectId} {name : String} {s : Store} {d : TypeDef}
    (h : (s.registryOf p).get name = .ok d) : p.findType (.named name) s = .ok d s := by
  have ends : Ends (p.findType (.named name)) s (fun d' t => d' = d ∧ t = s) fun _ _ => False := by
    refine ends_bind.2 (ends_get.2 ?_)
    rw [h]
    exact ⟨rfl, rfl⟩
  obtain ⟨_, _, found, rfl, rfl⟩ := ends.exists_ok
  exact found

/-- A typekit that is imported by name is complete, and comes from a package. -/
theorem ends_importTypekit (p : ProjectId) (name : String) {s : Store} (hs : PackagesApart s) :
    Ends (p.importTypekit name) s
      (fun id t => (t.typekit id).frozen = true ∧ (t.typekit id).package.isSome = true)
      fun _ _ => True := by
  have imported : Ends (p.importedTypekit name) s
      (fun id? t => ∀ id, id? = some id →
        (t.typekit id).frozen = true ∧ (t.typekit id).package.isSome = true)
      fun _ _ => True := by
    refine ends_bind.2 ?_
    change Ends (Work.resolveSlot (s.projects.scope p) _ _ name _) s _ _
    cases hslot : Project.slotOf (s.project (s.projects.scope p)).typekitSlots name with
    | resolved id? =>
      refine Slot.ends_resolve_of_resolved hslot fun id hid =>
        hs.imported (s.projects.scope p) name id ?_
      rw [hslot, hid]
    | resolving => exact Slot.ends_resolve_of_resolving hslot trivial
    | unresolved =>
      refine Slot.ends_resolve_of_unresolved hslot
        ((ends_loadTypekitPackage _ name _).mono ?_ fun _ _ _ => trivial)
      exact fun id? t ⟨_, complete⟩ id h => (complete id h).1
  refine ends_bind.2 (imported.mono (fun id? t complete => ?_) fun _ _ _ => trivial)
  cases id? with
  | none => exact trivial
  | some id => exact complete id rfl

end ProjectId

/-- A descriptor that is merged into the registry of a scope adds its new definitions at the end. -/
theorem Declaration.ends_mergeDescriptor (p : ProjectId) (xml : String) {s : Store}
    (inRange : (s.scope p).registry.index < s.registries.length) :
    Ends (onRegistryOf p (Descriptor.mergeInto xml)) s
      (fun names t => ∃ types fresh, Descriptor.types xml = .ok types ∧ fresh.Sublist types ∧
        names = fresh.map (·.name) ∧ (t.registryOf p).types = (s.registryOf p).types ++ fresh)
      fun _ _ => True := by
  refine ends_bind.2
    (Work.ends_onRegistry.2 ((Registry.ends_mergeInto xml _).mono ?_ fun _ _ _ => trivial))
  rintro names r ⟨types, fresh, htypes, happ, hnames, hfresh, -⟩
  refine ⟨types, fresh, htypes, hfresh, hnames, ?_⟩
  rw [← Store.registryOf] at happ
  rw [← happ]
  change (Store.registry _ (s.scope p).registry).types = _
  rw [Store.registry_of_set rfl, if_pos ⟨rfl, inRange⟩]

/-- An operation on the registry of a scope gives what it gives on the registry alone. -/
theorem Declaration.exists_onRegistryOf {α : Type} {p : ProjectId} {x : Registry.Extension α}
    {s : Store} {a : α} {r : Registry} (h : x (s.registryOf p) = .ok a r) :
    ∃ t, onRegistryOf p x s = .ok a t := by
  have ends : Ends (onRegistryOf p x) s (fun b _ => b = a) fun _ _ => False :=
    ends_bind.2 (Work.ends_onRegistry.2 (ends_of_eq_ok h rfl))
  obtain ⟨_, t, made, rfl⟩ := ends.exists_ok
  exact ⟨t, made⟩

namespace PackagesApart

/-- A project of its own that was just made has the only registry, and no typekit of a package. -/
theorem withMain_of_empty {s : Store} (registries : s.registries = []) (typekits : s.typekits = [])
    (projects : s.projects = .empty) (name : String) (baseDir : Files.Path)
    (packages : PackageMapId) :
    PackagesApart (s.withMain name baseDir packages none) := by
  have length : (s.withMain name baseDir packages none).registries.length = 1 := by
    simp [Store.withMain, registries]
  have project (q : ProjectId) :
      ((s.withMain name baseDir packages none).project q).registry = ⟨0⟩ ∧
      ((s.withMain name baseDir packages none).project q).typekitSlots = [] := by
    rw [s.project_withMain name baseDir packages none]
    split
    · exact ⟨congrArg RegistryId.mk (by rw [registries]; rfl), rfl⟩
    · rw [Store.project, projects]
      exact ⟨rfl, rfl⟩
  have typekit (id : TypekitId) :
      ((s.withMain name baseDir packages none).typekit id).registry = ⟨0⟩ ∧
      ((s.withMain name baseDir packages none).typekit id).package = none := by
    rw [Store.typekit_of_append rfl]
    split
    · exact ⟨congrArg RegistryId.mk (by rw [registries]; rfl), rfl⟩
    · rw [Store.typekit, typekits]
      exact ⟨rfl, rfl⟩
  refine ⟨fun p => ?_, fun id => ?_, fun id p hid => ?_, fun id id' hid _ => ?_,
    fun p n id hslot => ?_⟩
  · rw [(project p).1, length]
    exact Nat.one_pos
  · rw [(typekit id).1, length]
    exact Nat.one_pos
  · rw [(typekit id).2] at hid
    cases hid
  · rw [(typekit id).2] at hid
    cases hid
  · rw [(project p).2] at hslot
    cases hslot

/-- Typekits of packages are apart after calls. -/
theorem runAll {s : Store} (hs : PackagesApart s) (settled : declaring.holds s)
    (calls : List Call) :
    PackagesApart (Call.runAll calls s) :=
  (hs.kept_of_evolves (Call.evolves_runAll settled calls).2).1

end PackagesApart

/-- A type that was found in a scope is found there after calls, in any spelling and from any
project. -/
theorem ProjectId.findType_runAll {s t : Store} (settled : declaring.holds s) {p : ProjectId}
    (inRange : p.index < s.projects.items.length) {n : String} {d : TypeDef}
    (found : p.findType (.named n) s = .ok d t) (later : List Call) {q : ProjectId}
    (sameScope : (Call.runAll later t).projects.scope q = (Call.runAll later t).projects.scope p)
    {n' : String} (sameName : Typename.normalize n' = Typename.normalize n) :
    q.findType (.named n') (Call.runAll later t) = .ok d (Call.runAll later t) := by
  have covers :=
    Work.evolving_of_declaring (Work.declaring_of_typing (p.typing_findType (.named n))) s settled
  have added := p.ends_findType n s
  unfold Effect.From at covers
  unfold Ends at covers added
  rw [found] at covers added
  have inRangeLater : p.index < t.projects.items.length :=
    Nat.lt_of_lt_of_le inRange covers.2.grows.2.1
  have kept := ((Call.evolves_runAll covers.1 later).2.registryOf inRangeLater).2.get added
  refine ProjectId.findType_of_get ?_
  have sameRegistry : (Call.runAll later t).registryOf q = (Call.runAll later t).registryOf p := by
    rw [Store.registryOf, Store.registryOf, Store.scope, Store.scope, sameScope]
  rw [sameRegistry, Registry.get, sameName]
  exact kept

/-- A typekit that was imported by name is the same after calls. -/
theorem ProjectId.importTypekit_runAll {s t : Store} (hs : PackagesApart s)
    (settled : declaring.holds s) {p : ProjectId} {n : String} {id : TypekitId}
    (imported : p.importTypekit n s = .ok id t) (later : List Call) :
    TypekitKept id t (Call.runAll later t) := by
  have covers := Work.evolving_of_declaring (Work.declaring_of_typing
    (Work.typing_of_importing (p.importing_importTypekit n))) s settled
  have complete := p.ends_importTypekit n hs
  unfold Effect.From at covers
  unfold Ends at covers complete
  rw [imported] at covers complete
  have apart := (hs.kept_of_evolves covers.2).1
  exact (apart.kept_of_evolves (Call.evolves_runAll covers.1 later).2).2 id complete.1 complete.2

/-- Along every run on a project and its libraries, no definition is removed, replaced or moved,
each is found under its own name, and a descriptor adds the definitions that are new, in their
order. A name that was looked up has the same definition ever after, and a typekit that was loaded
by name stays as it was. -/
theorem definitions_permanent (files : Files.Tree) (packageMaps : List PackageMap) (name : String)
    (baseDir : Files.Path) (packages : PackageMapId) (calls : List Call) :
    let s := Call.runAll calls (Store.withMain { files, packageMaps } name baseDir packages none)
    (∀ (later : List Call) (id : RegistryId),
      (s.registry id).Extends ((Call.runAll later s).registry id)) ∧
    (∀ (id : RegistryId), ∀ d ∈ (s.registry id).types, (s.registry id).find? d.name = some d) ∧
    (∀ (p : ProjectId) (xml : String) (names : List String) (t : Store),
      Declaration.onRegistryOf p (Descriptor.mergeInto xml) s = .ok names t →
        ∃ types fresh, Descriptor.types xml = .ok types ∧ fresh.Sublist types ∧
          names = fresh.map (·.name) ∧ (t.registryOf p).types = (s.registryOf p).types ++ fresh) ∧
    (∀ (p : ProjectId) (n : String) (d : TypeDef) (t : Store), p.index < s.projects.items.length →
      p.findType (.named n) s = .ok d t → ∀ (later : List Call) (q : ProjectId) (n' : String),
        (Call.runAll later t).projects.scope q = (Call.runAll later t).projects.scope p →
        Typename.normalize n' = Typename.normalize n →
        q.findType (.named n') (Call.runAll later t) = .ok d (Call.runAll later t)) ∧
    (∀ (p : ProjectId) (n : String) (id : TypekitId) (t : Store), p.importTypekit n s = .ok id t →
      ∀ later : List Call, TypekitKept id t (Call.runAll later t)) ∧
    (∀ (p : ProjectId) (n : String) (id : TypekitId),
      Project.slotOf (s.project p).typekitSlots n = .resolved (some id) →
        ∀ later : List Call, TypekitKept id s (Call.runAll later s)) := by
  intro s
  have start : declaring.holds (Store.withMain { files, packageMaps } name baseDir packages none) :=
    Work.settled_push (settled_of_empty (s := { files, packageMaps }) rfl)
      (Store.project_withMain { files, packageMaps } name baseDir packages none) rfl rfl
  have settled : declaring.holds s := (Call.evolves_runAll start calls).1
  have apart : PackagesApart s :=
    (PackagesApart.withMain_of_empty rfl rfl rfl name baseDir packages).runAll start calls
  refine ⟨fun later id => ?_, fun id d hd => ?_, fun p xml names t merged => ?_, ?_, ?_,
    fun p n id hslot later => ?_⟩
  · exact (Call.evolves_runAll settled later).2.grows.1 id
  · exact Registry.find?_of_mem hd
  · have added := Declaration.ends_mergeDescriptor p xml (apart.projects (s.projects.scope p))
    unfold Ends at added
    rw [merged] at added
    exact added
  · intro p n d t inRange found later q n' sameScope sameName
    exact p.findType_runAll settled inRange found later sameScope sameName
  · intro p n id t imported later
    exact p.importTypekit_runAll apart settled imported later
  · obtain ⟨frozen, package⟩ := apart.imported p n id hslot
    exact (apart.kept_of_evolves (Call.evolves_runAll settled later).2).2 id frozen package

/-- A descriptor that is merged into the registry of a new project, a type that is looked up there,
and a typekit that the project imports. -/
theorem definitions_permanent_anglePackages :
    let s := anglePackages.withMain "app" ⟨"/", []⟩ ⟨0⟩ none
    let text := String.ofList (angleDescriptor true).written
    (∃ t fresh, Declaration.onRegistryOf ⟨0⟩ (Descriptor.mergeInto text) s = .ok ["/geo/Angle"] t ∧
      fresh.Sublist [angle true] ∧ ["/geo/Angle"] = fresh.map (·.name) ∧
      (t.registryOf ⟨0⟩).types = (s.registryOf ⟨0⟩).types ++ fresh) ∧
    (∃ d t, ProjectId.findType ⟨0⟩ (.named "double") s = .ok d t ∧ d.name = "/double" ∧ ∀ later,
      ProjectId.findType ⟨0⟩ (.named " /double") (Call.runAll later t) =
        .ok d (Call.runAll later t)) ∧
    ∃ id t, ProjectId.importTypekit ⟨0⟩ "a" s = .ok id t ∧
      angle true ∈ (t.registry (t.typekit id).registry).types ∧
      ∀ later, TypekitKept id t (Call.runAll later t) := by
  intro s text
  obtain ⟨-, -, merging, finding, importing, -⟩ :=
    definitions_permanent anglePackages.files anglePackages.packageMaps "app" ⟨"/", []⟩ ⟨0⟩ []
  refine ⟨?_, ?_, ?_⟩
  · have merge :
        Descriptor.mergeInto text (s.registryOf ⟨0⟩) = .ok ["/geo/Angle"] (angleTypes true) := by
      have standard : s.registryOf ⟨0⟩ = .standard :=
        anglePackages.registryOf_withMain "app" ⟨"/", []⟩ ⟨0⟩ none
      rw [standard, Registry.mergeInto_eq_addAll (types_angleDescriptor true)]
      exact addAll_angle true
    obtain ⟨t, merged⟩ := Declaration.exists_onRegistryOf merge
    obtain ⟨types, fresh, read, sublist, names, grown⟩ := merging ⟨0⟩ text _ t merged
    obtain rfl := Except.ok.inj ((types_angleDescriptor true).symm.trans read)
    exact ⟨t, fresh, merged, sublist, names, grown⟩
  · have known : ((s.registryOf ⟨0⟩).get "double").toOption.map (·.name) = some "/double" := by
      decide +kernel
    cases get : (s.registryOf ⟨0⟩).get "double" with
    | error fault =>
      rw [get] at known
      cases known
    | ok d =>
      rw [get] at known
      have found := ProjectId.findType_of_get get
      exact ⟨d, s, found, Option.some.inj known, fun later =>
        finding ⟨0⟩ "double" d s Nat.one_pos found later ⟨0⟩ " /double" rfl (by decide +kernel)⟩
  · have imports : Ends (ProjectId.importTypekit ⟨0⟩ "a") s
        (fun id t => angle true ∈ (t.registry (t.typekit id).registry).types) fun _ _ => False := by
      have holds := holdsTypekit_anglePackages (show "a" ∈ ["a", "b", "c"] by simp)
      refine (holds.ends_importTypekit (s := s) rfl rfl rfl (makesTypekit_angle true "a" _)).mono ?_
        fun _ _ h => h
      rintro _ _ ⟨rfl, rfl⟩
      decide +kernel
    obtain ⟨id, t, imported, angles⟩ := imports.exists_ok
    exact ⟨id, t, imported, angles, importing ⟨0⟩ "a" id t imported⟩

end Componentry
