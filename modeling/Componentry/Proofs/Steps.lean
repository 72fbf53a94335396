import Componentry.Proofs.Evolution

/-!
# What a step makes of projects, typekits and components

A step of a run makes or changes one project, one typekit and one registry at most. What it may make
of them is listed here, with what is known then; so what all steps keep of a project, or of a
typekit, is shown for these few changes, and not for each kind of step again. A component keeps its
name, its project and what it derives from.
-/

namespace Componentry

open Declares

/-- A registry that was made is not the next one. -/
theorem RegistryId.ne_next {s : Store} {id : RegistryId} (made : id.index < s.registries.length) :
    id ≠ ⟨s.registries.length⟩ := by
  rintro rfl
  exact Nat.lt_irrefl _ made

/-- A typekit that was made is not the next one. -/
theorem TypekitId.ne_next {s : Store} {id : TypekitId} (made : id.index < s.typekits.length) :
    id ≠ ⟨s.typekits.length⟩ := by
  rintro rfl
  exact Nat.lt_irrefl _ made

/-- A typekit that is complete was made before. -/
theorem Store.made_of_frozen {s : Store} {id : TypekitId} (frozen : (s.typekit id).frozen = true) :
    id.index < s.typekits.length := by
  by_contra past
  rw [typekit_of_unmade past] at frozen
  cases frozen

/-- What a step of a run makes of a project. -/
inductive ProjectStep (s t : Store) (p : ProjectId) : Prop where
  | same (h : t.project p = s.project p)
    (old : p.index < t.projects.items.length → p.index < s.projects.items.length)
  /-- A project of its own is made, with the typekit of the framework. -/
  | made {name : String} {baseDir : Files.Path} {packages : PackageMapId} {package : Option Package}
      (h : t.project p =
        { name, baseDir, packages, package, registry := ⟨s.registries.length⟩,
          usedTypekits := [⟨s.typekits.length⟩] })
      (next : p = s.projects.next) (longer : t.registries.length = s.registries.length + 1)
      (builtIn : t.typekit ⟨s.typekits.length⟩ =
        .newVirtual frameworkTypekit ⟨s.registries.length⟩ .standard)
  | madeLibrary {name : String} {baseDir : Files.Path} {packages : PackageMapId}
      {package : Option Package} {m : ProjectId}
      (h : t.project p =
        { name, baseDir, packages, package, main := some m, registry := ⟨s.registries.length⟩ })
      (next : p = s.projects.next) (longer : t.registries.length = s.registries.length + 1)
  /-- The project gets an empty typekit to build. -/
  | withTypekit (h : t.project p = { s.project p with typekit := some ⟨s.typekits.length⟩ })
      (known : p.index < s.projects.items.length) (isAbsent : (s.project p).typekit = none)
      (isOpen : (s.project p).frozen = false) (isMain : (s.project p).isImported = false)
      (registries : t.registries = s.registries)
      (typekits : t.typekits = s.typekits ++
        [{ name := (s.project p).name, registry := (s.project p).registry }])
  | withUsedTypekit {id : TypekitId}
      (h : t.project p = { s.project p with usedTypekits := (s.project p).usedTypekits ++ [id] })
      (known : p.index < s.projects.items.length)
  | withTypekitSlot {name : String} {slot : Slot (Option TypekitId)}
      (h : t.project p =
        { s.project p with typekitSlots := Project.setSlot (s.project p).typekitSlots name slot })
      (known : p.index < s.projects.items.length)
      (complete : ∀ id, slot = .resolved (some id) →
        (s.typekit id).frozen = true ∧ (s.typekit id).package.isSome = true)
  | withOwnTypekitSlot {slot : Slot (Option TypekitId)}
      (h : t.project p = { s.project p with ownTypekitSlot := slot })
      (known : p.index < s.projects.items.length)
      (imported : ∀ id, slot = .resolved (some id) → s.Imported id)
  /-- A component is declared in the project. -/
  | withComponent (h : t.project p =
      { s.project p with components := (s.project p).components ++ [s.components.next] })
      (known : p.index < s.projects.items.length) (isOpen : (s.project p).frozen = false)
      (longer : t.components.items.length = s.components.items.length + 1)
      (home : (t.interface s.components.next).project = p)
  | withLibraries {librarySlots : List (String × Slot ProjectId)} {usedLibraries : List ProjectId}
      (h : t.project p = { s.project p with librarySlots, usedLibraries })
      (known : p.index < s.projects.items.length)
  | withFrozen (h : t.project p = { s.project p with frozen := true })
    (known : p.index < s.projects.items.length)

/-- What a step of a run makes of a typekit. -/
inductive TypekitStep (s t : Store) (id : TypekitId) : Prop where
  | same (h : t.typekit id = s.typekit id)
  | completed (h : t.typekit id = { s.typekit id with frozen := true })
  /-- The typekit is edited, as it is not complete. -/
  | edited {r : Registry} (isOpen : (s.typekit id).frozen = false)
      (edits : Typekit.Edits (s.typekit id, s.registry (s.typekit id).registry) (t.typekit id, r))
      (registries : t.registries = s.registries.set (s.typekit id).registry.index r)
  /-- The typekit is loaded with a new registry. -/
  | loaded (next : id = ⟨s.typekits.length⟩)
      (registry : (t.typekit id).registry = ⟨s.registries.length⟩)
      (longer : t.registries.length = s.registries.length + 1) (projects : t.projects = s.projects)
      (plain : (t.typekit id).isVirtual = false)
      (within : ∀ n ∈ (t.typekit id).types.interface, n ∈ (t.typekit id).types.exported)
  /-- The typekit is the one that a project builds, still empty. -/
  | built {p : ProjectId} (next : id = ⟨s.typekits.length⟩)
      (h : t.typekit id = { name := (s.project p).name, registry := (s.project p).registry })
  /-- The typekit is the one that a project of its own uses from the framework. -/
  | builtIn (next : id = ⟨s.typekits.length⟩)
      (h : t.typekit id = .newVirtual frameworkTypekit ⟨s.registries.length⟩ .standard)
      (longer : t.registries.length = s.registries.length + 1)

/-- What a step of a run makes of a registry. -/
inductive RegistryStep (s t : Store) (id : RegistryId) : Prop where
  | same (h : t.registry id = s.registry id)
  | made (next : id = ⟨s.registries.length⟩)
  /-- The registry is that of a project. -/
  | extended {p : ProjectId} (here : id = (s.project p).registry)
    (grows : (s.registry id).Extends (t.registry id))
  /-- The registry is that of a typekit that is not complete. -/
  | edited {k : TypekitId} (here : id = (s.typekit k).registry)
      (isOpen : (s.typekit k).frozen = false) (grows : (s.registry id).Extends (t.registry id))

/-- What every step leaves of a component that was declared before. -/
structure Interface.Lasts (i j : Interface) : Prop where
  name : j.name = i.name
  project : j.project = i.project
  superclass : j.superclass = i.superclass

/-- What every step leaves of a typekit that was made before. -/
structure Typekit.Lasts (k k' : Typekit) : Prop where
  registry : k'.registry = k.registry
  package : k'.package = k.package
  isVirtual : k'.isVirtual = k.isVirtual
  complete : k.frozen = true → k' = k

namespace Evolved

variable {s t : Store}

/-- What a step does to a project. -/
theorem project (step : Evolved s t) (p : ProjectId) : ProjectStep s t p := by
  have kept (projects : t.projects = s.projects) : ProjectStep s t p :=
    .same (congrArg (·.get p) projects) fun old => projects ▸ old
  have changed (q : ProjectId) {f : Project → Project}
      (projects : t.projects = s.projects.modify q f)
      (here : p = q → t.project p = { f (s.project p) with main := (s.project p).main } →
        p.index < s.projects.items.length → ProjectStep s t p) : ProjectStep s t p := by
    have get : t.project p = _ :=
      (congrArg (·.get p) projects).trans (Projects.get_modify s.projects q p f)
    by_cases same : p = q ∧ q.index < s.projects.items.length
    · exact here same.1 (get.trans (if_pos same)) (same.1 ▸ same.2)
    · refine .same (get.trans (if_neg same)) fun old => ?_
      rwa [projects, Projects.length_modify] at old
  have pushed {new : Project}
      (project : ∀ q, t.project q = if q = s.projects.next then new else s.project q)
      (one : t.projects.items.length = s.projects.items.length + 1)
      (made : t.project p = new → p = s.projects.next → ProjectStep s t p) : ProjectStep s t p := by
    by_cases next : p = s.projects.next
    · exact made ((project p).trans (if_pos next)) next
    · refine .same ((project p).trans (if_neg next)) fun old => ?_
      rw [one] at old
      refine (Nat.lt_succ_iff_lt_or_eq.1 old).resolve_right fun last => next ?_
      rw [Projects.next, ← last]
  cases step with
  | declared step =>
    cases step with
    | makeTypekit q isAbsent isOpen isMain =>
      refine changed q rfl ?_
      rintro rfl h known
      exact .withTypekit h known isAbsent isOpen isMain rfl rfl
    | useTypekit q => exact changed q rfl fun _ => .withUsedTypekit
    | importTypekit q name slot complete =>
      exact changed q rfl fun _ h known => .withTypekitSlot h known complete
    | importOwnTypekit q slot imported =>
      exact changed q rfl fun _ h known => .withOwnTypekitSlot h known imported
    | addComponent q name base doc isOpen unused known =>
      refine changed q rfl ?_
      rintro rfl h made
      refine .withComponent h made isOpen List.length_append ?_
      change ((s.components.push _ known).get s.components.next).interface.project = p
      rw [Components.get_push, if_pos rfl]
    | _ => exact kept rfl
  | newMain name baseDir packages package =>
    refine pushed (s.project_withMain name baseDir packages package) List.length_append
      fun h next => ?_
    exact .made h next List.length_append ((Store.typekit_of_append rfl _).trans (if_pos rfl))
  | newLibrary m name baseDir packages package known =>
    refine pushed (Store.project_withLibrary known) List.length_append fun h next => ?_
    exact .madeLibrary h next List.length_append
  | importLibrary q | useLibrary q => exact changed q rfl fun _ => .withLibraries
  | freeze q => exact changed q rfl fun _ => .withFrozen
  | _ => exact kept rfl

/-- What a step does to a typekit. -/
theorem typekit (step : Evolved s t) (id : TypekitId) : TypekitStep s t id := by
  have appended {k : Typekit} (typekits : t.typekits = s.typekits ++ [k])
      (made : id = ⟨s.typekits.length⟩ → t.typekit id = k → TypekitStep s t id) :
      TypekitStep s t id := by
    by_cases next : id = ⟨s.typekits.length⟩
    · exact made next ((Store.typekit_of_append typekits id).trans (if_pos next))
    · exact .same ((Store.typekit_of_append typekits id).trans (if_neg next))
  have replaced {other : TypekitId} {k : Typekit}
      (typekits : t.typekits = s.typekits.set other.index k)
      (edited : id = other → t.typekit id = k → TypekitStep s t id) : TypekitStep s t id := by
    by_cases here : id = other ∧ other.index < s.typekits.length
    · exact edited here.1 ((Store.typekit_of_set typekits id).trans (if_pos here))
    · exact .same ((Store.typekit_of_set typekits id).trans (if_neg here))
  cases step with
  | declared step =>
    cases step with
    | newTypekit grows registry plain within =>
      refine appended rfl fun next h => ?_
      refine .loaded next ?_ List.length_append rfl ?_ ?_ <;> rw [h] <;> assumption
    | makeTypekit p => exact appended rfl .built
    | @edit other k r isOpen edits =>
      refine replaced rfl ?_
      rintro rfl h
      exact .edited isOpen (by rwa [h]) rfl
    | _ => exact .same rfl
  | newMain => exact appended rfl fun next h => .builtIn next h List.length_append
  | completeTypekit other => exact (other.typekit_withFrozen s id).elim .same .completed
  | _ => exact .same rfl

/-- What a step does to a registry. -/
theorem registry (step : Evolved s t) (id : RegistryId) : RegistryStep s t id := by
  have appended {r : Registry} (registries : t.registries = s.registries ++ [r]) :
      RegistryStep s t id := by
    by_cases next : id = ⟨s.registries.length⟩
    · exact .made next
    · exact .same ((Store.registry_of_append registries id).trans (if_neg next))
  have replaced {other : RegistryId} {r : Registry}
      (registries : t.registries = s.registries.set other.index r)
      (grows : (s.registry other).Extends r)
      (here : id = other → (s.registry id).Extends (t.registry id) → RegistryStep s t id) :
        RegistryStep s t id := by
    by_cases same : id = other ∧ other.index < s.registries.length
    · refine here same.1 ?_
      rw [Store.registry_of_set registries, if_pos same, same.1]
      exact grows
    · exact .same ((Store.registry_of_set registries id).trans (if_neg same))
  cases step with
  | declared step =>
    cases step with
    | extend p grows => exact replaced rfl grows .extended
    | edit k isOpen edits =>
      exact replaced rfl edits.kept.types fun here grows => .edited here isOpen grows
    | newRegistry | newTypekit => exact appended rfl
    | _ => exact .same rfl
  | newRegistry | newMain | newLibrary => exact appended rfl
  | _ => exact .same rfl

/-- Every step keeps the components that were declared. -/
theorem components_length (step : Evolved s t) :
    s.components.items.length ≤ t.components.items.length := by
  cases step with
  | declared step =>
    cases step with
    | addComponent => simp [Components.push]
    | addMember | trigger | fixInitialState | needConfiguration | addCode | changeOperation =>
      exact Nat.le_of_eq (List.length_modify ..).symm
    | _ => exact Nat.le_refl _
  | _ => exact Nat.le_refl _

/-- Every step keeps the projects that were made. -/
theorem projects_length (step : Evolved s t) :
    s.projects.items.length ≤ t.projects.items.length := by
  cases step with
  | declared step => exact Nat.le_of_eq step.frame.length.symm
  | newMain | newLibrary => simp [Store.withMain, ProjectId.withLibrary, Projects.push]
  | freeze | importLibrary | useLibrary => exact Nat.le_of_eq (Projects.length_modify ..).symm
  | _ => exact Nat.le_refl _

/-- Every step keeps the registries that were made. -/
theorem registries_length (step : Evolved s t) : s.registries.length ≤ t.registries.length := by
  cases step with
  | declared step =>
    cases step with
    | extend | edit => exact Nat.le_of_eq List.length_set.symm
    | newRegistry | newTypekit => simp
    | _ => exact Nat.le_refl _
  | newRegistry | newMain | newLibrary => simp [Store.withMain, ProjectId.withLibrary]
  | _ => exact Nat.le_refl _

/-- Every step keeps the typekits that were made. -/
theorem typekits_length (step : Evolved s t) : s.typekits.length ≤ t.typekits.length := by
  cases step with
  | declared step =>
    cases step with
    | edit => exact Nat.le_of_eq List.length_set.symm
    | newTypekit | makeTypekit => simp
    | _ => exact Nat.le_refl _
  | newMain => simp [Store.withMain]
  | completeTypekit => simp [TypekitId.withFrozen]
  | _ => exact Nat.le_refl _

/-- What of an interface lasts in every step. -/
theorem interface_lasts (step : Evolved s t) {c : ComponentId}
    (made : c.index < s.components.items.length) :
    (s.interface c).Lasts (t.interface c) := by
  have changed (d : ComponentId) {f : Component → Component}
      (components : t.components = s.components.modify d f)
      (name : ∀ k, (f k).interface.name = k.interface.name)
      (project : ∀ k, (f k).interface.project = k.interface.project) :
        (s.interface c).Lasts (t.interface c) := by
    have get : t.interface c = ((s.components.modify d f).get c).interface :=
      congrArg (·.get c |>.interface) components
    rw [get]
    exact ⟨Components.apply_modify (·.interface.name) name s.components d c,
      Components.apply_modify (·.interface.project) project s.components d c,
      Components.apply_modify (f := f) (·.interface.superclass) (fun _ => rfl) s.components d c⟩
  cases step with
  | declared step =>
    cases step with
    | addComponent q name base doc isOpen unused known =>
      have older : c ≠ s.components.next := by
        rintro rfl
        exact Nat.lt_irrefl _ made
      change (s.interface c).Lasts ((s.components.push _ known).get c).interface
      rw [Components.get_push, if_neg older]
      exact ⟨rfl, rfl, rfl⟩
    | addMember d m =>
      exact changed d rfl (fun k => k.interface.name_withMember m) fun k =>
        k.interface.project_withMember m
    | trigger d | fixInitialState d | needConfiguration d | addCode d | changeOperation d =>
      exact changed d rfl (fun _ => rfl) fun _ => rfl
    | _ => exact ⟨rfl, rfl, rfl⟩
  | _ => exact ⟨rfl, rfl, rfl⟩

/-- A project has the registry that it had, or is made with a new one. -/
theorem registry_project (step : Evolved s t) (p : ProjectId) :
    (t.project p).registry = (s.project p).registry ∨
    (t.project p).registry = ⟨s.registries.length⟩ ∧
    t.registries.length = s.registries.length + 1 := by
  cases step.project p with
  | made h next longer | madeLibrary h next longer =>
    rw [h]
    exact .inr ⟨rfl, longer⟩
  | _ h => exact .inl (by rw [h])

/-- A typekit lasts, or is made with a new registry, or with the registry of a project. If it comes
from a package, it is not made together with a project. -/
theorem lasts_or_made (step : Evolved s t) (id : TypekitId) : (s.typekit id).Lasts (t.typekit id) ∨
    id = ⟨s.typekits.length⟩ ∧ ((t.typekit id).package = none ∨ t.projects = s.projects) ∧
      ((t.typekit id).registry = ⟨s.registries.length⟩ ∧
        t.registries.length = s.registries.length + 1 ∨
        (t.typekit id).package = none ∧ ∃ p, (t.typekit id).registry = (s.project p).registry) := by
  cases step.typekit id with
  | same h =>
    rw [h]
    exact .inl ⟨rfl, rfl, rfl, fun _ => rfl⟩
  | completed h =>
    rw [h]
    exact .inl ⟨rfl, rfl, rfl, fun complete => by rw [← complete]⟩
  | edited isOpen edits =>
    have kept := edits.kept
    exact .inl ⟨kept.registry, kept.package, kept.isVirtual,
      fun complete => absurd complete (by rw [isOpen]; decide)⟩
  | loaded next registry longer projects =>
    exact .inr ⟨next, .inr projects, .inl ⟨registry, longer⟩⟩
  | @built p next h =>
    rw [h]
    exact .inr ⟨next, .inl rfl, .inr ⟨rfl, p, rfl⟩⟩
  | builtIn next h longer =>
    rw [h]
    exact .inr ⟨next, .inl rfl, .inl ⟨rfl, longer⟩⟩

/-- What of a typekit lasts in every step. -/
theorem lasts (step : Evolved s t) {id : TypekitId} (old : id ≠ ⟨s.typekits.length⟩) :
    (s.typekit id).Lasts (t.typekit id) :=
  (step.lasts_or_made id).resolve_right fun made => old made.1

end Evolved

end Componentry
