import Componentry.Proofs.DefinitionPermanence
import Componentry.Proofs.TypeLookups

/-!
# Scopes whose opaque types have rules

The opaque types in the registry of a scope have marshalling rules in typekits that are visible
there. Along a run rules are only added, and a typekit that is visible stays so. So it is enough
that an operation that brings opaque types into the registry brings their rules too: a typekit is
used once its types are merged, and the types that the scope defines itself get rules in its own
typekit.
-/

namespace Componentry

open Declares

/-- Whether a typekit that is visible from a project has a marshalling rule for the type of a
name. -/
def Store.Marshals (s : Store) (p : ProjectId) (name : String) : Prop :=
  ∃ id ∈ s.visibleTypekits p, (s.typekit id).Marshals name

/-- The visible typekits are the own one and those in use. -/
theorem Store.mem_visibleTypekits {s : Store} {p : ProjectId} {id : TypekitId} :
    id ∈ s.visibleTypekits p ↔ (s.scope p).typekit = some id ∨ id ∈ (s.scope p).usedTypekits := by
  simp only [visibleTypekits]
  cases (s.scope p).typekit with
  | none => simp
  | some own =>
    by_cases h : id = own
    · simp [h]
    · simp [h, Ne.symm h]

/-- Whether a project has the typekits of another one, its own one and those that it uses. -/
structure Project.Equipped (p q : Project) : Prop where
  typekit : ∀ id, p.typekit = some id → q.typekit = some id
  usedTypekits : p.usedTypekits ⊆ q.usedTypekits

/-- A project with the same typekits is equipped as before. -/
theorem Project.Equipped.of_same {p q : Project} (typekit : q.typekit = p.typekit)
    (usedTypekits : q.usedTypekits = p.usedTypekits) : Equipped p q :=
  ⟨fun _ h => typekit.trans h, usedTypekits ▸ List.Subset.refl _⟩

namespace Evolved

variable {s t : Store}

/-- Every step keeps all rules. -/
theorem rules (step : Evolved s t) (id : TypekitId) :
    (s.typekit id).opaques ⊆ (t.typekit id).opaques := by
  cases step.typekit id with
  | same h | completed h =>
    rw [h]
    exact List.Subset.refl _
  | edited isOpen edits => exact edits.rules
  | loaded next | built next | builtIn next =>
    rw [next, Store.typekit_of_unmade (Nat.lt_irrefl _)]
    exact List.nil_subset _

/-- Every step keeps the typekits of the projects that were made before. -/
theorem equipped (step : Evolved s t) {q : ProjectId} (hq : q.index < s.projects.items.length) :
    Project.Equipped (s.project q) (t.project q) := by
  cases step.project q with
  | made _ next | madeLibrary _ next => exact absurd next (Projects.ne_next hq)
  | withTypekit h _ isAbsent =>
    rw [h]
    refine ⟨fun id own => ?_, List.Subset.refl _⟩
    rw [isAbsent] at own
    cases own
  | withUsedTypekit h =>
    rw [h]
    exact ⟨fun _ own => own, List.subset_append_left _ _⟩
  | _ h =>
    rw [h]
    exact .of_same rfl rfl

/-- Every step leaves a project with a typekit that was made, if it leaves it with one. -/
theorem made_typekit (step : Evolved s t) {q : ProjectId}
    (h : ∀ id, (s.project q).typekit = some id → id.index < s.typekits.length) :
    ∀ id, (t.project q).typekit = some id → id.index < t.typekits.length := by
  intro id own
  cases step.project q with
  | made changed | madeLibrary changed =>
    rw [changed] at own
    cases own
  | withTypekit changed _ _ _ _ _ typekits =>
    rw [changed] at own
    cases own
    rw [typekits, List.length_append]
    exact Nat.lt_succ_self _
  | _ changed =>
    rw [changed] at own
    exact (h id own).trans_le step.typekits_length

end Evolved

namespace Evolves

variable {s t : Store}

/-- No step loses a rule. -/
theorem rules (steps : Evolves s t) (id : TypekitId) :
    (s.typekit id).opaques ⊆ (t.typekit id).opaques := by
  induction steps with
  | refl => exact List.Subset.refl _
  | tail _ step ih => exact List.Subset.trans ih (step.rules id)

/-- No step loses a typekit of a project. -/
theorem equipped (steps : Evolves s t) {q : ProjectId} (hq : q.index < s.projects.items.length) :
    Project.Equipped (s.project q) (t.project q) := by
  induction steps with
  | refl => exact .of_same rfl rfl
  | tail before step ih =>
    have last := step.equipped (Nat.lt_of_lt_of_le hq (Evolves.grows before).2.1)
    exact ⟨fun id h => last.typekit id (ih.typekit id h),
      List.Subset.trans ih.usedTypekits last.usedTypekits⟩

/-- The own typekit of a project was made, however many steps follow. -/
theorem made_typekit (steps : Evolves s t) {q : ProjectId}
    (h : ∀ id, (s.project q).typekit = some id → id.index < s.typekits.length) :
    ∀ id, (t.project q).typekit = some id → id.index < t.typekits.length := by
  induction steps with
  | refl => exact h
  | tail _ step ih => exact step.made_typekit ih

/-- A type that has a rule in a visible typekit keeps it. -/
theorem marshals (steps : Evolves s t) {p : ProjectId}
    (hp : (s.projects.scope p).index < s.projects.items.length)
    (scope : t.projects.scope p = s.projects.scope p) {name : String} (h : s.Marshals p name) :
    t.Marshals p name := by
  obtain ⟨id, visible, ruled⟩ := h
  have equipped := steps.equipped hp
  refine ⟨id, ?_, ruled.mono (steps.rules id)⟩
  rw [Store.mem_visibleTypekits] at visible ⊢
  rw [Store.scope, scope]
  exact visible.imp (equipped.typekit id) fun used => equipped.usedTypekits used

end Evolves

/-- Whether a typekit is complete, comes from a package, and has rules for all its opaque types. -/
structure Store.Complete (s : Store) (id : TypekitId) : Prop where
  frozen : (s.typekit id).frozen = true
  package : (s.typekit id).package.isSome = true
  ruled : (s.typekit id).MarshalsAll (s.registry (s.typekit id).registry)

/-- A complete typekit stays as it is. -/
theorem PackagesApart.complete {s t : Store} (h : PackagesApart s) (steps : Evolves s t)
    {id : TypekitId} (complete : s.Complete id) : t.Complete id := by
  obtain ⟨typekit, registry⟩ := (h.kept_of_evolves steps).2 id complete.frozen complete.package
  refine ⟨?_, ?_, ?_⟩
  · rw [typekit]
    exact complete.frozen
  · rw [typekit]
    exact complete.package
  · rw [typekit, registry]
    exact complete.ruled

/-- The opaque types that are registered in the only scope of a run have rules in typekits that are
visible there. -/
structure RuledScope (m : ProjectId) (s : Store) : Prop where
  made : m.index < s.projects.items.length
  isMain : (s.project m).main = none
  apart : PackagesApart s
  importer : ∀ p m', (s.project p).main = some m' → m' = m
  own : ∀ id, (s.project m).typekit = some id → id.index < s.typekits.length
  imported : ∀ name id, Project.slotOf (s.project m).typekitSlots name = .resolved (some id) →
    s.Complete id
  importedOwn : ∀ p id, (s.project p).ownTypekitSlot = .resolved (some id) → s.Complete id
  names : (s.registryOf m).NamesCanonical
  rules : ∀ d ∈ (s.registryOf m).types, d.isOpaque = true → s.Marshals m d.name

namespace RuledScope

variable {m p : ProjectId} {s t : Store}

/-- The main project of a scope is its own scope. -/
theorem scope (h : RuledScope m s) : s.projects.scope m = m :=
  Store.scope_of_own h.isMain

/-- Each imported project is in the scope. -/
theorem scope_of_imported (h : RuledScope m s) (imported : (s.project p).isImported = true) :
    s.projects.scope p = m := by
  obtain ⟨m', hm⟩ := Option.isSome_iff_exists.1 imported
  exact (Store.scope_of_imported hm).trans (h.importer p m' hm)

/-- A project that is not imported is its own scope. -/
theorem scope_of_main (h : (s.project p).isImported = false) : s.projects.scope p = p :=
  Store.scope_of_own (Option.not_isSome_iff_eq_none.1 (Bool.not_eq_true _ ▸ h))

/-- The registry of the scope is that of the main project. -/
theorem registryOf (h : RuledScope m s) : s.registryOf m = s.registry (s.project m).registry := by
  rw [Store.registryOf, Store.scope, h.scope]

/-- The registry of the scope after one of the registries was replaced. -/
theorem registryOf_of_set (h : RuledScope m s) {id : RegistryId} {r : Registry}
    (registries : t.registries = s.registries.set id.index r) (projects : t.projects = s.projects) :
    t.registryOf m = if id = (s.project m).registry then r else s.registryOf m := by
  have inRange := h.apart.projects m
  rw [h.registryOf, Store.registryOf, Store.scope, Store.project, projects,
    h.scope, ← Store.project, Store.registry_of_set registries]
  by_cases same : id = (s.project m).registry
  · rw [if_pos ⟨same.symm, same ▸ inRange⟩, if_pos same]
  · rw [if_neg fun both => same both.1.symm, if_neg same]

/-- A scope stays ruled along steps that have no library imported by another one, import complete
typekits only, and bring rules for the opaque types that they register. -/
theorem of_evolves (h : RuledScope m s) (steps : Evolves s t)
    (importer : ∀ p m', (t.project p).main = some m' → (s.project p).main = some m' ∨ m' = m)
    (imported : ∀ name id, Project.slotOf (t.project m).typekitSlots name = .resolved (some id) →
      Project.slotOf (s.project m).typekitSlots name = .resolved (some id) ∨ t.Complete id)
    (importedOwn : ∀ p id, (t.project p).ownTypekitSlot = .resolved (some id) →
      (s.project p).ownTypekitSlot = .resolved (some id) ∨ t.Complete id)
    (fresh : ∀ d ∈ (t.registryOf m).types, d ∈ (s.registryOf m).types ∨
        Typename.normalize d.name = d.name ∧ (d.isOpaque = true → t.Marshals m d.name)) :
    RuledScope m t := by
  obtain ⟨-, longer, placed⟩ := steps.grows
  have isMain : (t.project m).main = none := (placed m h.made).main.trans h.isMain
  have scope : t.projects.scope m = s.projects.scope m := (steps.registryOf h.made).1
  refine ⟨Nat.lt_of_lt_of_le h.made longer, isMain, (h.apart.kept_of_evolves steps).1, ?_, ?_, ?_,
    ?_, ?_, ?_⟩
  · exact fun p m' hm => (importer p m' hm).elim (h.importer p m') fun new => new
  · exact steps.made_typekit h.own
  · intro name id hid
    exact (imported name id hid).elim (fun old => h.apart.complete steps (h.imported name id old))
      fun new => new
  · intro p id hid
    exact (importedOwn p id hid).elim (fun old => h.apart.complete steps (h.importedOwn p id old))
      fun new => new
  · exact fun d hd => (fresh d hd).elim (h.names d) fun new => new.1
  · intro d hd isOpaque
    rcases fresh d hd with old | new
    · exact steps.marshals (h.scope.symm ▸ h.made) scope (h.rules d old isOpaque)
    · exact new.2 isOpaque

/-- Steps that leave the imports of typekits as they are. -/
theorem of_offline (h : RuledScope m s) (hst : offline.change s t)
    (fresh : ∀ d ∈ (t.registryOf m).types, d ∈ (s.registryOf m).types ∨
        Typename.normalize d.name = d.name ∧ (d.isOpaque = true → t.Marshals m d.name)) :
    RuledScope m t := by
  obtain ⟨⟨steps, -⟩, slots⟩ := hst
  refine h.of_evolves steps.evolves (fun p m' hm => .inl ?_) (fun name id hid => .inl ?_)
    (fun p id hid => .inl ?_) fresh
  · exact (Project.congr_outline (steps.frame.outline p) (·.main) fun _ => rfl).symm.trans hm
  · rw [← (slots m).1]
    exact hid
  · rw [← (slots p).2]
    exact hid

/-- Steps that load typekits. -/
theorem of_loading (h : RuledScope m s) (hst : loading.change s t) : RuledScope m t := by
  obtain ⟨steps, ⟨registries, projects⟩, -, same⟩ := hst
  refine h.of_offline steps fun d hd => .inl ?_
  have registry : t.registryOf m = s.registryOf m := by
    have inRange := h.apart.projects m
    rw [Store.registryOf, Store.registryOf, Store.scope, Store.scope, Store.project, Store.project,
      same, h.scope, ← Store.project, Store.registry, Store.registry, ← projects,
      List.getElem?_append_left inRange]
  rwa [registry] at hd

/-- A change of a project that leaves its types as they are. -/
theorem registryOf_modify (s : Store) (p m : ProjectId) {f : Project → Project}
    (registry : ∀ q, (f q).registry = q.registry) :
    Store.registryOf { s with projects := s.projects.modify p f } m = s.registryOf m := by
  have same := Projects.apply_modify (·.registry) registry s.projects p (s.projects.scope m)
  rw [Store.registryOf, Store.scope, Store.project, Projects.scope_modify, same]
  rfl

/-- A change of components, and of a project that leaves its types and its imports of typekits as
they are. -/
theorem modify (h : RuledScope m s) (components : Components) (p : ProjectId)
    {f : Project → Project}
    (steps : Evolves s { s with components := components, projects := s.projects.modify p f })
    (registry : ∀ q, (f q).registry = q.registry) (slots : ∀ q, (f q).typekitSlots = q.typekitSlots)
    (own : ∀ q, (f q).ownTypekitSlot = q.ownTypekitSlot) :
    RuledScope m { s with components := components, projects := s.projects.modify p f } := by
  refine h.of_evolves steps (fun q m' hm => .inl ?_) (fun name id hid => .inl ?_)
    (fun q id hid => .inl ?_) fun d hd => .inl ?_
  · exact (Projects.apply_modify (·.main) (fun _ => by rfl) s.projects p q).symm.trans hm
  · rwa [Store.project, Projects.apply_modify (·.typekitSlots) slots] at hid
  · rwa [Store.project, Projects.apply_modify (·.ownTypekitSlot) own] at hid
  · exact registryOf_modify s p m registry ▸ hd

/-- The import of a typekit by name goes on, and gives a complete typekit in the end. -/
theorem withTypekitSlot (h : RuledScope m s) (name : String) {slot : Slot (Option TypekitId)}
    (complete : ∀ id, slot = .resolved (some id) → s.Complete id) :
    RuledScope m (ProjectId.withTypekitSlot m name slot s) := by
  have step : Evolved s (ProjectId.withTypekitSlot m name slot s) :=
    .declared (.importTypekit m name slot
      fun id hid => ⟨(complete id hid).frozen, (complete id hid).package⟩)
  refine h.of_evolves (.single step) (fun q m' hm => .inl ?_) (fun n id hid => ?_)
    (fun q id hid => .inl ?_) fun d hd => .inl ?_
  · exact (Projects.apply_modify (·.main) (fun _ => by rfl) s.projects m q).symm.trans hm
  · simp only [ProjectId.withTypekitSlot, Store.project, Projects.get_modify, h.made, and_self,
      if_true, Project.slotOf_setSlot] at hid
    split at hid
    · exact .inr (h.apart.complete (.single step) (complete id hid))
    · exact .inl hid
  · rwa [ProjectId.withTypekitSlot, Store.project, Projects.apply_modify (·.ownTypekitSlot)
      fun _ => by rfl] at hid
  · rwa [ProjectId.withTypekitSlot, registryOf_modify s m m fun _ => by rfl] at hd

/-- The import of the typekit of a library goes on, and gives a complete typekit in the end. -/
theorem withOwnTypekitSlot (h : RuledScope m s) (p : ProjectId) {slot : Slot (Option TypekitId)}
    (imported : ∀ id, slot = .resolved (some id) → s.Imported id)
    (complete : ∀ id, slot = .resolved (some id) → s.Complete id) :
    RuledScope m (ProjectId.withOwnTypekitSlot p slot s) := by
  have step : Evolved s (ProjectId.withOwnTypekitSlot p slot s) :=
    .declared (.importOwnTypekit p slot imported)
  refine h.of_evolves (.single step) (fun q m' hm => .inl ?_) (fun n id hid => .inl ?_)
    (fun q id hid => ?_) fun d hd => .inl ?_
  · exact (Projects.apply_modify (·.main) (fun _ => by rfl) s.projects p q).symm.trans hm
  · rwa [ProjectId.withOwnTypekitSlot, Store.project, Projects.apply_modify (·.typekitSlots)
      fun _ => by rfl] at hid
  · rw [ProjectId.withOwnTypekitSlot, Store.project, Projects.get_modify] at hid
    split at hid
    · exact .inr (h.apart.complete (.single step) (complete id hid))
    · exact .inl hid
  · rwa [ProjectId.withOwnTypekitSlot, registryOf_modify s p m fun _ => by rfl] at hd

end RuledScope

end Componentry
