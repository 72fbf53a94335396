import Componentry.Proofs.Steps

/-!
# Typekits of packages are permanent

A typekit that was loaded from a package has a registry that no project and no other typekit has, so
nothing that is declared in a scope reaches it; and an import by name gives complete typekits only,
which are not edited.
-/

namespace Componentry

open Declares

/-- The typekits of packages have registries of their own, and imports by name gave such typekits,
complete. -/
structure PackagesApart (s : Store) : Prop where
  projects : ∀ p, (s.project p).registry.index < s.registries.length
  typekits : ∀ id, (s.typekit id).registry.index < s.registries.length
  fromProjects : ∀ id p, (s.typekit id).package.isSome = true →
    (s.typekit id).registry ≠ (s.project p).registry
  fromTypekits : ∀ id id', (s.typekit id).package.isSome = true → id' ≠ id →
    (s.typekit id').registry ≠ (s.typekit id).registry
  imported : ∀ p name id, Project.slotOf (s.project p).typekitSlots name = .resolved (some id) →
    (s.typekit id).frozen = true ∧ (s.typekit id).package.isSome = true

namespace PackagesApart

variable {s t : Store}

/-- Components, operations that belong to none, and the log do not matter. -/
theorem beside (h : PackagesApart s) (components : Components) (operations : List Operation)
    (lines : List LogLine) :
    PackagesApart { s with components := components, freeOperations := operations, log := lines } :=
  ⟨h.projects, h.typekits, h.fromProjects, h.fromTypekits, h.imported⟩

/-- Every step of a run keeps the typekits of packages apart. -/
theorem evolved (h : PackagesApart s) (step : Evolved s t) : PackagesApart t where
  projects p := by
    rcases step.registry_project p with kept | ⟨new, longer⟩
    · rw [kept]
      exact (h.projects p).trans_le step.registries_length
    · rw [new, longer]
      exact Nat.lt_succ_self _
  typekits id := by
    rcases step.lasts_or_made id with lasts | ⟨-, -, ⟨new, longer⟩ | ⟨-, p, shared⟩⟩
    · rw [lasts.registry]
      exact (h.typekits id).trans_le step.registries_length
    · rw [new, longer]
      exact Nat.lt_succ_self _
    · rw [shared]
      exact (h.projects p).trans_le step.registries_length
  fromProjects id p packaged := by
    rcases step.lasts_or_made id with lasts | ⟨-, unpackaged | projects, own⟩
    · rw [lasts.package] at packaged
      rw [lasts.registry]
      rcases step.registry_project p with kept | ⟨new, -⟩
      · rw [kept]
        exact h.fromProjects id p packaged
      · rw [new]
        exact RegistryId.ne_next (h.typekits id)
    · rw [unpackaged] at packaged
      cases packaged
    · rcases own with ⟨new, -⟩ | ⟨unpackaged, -⟩
      · rw [new, Store.project, projects]
        exact (RegistryId.ne_next (h.projects p)).symm
      · rw [unpackaged] at packaged
        cases packaged
  fromTypekits id id' packaged other := by
    rcases step.lasts_or_made id with lasts | ⟨next, -, ⟨new, -⟩ | ⟨unpackaged, -⟩⟩
    · rw [lasts.package] at packaged
      rw [lasts.registry]
      rcases step.lasts_or_made id' with lasts' | ⟨-, -, ⟨new, -⟩ | ⟨-, p, shared⟩⟩
      · rw [lasts'.registry]
        exact h.fromTypekits id id' packaged other
      · rw [new]
        exact (RegistryId.ne_next (h.typekits id)).symm
      · rw [shared]
        exact (h.fromProjects id p packaged).symm
    · rw [new, (step.lasts (next ▸ other)).registry]
      exact RegistryId.ne_next (h.typekits id')
    · rw [unpackaged] at packaged
      cases packaged
  imported p name id slot := by
    have given : (s.typekit id).frozen = true ∧ (s.typekit id).package.isSome = true := by
      cases step.project p with
      | made changed | madeLibrary changed =>
        rw [changed] at slot
        cases slot
      | withTypekitSlot changed _ complete =>
        rw [changed, Project.slotOf_setSlot] at slot
        split at slot
        · exact complete id slot
        · exact h.imported p name id slot
      | _ changed =>
        rw [changed] at slot
        exact h.imported p name id slot
    rw [(step.lasts (TypekitId.ne_next (Store.made_of_frozen given.1))).complete given.1]
    exact given

end PackagesApart

/-- A typekit and its registry are the same in two states. -/
def TypekitKept (id : TypekitId) (s t : Store) : Prop :=
  t.typekit id = s.typekit id ∧
    t.registry (s.typekit id).registry = s.registry (s.typekit id).registry

namespace PackagesApart

variable {s t : Store} {id : TypekitId}

/-- No step of a run reaches a complete typekit of a package. -/
theorem kept (h : PackagesApart s) (step : Evolved s t) (frozen : (s.typekit id).frozen = true)
    (package : (s.typekit id).package.isSome = true) : TypekitKept id s t := by
  refine ⟨(step.lasts (TypekitId.ne_next (Store.made_of_frozen frozen))).complete frozen, ?_⟩
  cases step.registry (s.typekit id).registry with
  | same kept => exact kept
  | made next => exact absurd next (RegistryId.ne_next (h.typekits id))
  | extended here => exact absurd here (h.fromProjects id _ package)
  | @edited other here isOpen =>
    have different : other ≠ id := by
      rintro rfl
      rw [frozen] at isOpen
      cases isOpen
    exact absurd here.symm (h.fromTypekits id other package different)

/-- Along a run, a complete typekit of a package stays as it is. -/
theorem kept_of_evolves (h : PackagesApart s) (steps : Evolves s t) :
    PackagesApart t ∧ ∀ id, (s.typekit id).frozen = true → (s.typekit id).package.isSome = true →
      TypekitKept id s t := by
  induction steps with
  | refl => exact ⟨h, fun id _ _ => ⟨rfl, rfl⟩⟩
  | tail _ step ih =>
    obtain ⟨hmid, kept⟩ := ih
    refine ⟨hmid.evolved step, fun id frozen package => ?_⟩
    obtain ⟨typekit, registry⟩ := kept id frozen package
    obtain ⟨typekit', registry'⟩ := hmid.kept step (typekit ▸ frozen) (typekit ▸ package)
    rw [typekit] at registry'
    exact ⟨typekit'.trans typekit, registry'.trans registry⟩

end PackagesApart

end Componentry
