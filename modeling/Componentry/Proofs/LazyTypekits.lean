import Componentry.Proofs.Lookups

/-!
# What lookups of types leave

A lookup may import typekits of packages and bring their types into the registry, also when it fails
after all. Nothing else that is declared changes: the components are the same, and so are those of
each project and the typekit that it builds.
-/

namespace Componentry

open Declares

namespace Store

/-- Whether a typekit was loaded from a package: it comes from one, and is complete. -/
structure LoadedTypekit (s : Store) (id : TypekitId) : Prop where
  frozen : (s.typekit id).frozen = true
  package : (s.typekit id).package.isSome = true

/-- A typekit that did not change since it was loaded is loaded. -/
theorem LoadedTypekit.of_eq {s t : Store} {id : TypekitId} (h : s.LoadedTypekit id)
    (same : t.typekit id = s.typekit id) : t.LoadedTypekit id := by
  constructor
  · rw [same]
    exact h.frozen
  · rw [same]
    exact h.package

/-- The types in the registry of a typekit. -/
def typesOf (s : Store) (id : TypekitId) : List TypeDef :=
  (s.registry (s.typekit id).registry).types

/-- Whether a state differs from another one in imports of typekits only, as far as projects and the
registries that they had are concerned: their registries have further types of typekits only that
were loaded. -/
structure ImportsOnly (s t : Store) : Prop where
  projects : ∀ p, (t.project p).components = (s.project p).components ∧
    (t.project p).typekit = (s.project p).typekit
  typekits : s.typekits <+: t.typekits
  types : ∀ p, ∀ d ∈ (t.registry (s.project p).registry).types,
    d ∈ (s.registry (s.project p).registry).types ∨ ∃ id, t.LoadedTypekit id ∧ d ∈ t.typesOf id

/-- How the state after lookups of types may differ from that before. -/
structure Looked (s t : Store) : Prop extends ImportsOnly s t where
  steps : DeclaresTypes s t
  loaded : ∀ id, s.LoadedTypekit id → t.LoadedTypekit id ∧ t.typesOf id = s.typesOf id

namespace ImportsOnly

variable {s t : Store}

/-- Nothing has to be imported. -/
theorem refl (s : Store) : ImportsOnly s s :=
  ⟨fun _ => ⟨rfl, rfl⟩, List.prefix_refl _, fun _ _ => .inl⟩

/-- A state in which no registry and no typekit is another one. -/
theorem of_longer (apart : PackagesApart s) (registries : s.registries <+: t.registries)
    (typekits : s.typekits <+: t.typekits)
    (projects : ∀ p, (t.project p).components = (s.project p).components ∧
        (t.project p).typekit = (s.project p).typekit) :
    ImportsOnly s t := by
  refine ⟨projects, typekits, fun p d hd => .inl ?_⟩
  have same : t.registry (s.project p).registry = s.registry (s.project p).registry := by
    obtain ⟨more, longer⟩ := registries
    rw [registry, ← longer, List.getElem?_append_left (apart.projects p), registry]
  rwa [same] at hd

end ImportsOnly

namespace Looked

variable {s t u : Store}

/-- Nothing has to be looked up. -/
theorem refl (s : Store) : Looked s s :=
  ⟨.refl s, .refl s, fun _ h => ⟨h, rfl⟩⟩

/-- Projects keep their registries. -/
theorem registry_eq (h : Looked s t) (p : ProjectId) :
    (t.project p).registry = (s.project p).registry :=
  Project.congr_outline (h.steps.1.frame.outline p) (·.registry) fun _ => rfl

/-- Lookups follow one another. -/
theorem trans (h : Looked s t) (h' : Looked t u) : Looked s u where
  steps := h.steps.trans h'.steps
  projects p := ⟨(h'.projects p).1.trans (h.projects p).1, (h'.projects p).2.trans (h.projects p).2⟩
  typekits := h.typekits.trans h'.typekits
  loaded id before := by
    obtain ⟨mid, types⟩ := h.loaded id before
    obtain ⟨after, types'⟩ := h'.loaded id mid
    exact ⟨after, types'.trans types⟩
  types p d hd := by
    rcases h'.types p d (h.registry_eq p ▸ hd) with hd | new
    · rw [h.registry_eq] at hd
      refine (h.types p d hd).imp_right fun ⟨id, loaded, hd⟩ => ?_
      obtain ⟨after, types⟩ := h'.loaded id loaded
      exact ⟨id, after, types ▸ hd⟩
    · exact .inr new

/-- Loaded typekits stay what they are along steps of lookups. -/
theorem of_steps (apart : PackagesApart s) (steps : DeclaresTypes s t) (only : ImportsOnly s t) :
    PackagesApart t ∧ Looked s t := by
  obtain ⟨apart, kept⟩ := apart.kept_of_evolves steps.1.evolves
  refine ⟨apart, only, steps, fun id loaded => ?_⟩
  obtain ⟨typekit, registry⟩ := kept id loaded.frozen loaded.package
  refine ⟨loaded.of_eq typekit, ?_⟩
  rw [typesOf, typekit, registry, typesOf]

end Looked

end Store

/-- What a step notes as the typekit of a library was noted before, or was imported by name. -/
theorem Evolved.imported_of_ownTypekitSlot {s t : Store} (step : Evolved s t) {p : ProjectId}
    {id : TypekitId} (own : (t.project p).ownTypekitSlot = .resolved (some id)) :
    (s.project p).ownTypekitSlot = .resolved (some id) ∨ s.Imported id := by
  cases step.project p with
  | made h | madeLibrary h =>
    rw [h] at own
    cases own
  | withOwnTypekitSlot h _ imported =>
    rw [h] at own
    exact .inr (imported id own)
  | _ h =>
    rw [h] at own
    exact .inl own

/-- The typekits that are noted for libraries are loaded. -/
structure LibrariesLoaded (s : Store) : Prop where
  apart : PackagesApart s
  loaded : ∀ p id, (s.project p).ownTypekitSlot = .resolved (some id) → s.LoadedTypekit id

namespace LibrariesLoaded

variable {s t : Store}

/-- A step keeps all libraries loaded. -/
theorem evolved (h : LibrariesLoaded s) (step : Evolved s t) : LibrariesLoaded t := by
  refine ⟨h.apart.evolved step, fun p id own => ?_⟩
  have loaded : s.LoadedTypekit id := by
    rcases step.imported_of_ownTypekitSlot own with old | ⟨m, name, slot⟩
    · exact h.loaded p id old
    · obtain ⟨frozen, package⟩ := h.apart.imported m name id slot
      exact ⟨frozen, package⟩
  obtain ⟨typekit, -⟩ := h.apart.kept step loaded.frozen loaded.package
  exact ⟨typekit ▸ loaded.frozen, typekit ▸ loaded.package⟩

/-- Steps keep all libraries loaded. -/
theorem evolves (h : LibrariesLoaded s) (steps : Evolves s t) : LibrariesLoaded t := by
  induction steps with
  | refl => exact h
  | tail _ step ih => exact ih.evolved step

end LibrariesLoaded

/-- Lookups of types, in states that runs reach. -/
def Declares.looking : Effect Fault Store where
  holds s := importing.holds s ∧ PackagesApart s
  change := Store.Looked
  fault _ := True
  refl := .refl
  trans := .trans

/-- An operation that takes steps of lookups. -/
theorem Work.looking_of_importing {α : Type} {x : Work α} {s : Store} (hs : looking.holds s)
    (steps : importing.From s x)
    (only : Ends x s (fun _ t => s.ImportsOnly t) fun _ t => s.ImportsOnly t) :
    looking.From s x := by
  have looked {t : Store} (ht : importing.holds t) (hst : importing.change s t)
      (only : s.ImportsOnly t) :
      looking.holds t ∧ s.Looked t :=
    (Store.Looked.of_steps hs.2 hst.1 only).imp_left fun apart => ⟨ht, apart⟩
  refine (Ends.and steps only).mono ?_ ?_
  · exact fun _ _ ⟨⟨ht, hst⟩, only⟩ => looked ht hst only
  · exact fun _ _ ⟨⟨ht, hst, _⟩, only⟩ => ⟨(looked ht hst only).1, (looked ht hst only).2, trivial⟩

namespace ProjectId

variable (p : ProjectId)

/-- An import by name loads a typekit at most. -/
theorem importsOnly_importedTypekit (name : String) {s : Store} (apart : PackagesApart s) :
    Ends (p.importedTypekit name) s (fun _ t => s.ImportsOnly t) fun _ t => s.ImportsOnly t := by
  refine ends_bind.2 ?_
  change Ends (Work.resolveSlot (s.projects.scope p) _ _ name _) s _ _
  generalize s.projects.scope p = m
  cases hslot : Project.slotOf (s.project m).typekitSlots name with
  | resolved id? => exact Slot.ends_resolve_of_resolved hslot (.refl s)
  | resolving => exact Slot.ends_resolve_of_resolving hslot (.refl s)
  | unresolved =>
    have noted {t : Store} (loaded : Appended (m.withTypekitSlot name .resolving s) t)
        (slot : Slot (Option TypekitId)) :
        s.ImportsOnly (m.withTypekitSlot name slot t) := by
      refine .of_longer apart loaded.registries loaded.typekits fun q => ⟨?_, ?_⟩
      all_goals refine (Projects.apply_modify _ (fun _ => by rfl) t.projects m q).trans ?_
      all_goals rw [loaded.projects]
      all_goals exact Projects.apply_modify _ (fun _ => by rfl) s.projects m q
    refine Slot.ends_resolve_of_unresolved hslot ((m.ends_loadTypekitPackage name _).mono ?_ ?_)
    · exact fun id? t ⟨⟨_, loaded⟩, _⟩ => noted loaded _
    · exact fun fault t ⟨⟨_, loaded⟩, _⟩ => noted loaded _

/-- The types of a typekit that was loaded are merged, as far as they agree with those that are
there. -/
theorem importsOnly_usingTypekit {id : TypekitId} {s : Store} (apart : PackagesApart s)
    (loaded : s.LoadedTypekit id) :
    Ends (p.usingTypekit id) s (fun _ t => s.ImportsOnly t) fun _ t => s.ImportsOnly t := by
  generalize scope : s.projects.scope p = m
  by_cases used : id ∈ (s.project m).usedTypekits
  · exact (p.ends_usingTypekit_of_used scope used).2 (.refl s)
  · have merged {t : Store} {r : Registry}
        (sub : r.types ⊆ (s.registry (s.project m).registry).types ++ s.typesOf id)
        (registries : t.registries = s.registries.set (s.project m).registry.index r)
        (typekits : t.typekits = s.typekits)
        (projects : ∀ q, (t.project q).components = (s.project q).components ∧
            (t.project q).typekit = (s.project q).typekit) :
        s.ImportsOnly t := by
      have typekit (id : TypekitId) : t.typekit id = s.typekit id := by
        rw [Store.typekit, typekits, Store.typekit]
      have own : (s.typekit id).registry ≠ (s.project m).registry :=
        apart.fromProjects id m loaded.package
      have types : t.typesOf id = s.typesOf id := by
        rw [Store.typesOf, typekit, Store.registry_of_set registries, if_neg
          fun same => own same.1, Store.typesOf]
      refine ⟨projects, typekits ▸ List.prefix_refl _, fun q d hd => ?_⟩
      rw [Store.registry_of_set registries] at hd
      split at hd
      · rename_i same
        rw [same.1]
        refine (List.mem_append.1 (sub hd)).imp_right fun new => ⟨id, ⟨?_, ?_⟩, types ▸ new⟩
        · rw [typekit]
          exact loaded.frozen
        · rw [typekit]
          exact loaded.package
      · exact .inl hd
    refine (p.ends_usingTypekit_of_unused scope used).2
      ((Registry.ends_addAll_subset _ _).mono ?_ ?_)
    · exact fun _ r sub => merged sub rfl rfl fun q =>
        ⟨Projects.apply_modify (·.components) (fun _ => by rfl) s.projects m q,
          Projects.apply_modify (·.typekit) (fun _ => by rfl) s.projects m q⟩
    · exact fun _ r sub => merged sub rfl rfl fun _ => ⟨rfl, rfl⟩

end ProjectId

/-- Looking for a type imports typekits that were loaded. -/
theorem Declares.looking_looks : looking.Looks Store.LoadedTypekit where
  faults _ := trivial
  log severity origin text s hs :=
    Work.looking_of_importing hs
      (Work.importing_of_offline (Work.offline_log severity origin text) s hs.1)
      (Store.ImportsOnly.of_longer hs.2 (List.prefix_refl _) (List.prefix_refl _)
        fun _ => ⟨rfl, rfl⟩)
  asks p name s hs :=
    Work.looking_of_importing hs (p.importing_importedTypekit name s hs.1)
      (p.importsOnly_importedTypekit name hs.2)
  imports p name s hs := by
    have only : Ends (p.importTypekit name) s (fun _ t => s.ImportsOnly t)
        fun _ t => s.ImportsOnly t :=
      ends_bind.2 ((p.importsOnly_importedTypekit name hs.2).mono
        (fun id? t only => by cases id? with | none => exact only | some id => exact only)
        fun _ _ h => h)
    have looked := Work.looking_of_importing hs (p.importing_importTypekit name s hs.1) only
    refine (Ends.and looked (p.ends_importTypekit name hs.2)).mono ?_ fun _ _ h => h.1
    exact fun id t ⟨kept, frozen, package⟩ => ⟨kept, frozen, package⟩
  uses p id s hs loaded :=
    Work.looking_of_importing hs (Work.importing_of_offline (p.offline_usingTypekit id) s hs.1)
      (p.importsOnly_usingTypekit hs.2 loaded)
  notes p slot s hs imported := by
    have only : s.ImportsOnly (p.withOwnTypekitSlot slot s) :=
      .of_longer hs.2 (List.prefix_refl _) (List.prefix_refl _) fun q =>
        ⟨Projects.apply_modify (·.components) (fun _ => by rfl) s.projects p q,
          Projects.apply_modify (·.typekit) (fun _ => by rfl) s.projects p q⟩
    exact (Store.Looked.of_steps hs.2
        (.single (.importOwnTypekit p slot imported) rfl) only).imp_left fun apart =>
      ⟨ProjectId.importing_withOwnTypekitSlot hs.1, apart⟩

/-- The typekit of a library is loaded. -/
theorem ProjectId.ends_typekit_loaded {p : ProjectId} {s : Store} (settled : importing.holds s)
    (h : LibrariesLoaded s) (imported : (s.project p).isImported = true) (create : Bool) :
    Ends (p.typekit create) s (fun id? t => ∀ id, id? = some id → t.LoadedTypekit id)
      fun _ _ => True := by
  refine ends_bind.2 (ends_get.2 ?_)
  rw [if_pos imported]
  cases own : (s.project p).ownTypekitSlot with
  | resolved id? => exact Slot.ends_resolve_of_resolved own fun id hid => h.loaded p id (hid ▸ own)
  | resolving => exact Slot.ends_resolve_of_resolving own trivial
  | unresolved =>
    let begun := p.withOwnTypekitSlot .resolving s
    have hbegun : looking.holds begun :=
      (looking_looks.notes p .resolving ⟨settled, h.apart⟩ nofun).1
    have made : p.index < begun.projects.items.length :=
      (Projects.length_modify ..).symm ▸ Store.made_of_isImported imported
    have noted :=
      (looking_looks.importOwnTypekit p begun hbegun).and (p.ends_importOwnTypekit_imported made)
    refine Slot.ends_resolve_of_unresolved own (noted.mono ?_ fun _ _ _ => trivial)
    rintro id? t ⟨⟨ht, -⟩, imported⟩ id hid
    obtain ⟨m, name, slot⟩ := imported id hid
    obtain ⟨frozen, package⟩ := ht.2.imported m name id slot
    exact ⟨frozen, package⟩

end Componentry
