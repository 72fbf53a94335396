import Componentry.Proofs.FailedOpaques
import Componentry.Proofs.ScopeLibraries

/-!
# Lookups that miss

A lookup of the main project that finds nothing asks for the typekits of all libraries, and tells
whether any came into use. If none did, no types came into the registry either, since only a typekit
that comes into use brings types. So the name has no definition in the state that a failed lookup
leaves, and from then on lookups are answered by the registry alone. A lookup fails in no other way,
unless a typekit cannot be loaded or its types cannot be merged.
-/

namespace Componentry

open Declares

/-- What is known while a scope imports the typekits of libraries: those that were in use are, and
unless others came into use, the registry of the scope is the one from the start. -/
private structure Importing (m : ProjectId) (libraries : List ProjectId) (earlier : List TypekitId)
    (r : Registry) (s : Store) : Prop where
  made : m.index < s.projects.items.length
  inRange : (s.project m).registry.index < s.registries.length
  scopes : ∀ l, l = m ∨ l ∈ libraries → s.projects.scope l = m
  used : earlier <+: (s.project m).usedTypekits
  same : (s.project m).usedTypekits = earlier → s.registry (s.project m).registry = r

namespace Importing

variable {m l : ProjectId} {libraries : List ProjectId} {earlier : List TypekitId} {r : Registry}
  {s t : Store}

/-- Registries may be made. -/
private theorem of_longer (h : Importing m libraries earlier r s)
    (longer : s.registries <+: t.registries)
    (length : t.projects.items.length = s.projects.items.length)
    (scope : ∀ q, t.projects.scope q = s.projects.scope q)
    (registry : (t.project m).registry = (s.project m).registry)
    (typekits : (t.project m).usedTypekits = (s.project m).usedTypekits) :
    Importing m libraries earlier r t where
  made := length ▸ h.made
  inRange := by
    rw [registry]
    exact Nat.lt_of_lt_of_le h.inRange longer.length_le
  scopes l hl := (scope l).trans (h.scopes l hl)
  used := typekits ▸ h.used
  same none := by
    obtain ⟨more, hmore⟩ := longer
    rw [registry, Store.registry, ← hmore, List.getElem?_append_left h.inRange]
    exact h.same (typekits ▸ none)

/-- A project is changed in other fields while typekits are imported. -/
private theorem modify (h : Importing m libraries earlier r s) (q : ProjectId)
    {f : Project → Project} (registry : ∀ p, (f p).registry = p.registry)
    (typekits : ∀ p, (f p).usedTypekits = p.usedTypekits) :
    Importing m libraries earlier r { s with projects := s.projects.modify q f } :=
  h.of_longer (List.prefix_refl _) (Projects.length_modify ..) (fun _ => Projects.scope_modify ..)
    (Projects.apply_modify (·.registry) registry s.projects q m)
    (Projects.apply_modify (·.usedTypekits) typekits s.projects q m)

/-- A typekit is imported that was not before. -/
private theorem keeps_importedTypekit (name : String) :
    Keeps (Importing m libraries earlier r) (fun _ => False) (m.importedTypekit name)
      fun _ _ => True := by
  intro s h
  refine ends_bind.2 ?_
  change Ends (Work.resolveSlot (s.projects.scope m) _ _ name _) s _ _
  rw [h.scopes m (.inl rfl)]
  cases slot : Project.slotOf (s.project m).typekitSlots name with
  | resolved id? => exact Slot.ends_resolve_of_resolved slot ⟨h, trivial⟩
  | resolving => exact Slot.ends_resolve_of_resolving slot False.elim
  | unresolved =>
    have begun : Importing m libraries earlier r (m.withTypekitSlot name .resolving s) :=
      h.modify m (fun _ => rfl) fun _ => rfl
    refine Slot.ends_resolve_of_unresolved slot
      ((m.ends_loadTypekitPackage name _).mono ?_ fun _ _ _ => False.elim)
    rintro id? t ⟨⟨-, loaded⟩, -⟩
    have loaded : Appended (m.withTypekitSlot name .resolving s) t := loaded
    have same (q : ProjectId) : t.project q = (m.withTypekitSlot name .resolving s).project q := by
      rw [Store.project, loaded.projects, Store.project]
    have after : Importing m libraries earlier r t := by
      apply begun.of_longer loaded.registries
      · rw [loaded.projects]
      · intro q
        rw [loaded.projects]
      · rw [same]
      · rw [same]
    exact ⟨after.modify m (fun _ => rfl) fun _ => rfl, trivial⟩

/-- Whether a typekit is in use is found without a change. -/
private theorem keeps_hasTypekit (name : String) :
    Keeps (Importing m libraries earlier r) (fun _ => False) (m.hasTypekit name) fun _ _ => True :=
  (keeps_importedTypekit name).bind fun _ => keeps_pure fun _ _ => trivial

/-- The typekit of a name is imported. -/
private theorem keeps_importTypekit (name : String) :
    Keeps (Importing m libraries earlier r) (fun _ => False) (m.importTypekit name)
      fun _ _ => True := by
  refine (keeps_importedTypekit name).bind fun id? => ?_
  cases id? with
  | some id => exact keeps_pure fun _ _ => trivial
  | none => exact keeps_throw _

/-- A typekit that comes into use is one more than at the start. -/
private theorem keeps_usingTypekit (id : TypekitId) :
    Keeps (Importing m libraries earlier r) (fun _ => False) (m.usingTypekit id)
      fun _ _ => True := by
  intro s h
  have scope := h.scopes m (.inl rfl)
  by_cases mem : id ∈ (s.project m).usedTypekits
  · exact (m.ends_usingTypekit_of_used scope mem).2 ⟨h, trivial⟩
  · refine (m.ends_usingTypekit_of_unused scope mem).2
      ((ends_trivial _ _).mono ?_ fun _ _ _ => False.elim)
    intro _ r' _
    have registry : ((m.withUsedTypekit id r' s).project m).registry = (s.project m).registry :=
      Projects.apply_modify (·.registry) (fun _ => by rfl) s.projects m m
    have more : ((m.withUsedTypekit id r' s).project m).usedTypekits =
        (s.project m).usedTypekits ++ [id] := by
      change ((s.projects.modify m _).get m).usedTypekits = _
      rw [Projects.get_modify, if_pos ⟨rfl, h.made⟩]
      rfl
    refine ⟨⟨(Projects.length_modify ..).symm ▸ h.made, ?_, ?_, ?_, ?_⟩, trivial⟩
    · rw [registry]
      exact Nat.lt_of_lt_of_eq h.inRange List.length_set.symm
    · exact fun l hl => (Projects.scope_modify ..).trans (h.scopes l hl)
    · rw [more]
      exact h.used.trans (List.prefix_append _ _)
    · intro none
      have longer := h.used.length_le
      rw [more] at none
      have := congrArg List.length none
      simp at this
      omega

/-- The typekit of a library is imported into the scope. -/
private theorem keeps_importOwnTypekit (mem : l ∈ libraries) :
    Keeps (Importing m libraries earlier r) (fun _ => False) l.importOwnTypekit
      fun _ _ => True := by
  intro s h
  refine ends_bind.2 (ends_bind.2 (ends_get.2 (ends_pure.2 ?_)))
  rw [h.scopes l (.inr mem)]
  refine ends_bind.2 (ends_get.2 ?_)
  refine (keeps_hasTypekit (s.project l).name).bind
    (fun present => Keeps.ite (fun _ => ?_) fun _ => ?_) s h
  · refine Keeps.map (Keeps.bind (keeps_importTypekit _) fun id => keeps_usingTypekit id)
      fun _ _ _ => trivial
  · exact keeps_pure fun _ _ => trivial

/-- A library is asked for its typekit. -/
private theorem keeps_typekit (mem : l ∈ libraries) :
    Keeps (Importing m libraries earlier r) (fun _ => False) l.typekit fun _ _ => True := by
  intro s h
  refine ends_bind.2 (ends_get.2 (ends_ite.2 ⟨fun _ => ?_, fun _ => ?_⟩))
  · have noted {t : Store} (ht : Importing m libraries earlier r t)
        (slot : Slot (Option TypekitId)) :
        Importing m libraries earlier r (l.withOwnTypekitSlot slot t) :=
          ht.modify l (fun _ => rfl) fun _ => rfl
    cases slot : (s.project l).ownTypekitSlot with
    | resolved id? => exact Slot.ends_resolve_of_resolved slot ⟨h, trivial⟩
    | resolving => exact Slot.ends_resolve_of_resolving slot False.elim
    | unresolved =>
      refine Slot.ends_resolve_of_unresolved slot
        ((keeps_importOwnTypekit mem _ (noted h .resolving)).mono ?_ ?_)
      · exact fun id? t ⟨ht, _⟩ => ⟨noted ht _, trivial⟩
      · exact fun _ _ _ => False.elim
  · cases (s.project l).typekit with
    | some id => exact ⟨h, trivial⟩
    | none => exact ⟨h, trivial⟩

end Importing

/-- If a miss of the main project brings no typekit into use, the registry of the scope stays the
same. -/
theorem ProjectId.ends_importOnMiss_unused {m : ProjectId} {s : Store} (h : LibraryScope m s)
    (apart : PackagesApart s) :
    Ends m.importOnMiss s (fun found t => found = false → t.registryOf m = s.registryOf m)
      fun _ _ => True := by
  have scope : s.scope m = s.project m := by rw [Store.scope, h.scope_eq (.inl rfl)]
  have start :
      Importing m (s.project m).usedLibraries (s.project m).usedTypekits (s.registryOf m) s := by
    refine ⟨h.made, apart.projects m, fun l mem => h.scope_eq mem, List.prefix_refl _, fun _ => ?_⟩
    rw [Store.registryOf, scope]
  refine ends_bind.2 (ends_get.2 (ends_ite.2 ⟨fun imported => ?_, fun _ => ends_bind.2 ?_⟩))
  · rw [Project.isImported, h.isMain] at imported
    cases imported
  · rw [scope]
    refine (keeps_forM (R := fun _ => False) (fun l mem => ?_) s start).mono ?_ fun _ _ _ => trivial
    · exact (Importing.keeps_typekit mem).bind fun _ => keeps_pure fun _ _ => trivial
    · rintro _ t ⟨ht, -⟩ none
      have scope' : t.scope m = t.project m := by rw [Store.scope, ht.scopes m (.inl rfl)]
      have shorter : ¬(s.project m).usedTypekits.length < (t.scope m).usedTypekits.length :=
        of_decide_eq_false none
      rw [scope'] at shorter
      rw [Store.registryOf, scope']
      exact ht.same (ht.used.eq_of_length_le (Nat.not_lt.1 shorter)).symm

/-- A name that a registry does not give has no definition there. -/
theorem Registry.find?_of_get_error {r : Registry} {name : String} {fault : Fault}
    (h : r.get name = .error fault) :
    r.find? (Typename.normalize name) = none ∧ fault = .typeNotFound (Typename.normalize name) := by
  unfold Registry.get at h
  split at h
  · cases h
  · rename_i absent
    cases h
    exact ⟨absent, rfl⟩

/-- A main project for which the typekits of its libraries can be loaded and merged, as far as a
miss imports them. -/
structure LoadableScope (m : ProjectId) (s : Store) : Prop extends LibraryScope m s where
  reached : s.Reachable
  loads : ∃ found t, m.importOnMiss s = .ok found t

namespace LoadableScope

variable {m : ProjectId} {s t : Store}

/-- Once the typekit of each library was asked for, there is nothing left to load. -/
theorem of_asked (h : LibraryScope m s) (reached : s.Reachable) (asked : s.TypekitsAsked m) :
    LoadableScope m s := by
  obtain ⟨found, t, ok, -⟩ := (ProjectId.ends_importOnMiss_of_asked h asked (.inl rfl)).exists_ok
  exact ⟨h, reached, found, t, ok⟩

/-- The definition of a name is looked up: it is that of the registry that the lookup leaves. If
there is none, the typekit of each library was asked for. -/
theorem ends_findType_registered (h : LoadableScope m s) (name : String) :
    Ends (m.findType (.named name)) s
      (fun d t => (t.registryOf m).get name = .ok d ∧ (t = s ∨ t.TypekitsAsked m))
      fun fault t => (t.registryOf m).get name = .error fault ∧ t.TypekitsAsked m := by
  refine ends_bind.2 (ends_get.2 ?_)
  cases hget : (s.registryOf m).get name with
  | ok d => exact ⟨hget, .inl rfl⟩
  | error fault =>
    obtain ⟨found, u, ok⟩ := h.loads
    have asked := (ProjectId.ends_importOnMiss_of_main h.toLibraryScope).of_ok ok
    have same :=
      (ProjectId.ends_importOnMiss_unused h.toLibraryScope h.reached.libraries.apart).of_ok ok
    refine ends_bind.2 (ends_of_eq_ok ok (ends_ite.2 ⟨fun _ => ends_bind.2 ?_, fun none => ?_⟩))
    · exact Work.ends_ofExcept.2 ⟨fun d hd => ⟨hd, .inr asked⟩, fun fault hf => ⟨hf, asked⟩⟩
    · have unused : found = false := by simpa using none
      exact ⟨by rw [same unused, hget], asked⟩

/-- A lookup leaves a scope in which types can be looked up again. It fails only for a name without
a definition. -/
theorem ends_findType (h : LoadableScope m s) (name : String) :
    Ends (m.findType (.named name)) s
      (fun d t => (LoadableScope m t ∧ s.Looked t) ∧ (t.registryOf m).get name = .ok d)
      fun fault t => (LoadableScope m t ∧ s.Looked t) ∧ t.TypekitsAsked m ∧
        (t.registryOf m).find? (Typename.normalize name) = none ∧
        fault = .typeNotFound (Typename.normalize name) := by
  have looked := looking_looks.findType m (.named name) s h.reached.looking
  have settled := m.typing_findType (.named name) s h.settled
  have after {t : Store} (ht : declaring.holds t) (looked : s.Looked t)
      (asked : t.TypekitsAsked m) :
      LoadableScope m t :=
    .of_asked (h.of_frame looked.steps.1.frame ht)
      (h.reached.evolves looked.steps.1.evolves ht.1) asked
  refine ((looked.and settled).and (h.ends_findType_registered name)).mono ?_ ?_
  · rintro d t ⟨⟨⟨-, looked⟩, ht, -⟩, found, same | asked⟩
    · subst same
      exact ⟨⟨h, looked⟩, found⟩
    · exact ⟨⟨after ht looked asked, looked⟩, found⟩
  · rintro fault t ⟨⟨⟨-, looked, -⟩, ht, -⟩, missing, asked⟩
    exact ⟨⟨after ht looked asked, looked⟩, asked, Registry.find?_of_get_error missing⟩

end LoadableScope

end Componentry
