import Componentry.Proofs.AgreeingTypes
import Componentry.Proofs.LazyTypekits
import Componentry.Proofs.TypekitPackages
import Componentry.Proofs.TypekitUses

/-!
# The order in which typekits are used

Typekits are merged into the registry of a project one after the other, and a definition that
differs from the one that its name has stops the merge. Whether that happens is told by the
definitions of all registries together, and so is what is registered in the end. So the order in
which a project uses typekits of packages does not matter, whether some are used before and however
often they are named.
-/

namespace Componentry

open Declares

namespace Store

/-- The types in the registries of a project and of typekits. -/
def typesWith (s : Store) (p : ProjectId) (ids : List TypekitId) : List TypeDef :=
  (s.registryOf p).types ++ ids.flatMap s.typesOf

/-- The types with typekits are those before and those of each. -/
theorem mem_typesWith {s : Store} {p : ProjectId} {ids : List TypekitId} {d : TypeDef} :
    d ∈ s.typesWith p ids ↔ d ∈ (s.registryOf p).types ∨ ∃ id ∈ ids, d ∈ s.typesOf id := by
  rw [typesWith, List.mem_append, List.mem_flatMap]

end Store

/-- Uses typekits one after the other. -/
def ProjectId.usingTypekits (p : ProjectId) (ids : List TypekitId) : Work Unit :=
  ids.forM fun id => discard (p.usingTypekit id)

/-- A project of its own in a run that has come to a state. -/
structure MainProject (p : ProjectId) (s : Store) : Prop where
  uses : s.SettledUses
  made : p.index < s.projects.items.length
  isMain : (s.project p).main = none

namespace MainProject

variable {p : ProjectId} {s t : Store}

/-- A main project is its own scope. -/
theorem scope (h : MainProject p s) : s.projects.scope p = p :=
  Store.scope_of_own h.isMain

/-- The registry of a main project is its own. -/
theorem registryOf (h : MainProject p s) : s.registryOf p = s.registry (s.project p).registry := by
  rw [Store.registryOf, Store.scope, h.scope]

/-- What steps leave of a project and of a typekit that was loaded. -/
theorem evolves (h : MainProject p s) (steps : Evolves s t) (uses : t.SettledUses) :
    MainProject p t ∧ ∀ id, s.LoadedTypekit id →
      t.LoadedTypekit id ∧ t.typesOf id = s.typesOf id := by
  obtain ⟨-, longer, placed⟩ := steps.grows
  refine ⟨⟨uses, Nat.lt_of_lt_of_le h.made longer, (placed p h.made).main.trans h.isMain⟩,
    fun id loaded => ?_⟩
  obtain ⟨typekit, registry⟩ :=
    (h.uses.2.apart.kept_of_evolves steps).2 id loaded.frozen loaded.package
  refine ⟨loaded.of_eq typekit, ?_⟩
  rw [Store.typesOf, typekit, registry, Store.typesOf]

/-- A typekit that was loaded is used exactly if its types agree with those of the project. -/
theorem ends_usingTypekit (h : MainProject p s) {id : TypekitId} (loaded : s.LoadedTypekit id) :
    Ends (p.usingTypekit id) s
      (fun _ t => TypeDef.Agree (s.typesWith p [id]) ∧
        (∀ d, d ∈ (t.registryOf p).types ↔ d ∈ s.typesWith p [id]) ∧
        ∀ other, other ∈ (t.project p).usedTypekits ↔
          other ∈ (s.project p).usedTypekits ∨ other = id)
      fun fault _ => ¬TypeDef.Agree (s.typesWith p [id]) ∧
        ∃ name, fault = .conflictingTypes name := by
  have together :
      s.typesWith p [id] = (s.registry (s.project p).registry).types ++ s.typesOf id := by
    simp [Store.typesWith, h.registryOf]
  by_cases used : id ∈ (s.project p).usedTypekits
  · have merged : s.typesOf id ⊆ (s.registry (s.project p).registry).types :=
      (h.uses.2.used p id used).types loaded.package
    refine (p.ends_usingTypekit_of_used h.scope used).2 ⟨?_, fun d => ?_, fun other => ?_⟩
    · rw [together]
      exact (Registry.agree _).mono (List.append_subset.2 ⟨List.Subset.refl _, merged⟩)
    · rw [together, h.registryOf, List.mem_append]
      exact ⟨.inl, fun mem => mem.elim (fun old => old) fun new => merged new⟩
    · exact ⟨.inl, fun mem => mem.elim (fun old => old) fun same => same ▸ used⟩
  · rw [together]
    refine (p.ends_usingTypekit_of_unused h.scope used).2
      ((Registry.ends_addAll_agree _ _).mono ?_ fun _ _ h => h)
    rintro - r ⟨agree, held⟩
    have registry : (p.withUsedTypekit id r s).registryOf p = r := by
      have scope : (p.withUsedTypekit id r s).projects.scope p = p :=
        (Projects.scope_modify ..).trans h.scope
      have own : ((p.withUsedTypekit id r s).project p).registry = (s.project p).registry :=
        Projects.apply_modify (·.registry) (fun _ => by rfl) s.projects p p
      rw [Store.registryOf, Store.scope, scope, own, Store.registry_of_set (s := s) rfl]
      exact if_pos ⟨rfl, h.uses.2.apart.projects p⟩
    refine ⟨agree, ?_, fun other => ?_⟩
    · rw [registry]
      exact held
    · rw [p.mem_used_withUsedTypekit]
      exact ⟨fun mem => mem.imp_right fun new => new.1,
        fun mem => mem.imp_right fun same => ⟨same, rfl, h.made⟩⟩

/-- Typekits that were loaded are used one after the other exactly if all their types agree, with
those of the project and with each other. Then the project has them all, and uses these typekits
besides those that it used before. -/
theorem ends_usingTypekits (h : MainProject p s) {ids : List TypekitId}
    (loaded : ∀ id ∈ ids, s.LoadedTypekit id) :
    Ends (p.usingTypekits ids) s
      (fun _ t => TypeDef.Agree (s.typesWith p ids) ∧
        (∀ d, d ∈ (t.registryOf p).types ↔ d ∈ s.typesWith p ids) ∧
        ∀ id, id ∈ (t.project p).usedTypekits ↔ id ∈ (s.project p).usedTypekits ∨ id ∈ ids)
      fun fault _ => ¬TypeDef.Agree (s.typesWith p ids) ∧
        ∃ name, fault = .conflictingTypes name := by
  induction ids generalizing s with
  | nil =>
    have alone : s.typesWith p [] = (s.registryOf p).types := by simp [Store.typesWith]
    refine ⟨?_, fun d => ?_, fun id => by simp⟩
    · rw [alone]
      exact Registry.agree _
    · rw [alone]
  | cons id ids ih =>
    have first := loaded id List.mem_cons_self
    have steps := Work.evolving_of_offline (p.offline_usingTypekit id) s h.uses.1
    have uses : Ends (p.usingTypekit id) s (fun _ t => t.SettledUses) fun _ t => t.SettledUses :=
      ends_map.1 (h.uses.ends_usingTypekit p (.of_frozen first.frozen))
    refine ends_bind.2 (ends_map.2 (((steps.and uses).and (h.ends_usingTypekit first)).mono ?_ ?_))
    · rintro _ t ⟨⟨⟨-, steps⟩, uses⟩, -, types, used⟩
      obtain ⟨ht, kept⟩ := h.evolves steps uses
      have same (d : TypeDef) : d ∈ t.typesWith p ids ↔ d ∈ s.typesWith p (id :: ids) := by
        have others : (∃ id' ∈ ids, d ∈ t.typesOf id') ↔ ∃ id' ∈ ids, d ∈ s.typesOf id' :=
          exists_congr fun id' => and_congr_right fun mem => by
            rw [(kept id' (loaded id' (List.mem_cons_of_mem id mem))).2]
        simp only [Store.mem_typesWith, types, others, List.mem_cons, List.not_mem_nil, or_false,
          exists_eq_left, exists_eq_or_imp, or_assoc]
      refine (ih ht
        fun id' mem => (kept id' (loaded id' (List.mem_cons_of_mem id mem))).1).mono ?_ ?_
      · rintro _ u ⟨agree, types', used'⟩
        refine ⟨(TypeDef.Agree.congr same).1 agree, fun d => (types' d).trans (same d),
          fun id' => ?_⟩
        rw [used', used, List.mem_cons, or_assoc]
      · rintro fault u ⟨clash, conflict⟩
        exact ⟨fun agree => clash ((TypeDef.Agree.congr same).2 agree), conflict⟩
    · rintro fault t ⟨-, clash, conflict⟩
      refine ⟨fun agree => clash (agree.mono fun d hd => ?_), conflict⟩
      rw [Store.mem_typesWith] at hd ⊢
      refine hd.imp_right fun held => ?_
      obtain ⟨id', mem, hd⟩ := held
      exact ⟨id', by simpa using .inl (List.mem_singleton.1 mem), hd⟩

end MainProject

/-- The state after the typekit of one of the packages was imported by a new project. -/
def withAngles (name : String) (s : Store) : Store :=
  ProjectId.withImportedTypekit ⟨0⟩ name ⟨"/", [name]⟩ (angleTypes (name != "c"))
    (angleTypekit name (some (.atPath name ⟨"/", [name]⟩))) s

/-- A new project that has imported the typekits of the three packages. -/
def angleScope : Store :=
  withAngles "c" (withAngles "b" (withAngles "a"
    (anglePackages.withMain "app" ⟨"/", []⟩ ⟨0⟩ none)))

/-- The imports lead there. -/
theorem runAll_angles :
    Call.runAll (["a", "b", "c"].map fun name => .declare (.importTypekit ⟨0⟩ name))
      (anglePackages.withMain "app" ⟨"/", []⟩ ⟨0⟩ none) = angleScope := by
  have step (name : String) (mem : name ∈ ["a", "b", "c"]) (calls : List Call) (u : Store)
      (files : u.files = anglePackages.files) (scope : u.projects.scope ⟨0⟩ = ⟨0⟩)
      (slot : Project.slotOf (u.project ⟨0⟩).typekitSlots name = .unresolved)
      (entry : (u.packageMap (u.project ⟨0⟩).packages).entries.lookup name = some ⟨"/", [name]⟩) :
      Call.runAll (.declare (.importTypekit ⟨0⟩ name) :: calls) u =
        Call.runAll calls (withAngles name u) := by
    have holds := holdsTypekit_anglePackages mem
    rw [← files] at holds
    exact holds.runAll_importTypekit calls scope slot entry
      (makesTypekit_angle (name != "c") name _)
  let start := anglePackages.withMain "app" ⟨"/", []⟩ ⟨0⟩ none
  rw [List.map_cons, List.map_cons, List.map_singleton, step "a" (by simp) _ start rfl,
    step "b" (by simp) _ (withAngles "a" start) rfl,
    step "c" (by simp) _ (withAngles "b" (withAngles "a" start)) rfl]
  · rfl
  all_goals decide +kernel

/-- The three typekits are loaded. -/
theorem loadedTypekit_angleScope : ∀ id ∈ [⟨1⟩, ⟨2⟩, ⟨3⟩], angleScope.LoadedTypekit id := by
  intro id mem
  constructor <;> revert id <;> decide +kernel

/-- The first two define the same type of angles, the third one another one. -/
theorem typesOf_angleScope : angle true ∈ angleScope.typesOf ⟨1⟩ ∧
    angle true ∈ angleScope.typesOf ⟨2⟩ ∧ angle false ∈ angleScope.typesOf ⟨3⟩ := by
  decide +kernel

/-- So the types of the first two agree. -/
theorem agree_angleScope : TypeDef.Agree (angleScope.typesWith ⟨0⟩ [⟨1⟩, ⟨2⟩]) := by
  unfold TypeDef.Agree
  decide +kernel

/-- Those of the first and the third do not. -/
theorem not_agree_angleScope : ¬TypeDef.Agree (angleScope.typesWith ⟨0⟩ [⟨1⟩, ⟨3⟩]) := by
  intro agree
  obtain ⟨wide, -, narrow⟩ := typesOf_angleScope
  have same := agree (angle true) (Store.mem_typesWith.2 (.inr ⟨⟨1⟩, by simp, wide⟩))
    (angle false) (Store.mem_typesWith.2 (.inr ⟨⟨3⟩, by simp, narrow⟩)) rfl
  cases same

/-- In every state that a run reaches, the order in which a project of its own uses typekits that
were loaded does not matter. If the types of the project and of these typekits agree, all are used,
with the same definitions of all names and the same typekits in use. If two of them differ under one
name, this fails as a malformed declaration. -/
theorem usingTypekits_perm (files : Files.Tree) (packageMaps : List PackageMap) (name : String)
    (baseDir : Files.Path) (packages : PackageMapId) (calls : List Call)
    (given : Call.AllGiven calls (Store.withMain { files, packageMaps } name baseDir packages none))
    (p : ProjectId) (ids ids' : List TypekitId) :
    let s := Call.runAll calls (Store.withMain { files, packageMaps } name baseDir packages none)
    p.index < s.projects.items.length → (s.project p).main = none →
      (∀ id ∈ ids, s.LoadedTypekit id) → ids.Perm ids' →
      (TypeDef.Agree (s.typesWith p ids) ∧ ∃ t t', p.usingTypekits ids s = .ok () t ∧
        p.usingTypekits ids' s = .ok () t' ∧
        (∀ n, (t.registryOf p).find? n = (t'.registryOf p).find? n) ∧
        ∀ id, id ∈ (t.project p).usedTypekits ↔ id ∈ (t'.project p).usedTypekits) ∨
      (∃ d ∈ s.typesWith p ids, ∃ e ∈ s.typesWith p ids, d.name = e.name ∧ d ≠ e) ∧
        ∃ fault t fault' t',
        p.usingTypekits ids s = .error fault t ∧ fault.area = .malformedDeclaration ∧
        p.usingTypekits ids' s = .error fault' t' ∧ fault'.area = .malformedDeclaration := by
  intro s made isMain loaded perm
  have main : MainProject p s :=
    ⟨(Store.SettledUses.withMain_of_empty files packageMaps name baseDir packages).runAll given,
    made, isMain⟩
  have loaded' : ∀ id ∈ ids', s.LoadedTypekit id := fun id mem => loaded id (perm.mem_iff.2 mem)
  have same (d : TypeDef) : d ∈ s.typesWith p ids' ↔ d ∈ s.typesWith p ids := by
    simp only [Store.mem_typesWith, perm.mem_iff]
  have ends := main.ends_usingTypekits loaded
  have ends' := main.ends_usingTypekits loaded'
  rw [TypeDef.Agree.congr same] at ends'
  by_cases agree : TypeDef.Agree (s.typesWith p ids)
  · obtain ⟨_, t, run, -, types, used⟩ :=
      (ends.mono (fun _ _ h => h) fun _ _ h => h.1 agree).exists_ok
    obtain ⟨_, t', run', -, types', used'⟩ :=
      (ends'.mono (fun _ _ h => h) fun _ _ h => h.1 agree).exists_ok
    refine .inl ⟨agree, t, t', run, run', Registry.find?_congr fun d => ?_, fun id => ?_⟩
    · rw [types, types', same]
    · rw [used, used', perm.mem_iff]
  · obtain ⟨fault, t, run, -, n, rfl⟩ :=
      (ends.mono (fun _ _ h => agree h.1) fun _ _ h => h).exists_error
    obtain ⟨fault', t', run', -, n', rfl⟩ :=
      (ends'.mono (fun _ _ h => agree h.1) fun _ _ h => h).exists_error
    simp only [TypeDef.Agree, not_forall] at agree
    obtain ⟨d, hd, e, he, name, differ⟩ := agree
    exact .inr ⟨⟨d, hd, e, he, name, differ⟩, _, t, _, t', run, rfl, run', rfl⟩

/-- Three imports of typekits. Those that agree are used in both orders, and those that do not are
refused in both. -/
theorem usingTypekits_perm_anglePackages :
    let s := Call.runAll (["a", "b", "c"].map fun name => .declare (.importTypekit ⟨0⟩ name))
      (anglePackages.withMain "app" ⟨"/", []⟩ ⟨0⟩ none)
    (∀ id ∈ [⟨1⟩, ⟨2⟩, ⟨3⟩], s.LoadedTypekit id) ∧
      (angle true ∈ s.typesOf ⟨1⟩ ∧ angle true ∈ s.typesOf ⟨2⟩ ∧ angle false ∈ s.typesOf ⟨3⟩) ∧
      (∃ t t', ProjectId.usingTypekits ⟨0⟩ [⟨1⟩, ⟨2⟩] s = .ok () t ∧
        ProjectId.usingTypekits ⟨0⟩ [⟨2⟩, ⟨1⟩] s = .ok () t' ∧
        ∀ n, (t.registryOf ⟨0⟩).find? n = (t'.registryOf ⟨0⟩).find? n) ∧
      ∃ fault t fault' t', ProjectId.usingTypekits ⟨0⟩ [⟨1⟩, ⟨3⟩] s = .error fault t ∧
        fault.area = .malformedDeclaration ∧
          ProjectId.usingTypekits ⟨0⟩ [⟨3⟩, ⟨1⟩] s = .error fault' t' ∧
        fault'.area = .malformedDeclaration := by
  intro s
  have run : s = angleScope := runAll_angles
  have made : 0 < s.projects.items.length := by
    rw [run]
    decide +kernel
  have isMain : (s.project ⟨0⟩).main = none := by
    rw [run]
    decide +kernel
  have loaded : ∀ id ∈ [⟨1⟩, ⟨2⟩, ⟨3⟩], s.LoadedTypekit id := by
    rw [run]
    exact loadedTypekit_angleScope
  have given : Call.AllGiven (["a", "b", "c"].map fun name => .declare (.importTypekit ⟨0⟩ name))
      (anglePackages.withMain "app" ⟨"/", []⟩ ⟨0⟩ none) := ⟨trivial, trivial, trivial, trivial⟩
  have perm := usingTypekits_perm anglePackages.files anglePackages.packageMaps "app" ⟨"/", []⟩
    ⟨0⟩ _ given ⟨0⟩
  have agreeing := perm [⟨1⟩, ⟨2⟩] [⟨2⟩, ⟨1⟩] made isMain
    (fun id mem => loaded id (by revert id; decide)) (.swap ..)
  have clashing := perm [⟨1⟩, ⟨3⟩] [⟨3⟩, ⟨1⟩] made isMain
    (fun id mem => loaded id (by revert id; decide)) (.swap ..)
  have agree : TypeDef.Agree (s.typesWith ⟨0⟩ [⟨1⟩, ⟨2⟩]) := by
    rw [run]
    exact agree_angleScope
  have clash : ¬TypeDef.Agree (s.typesWith ⟨0⟩ [⟨1⟩, ⟨3⟩]) := by
    rw [run]
    exact not_agree_angleScope
  refine ⟨loaded, ?_, ?_, ?_⟩
  · rw [run]
    exact typesOf_angleScope
  · rcases agreeing with ⟨-, t, t', uses, uses', same, -⟩ | ⟨⟨d, hd, e, he, name, differ⟩, -⟩
    · exact ⟨t, t', uses, uses', same⟩
    · exact absurd (agree d hd e he name) differ
  · rcases clashing with ⟨agree, -⟩ | ⟨-, refused⟩
    · exact absurd agree clash
    · exact refused

end Componentry
