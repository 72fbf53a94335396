import Componentry.Proofs.OpaqueRules

/-!
# Importing typekits and looking up types

Loading a typekit makes a registry and a typekit that no other project or typekit has, and completes
it before it is given, with a rule for each of its opaque types. Imports of typekits do not wait for
each other: while one is under way no other is asked for.
-/

namespace Componentry

open Declares

/-- Whether a state has further registries and typekits, and the same projects. -/
structure Appended (s t : Store) : Prop where
  registries : s.registries <+: t.registries
  typekits : s.typekits <+: t.typekits
  projects : t.projects = s.projects

/-- Nothing has to be added. -/
theorem Appended.refl (s : Store) : Appended s s :=
  ⟨List.prefix_refl _, List.prefix_refl _, rfl⟩

/-- What was added in two steps was added. -/
theorem Appended.trans {s t u : Store} (h : Appended s t) (h' : Appended t u) : Appended s u :=
  ⟨h.registries.trans h'.registries, h.typekits.trans h'.typekits, h'.projects.trans h.projects⟩

/-- Operations that load typekits. -/
def Declares.loading : Effect Fault Store where
  holds _ := True
  change s t := offline.change s t ∧ Appended s t
  fault fault := fault.isCycle = false
  refl s := ⟨offline.refl s, .refl s⟩
  trans h h' := ⟨offline.trans h.1 h'.1, h.2.trans h'.2⟩

namespace Work

/-- An operation that imports nothing and only adds registries and typekits is one that loads
typekits. -/
theorem loading_of_offline {α : Type} {x : Work α} (h : offline.Covers x)
    (appended : ∀ s, Ends x s (fun _ t => Appended s t) fun _ t => Appended s t) :
    loading.Covers x := by
  refine fun s _ => ((h s trivial).and (appended s)).mono ?_ ?_
  · exact fun _ t ⟨⟨_, hst⟩, more⟩ => ⟨trivial, hst, more⟩
  · exact fun _ t ⟨⟨_, hst, hf⟩, more⟩ => ⟨trivial, ⟨hst, more⟩, hf⟩

/-- A message is logged while typekits are loaded. -/
theorem loading_log (severity : Severity) (origin text : String) :
    loading.Covers (Work.log severity origin text) :=
  loading_of_offline (offline_log _ _ _) fun _ => ⟨List.prefix_refl _, List.prefix_refl _, rfl⟩

/-- Files are read while typekits are loaded. -/
theorem loading_onFiles {α : Type} {x : Files.Change α} (h : Files.reading.Covers x) :
    loading.Covers (Work.onFiles x) := by
  refine loading_of_offline (offline_onFiles h) fun s =>
    ends_onFiles.2 ((ends_trivial x s.files).mono ?_ ?_)
  · exact fun _ _ _ => ⟨List.prefix_refl _, List.prefix_refl _, rfl⟩
  · exact fun _ _ _ => ⟨List.prefix_refl _, List.prefix_refl _, rfl⟩

/-- The state with one more registry and one more typekit. -/
def withTypekit (s : Store) (r : Registry) (k : Typekit) : Store :=
  { s with registries := s.registries ++ [r], typekits := s.typekits ++ [k] }

/-- The typekit that was made last. -/
theorem typekit_withTypekit (s : Store) (r : Registry) (k : Typekit) :
    (withTypekit s r k).typekit ⟨s.typekits.length⟩ = k := by simp [withTypekit, Store.typekit]

/-- The registry that was made with it. -/
theorem registry_withTypekit {s : Store} {k : Typekit} (own : k.registry = ⟨s.registries.length⟩)
    (r : Registry) :
    (withTypekit s r k).registry k.registry = r := by simp [own, withTypekit, Store.registry]

/-- What holds while the rules of a loaded typekit are added. -/
private structure Building (s : Store) (name : String) (package : Option Package)
    (k : Typekit) : Prop where
  registry : k.registry = ⟨s.registries.length⟩
  name : k.name = name
  package : k.package = package
  isOpen : k.frozen = false
  plain : k.isVirtual = false
  within : ∀ n ∈ k.types.interface, n ∈ k.types.exported

/-- The rules of a loaded typekit are added to the typekit that was made last. -/
private def building (s : Store) (name : String) (package : Option Package)
    (r : Registry) : Effect Fault Store where
  holds t := ∃ k, Building s name package k ∧ t = withTypekit s r k
  change t u := (t.typekit ⟨s.typekits.length⟩).opaques ⊆ (u.typekit ⟨s.typekits.length⟩).opaques
  fault fault := fault.isCycle = false
  refl _ := List.Subset.refl _
  trans h h' := List.Subset.trans h h'

/-- A rule is added to the typekit that is built, or the typekit is left as it was. -/
private theorem ends_building_addRule (s : Store) (name : String) (package : Option Package)
    (r : Registry) {rule : OpaqueRule}
    (canonical : Typename.normalize rule.typeName = rule.typeName) {t : Store}
    (ht : (building s name package r).holds t) :
    Ends (Work.onTypekit ⟨s.typekits.length⟩ (Typekit.addRule rule)) t
      (fun _ u => (building s name package r).holds u ∧ (building s name package r).change t u ∧
        rule ∈ (u.typekit ⟨s.typekits.length⟩).opaques)
      fun fault u => (building s name package r).holds u ∧ (building s name package r).change t u ∧
        (building s name package r).fault fault := by
  obtain ⟨k, hk, rfl⟩ := ht
  have ends :=
    (Typekit.covers_addRule canonical (k, r) hk.isOpen).and (Typekit.ends_addRule rule (k, r))
  have placed (kr : Typekit × Registry) (edits : Typekit.Edits (k, r) kr) (same : kr.2 = r) :
      Building s name package kr.1 ∧ { withTypekit s r k with
        typekits := (withTypekit s r k).typekits.set s.typekits.length kr.1
        registries := (withTypekit s r k).registries.set k.registry.index kr.2 } =
          withTypekit s r kr.1 := by
    have kept := edits.kept
    refine ⟨⟨kept.registry.trans hk.registry, kept.name.trans hk.name,
      kept.package.trans hk.package,
      kept.frozen.trans hk.isOpen, kept.isVirtual.trans hk.plain, edits.within hk.within⟩, ?_⟩
    simp [withTypekit, hk.registry, same]
  refine ends_onTypekit.2 ?_
  rw [typekit_withTypekit, registry_withTypekit hk.registry]
  refine ends.mono ?_ ?_
  · rintro _ kr ⟨⟨-, edits⟩, supplied, added⟩
    obtain ⟨built, there⟩ := placed kr edits supplied.registry
    rw [there]
    refine ⟨⟨kr.1, built, rfl⟩, ?_, ?_⟩
    · change (Store.typekit _ _).opaques ⊆ (Store.typekit _ _).opaques
      rw [typekit_withTypekit, typekit_withTypekit]
      exact supplied.rules
    · rwa [typekit_withTypekit]
  · rintro fault kr ⟨⟨-, edits, hf⟩, supplied⟩
    obtain ⟨built, there⟩ := placed kr edits supplied.registry
    rw [there]
    refine ⟨⟨kr.1, built, rfl⟩, ?_, hf⟩
    change (Store.typekit _ _).opaques ⊆ (Store.typekit _ _).opaques
    rw [typekit_withTypekit, typekit_withTypekit]
    exact supplied.rules

/-- A typekit that was just made is one to be built. -/
private theorem building_new {s : Store} {name : String} {package : Option Package}
    {exported interface : List String} {k : Typekit}
    (h : Typekit.new name ⟨s.registries.length⟩ exported interface package = .ok k) :
    Building s name package k := by
  simp only [Typekit.new] at h
  split at h
  · rename_i within
    cases h
    exact ⟨rfl, rfl, rfl, rfl, rfl, NameSet.subset_iff.1 within⟩
  · cases h

/-- A typekit with the rules of a descriptor marshals the types of the descriptor, besides those
that are built in. -/
private theorem marshalsAll_of_descriptor {xml : String} {types : List TypeDef}
    {rules : List OpaqueRule} (htypes : Descriptor.types xml = .ok types)
    (hrules : Descriptor.opaqueRules xml = .ok rules) {k : Typekit} {r : Registry}
    {fresh : List TypeDef} (happ : r.types = Registry.standard.types ++ fresh) (sub : fresh ⊆ types)
    (ruled : ∀ rule ∈ rules, rule ∈ k.opaques) : k.MarshalsAll r where
  names t ht := by
    rw [happ] at ht
    rcases List.mem_append.1 ht with standard | fresh
    · exact (Registry.standard_plain t standard).1
    · exact Descriptor.names_of_types htypes t (sub fresh)
  rules t ht isOpaque := by
    rw [happ] at ht
    rcases List.mem_append.1 ht with standard | fresh
    · rw [(Registry.standard_plain t standard).2] at isOpaque
      cases isOpaque
    · obtain ⟨rule, mem, same⟩ := Descriptor.rules_of_types htypes hrules t (sub fresh) isOpaque
      exact ⟨rule, ruled rule mem, same⟩

/-- A typekit that is loaded from a descriptor is complete and has its rules, and it and its
registry are new. -/
theorem ends_typekitOfDescriptor (name : String) (package : Option Package) (xml typelist : String)
    (s : Store) :
    Ends (Work.typekitOfDescriptor name package xml typelist) s
      (fun id t => loading.change s t ∧ id = ⟨s.typekits.length⟩ ∧ (t.typekit id).frozen = true ∧
        (t.typekit id).package = package ∧ (t.typekit id).name = name ∧
        (t.typekit id).MarshalsAll (t.registry (t.typekit id).registry))
      fun fault t => loading.change s t ∧ fault.isCycle = false := by
  have newRegistry {r : Registry} (grows : Registry.standard.Extends r) :
      loading.change s { s with registries := s.registries ++ [r] } :=
    ⟨(offline_step' (.newRegistry grows) rfl rfl).2, List.prefix_append _ _,
      List.prefix_refl _, rfl⟩
  have newTypekit {r : Registry} {k : Typekit} (grows : Registry.standard.Extends r)
      (built : Building s name package k) (frozen : Bool) :
      loading.change s (withTypekit s r { k with frozen }) :=
    have step :=
      Declared.newTypekit (k := { k with frozen }) grows built.registry built.plain built.within
    ⟨(offline_step' step rfl rfl).2, List.prefix_append _ _, List.prefix_append _ _, rfl⟩
  unfold Work.typekitOfDescriptor
  simp only [ends_bind]
  change Ends (Work.onRegistry ⟨s.registries.length⟩ (Descriptor.mergeInto xml))
    { s with registries := s.registries ++ [Registry.standard] } _ _
  have hlast : ({ s with registries := s.registries ++ [Registry.standard] } :
      Store).registry ⟨s.registries.length⟩ = Registry.standard := by simp [Store.registry]
  have hset (r : Registry) :
      (s.registries ++ [Registry.standard]).set s.registries.length r = s.registries ++ [r] := by
    simp
  refine ends_onRegistry.2 ?_
  simp only [hlast, hset]
  refine (Registry.ends_mergeInto xml .standard).mono ?_ fun fault r ⟨grows, hf⟩ =>
    ⟨newRegistry grows, hf⟩
  rintro added r ⟨read, fresh, hread, happ, -, hfresh, -⟩
  have grows : Registry.standard.Extends r := ⟨fresh, happ.symm⟩
  refine ends_ofExcept.2 ⟨fun types _ => ?_,
    fun fault h => ⟨newRegistry grows, Typelist.cycleFree_parse _ fault h⟩⟩
  refine ends_ofExcept.2 ⟨fun k hk => ?_, fun fault h =>
    ⟨newRegistry grows, Typekit.cycleFree_new _ _ _ _ _ fault h⟩⟩
  have built : Building s name package k := building_new hk
  change Ends (Work.ofExcept (Descriptor.opaqueRules xml)) (withTypekit s r k) _ _
  refine ends_ofExcept.2 ⟨fun rules hrules => ?_, fun fault h =>
    ⟨newTypekit grows built k.frozen, Descriptor.cycleFree_opaqueRules _ fault h⟩⟩
  have start : (building s name package r).holds (withTypekit s r k) := ⟨k, built, rfl⟩
  have canonical := Descriptor.names_of_opaqueRules hrules
  refine (Effect.ends_forM (E := building s name package r)
    (Q := fun rule t => rule ∈ (t.typekit ⟨s.typekits.length⟩).opaques)
    (fun _ _ _ kept mem => kept mem)
    (fun rule mem _ ht => ends_building_addRule s name package r (canonical rule mem) ht)
      start).mono ?_ ?_
  · rintro - t ⟨⟨k', built', rfl⟩, -, ruled⟩
    rw [typekit_withTypekit] at ruled
    have completed (f : Typekit → Typekit) : ({ withTypekit s r k' with
        typekits := (withTypekit s r k').typekits.modify s.typekits.length f } : Store) =
        withTypekit s r (f k') := by
      simp [withTypekit, List.modify_eq_set]
    simp only [Work.modifyTypekit, ends_modify, ends_pure]
    rw [completed, typekit_withTypekit]
    refine ⟨newTypekit grows built' true, trivial, rfl, built'.package, built'.name, ?_⟩
    rw [registry_withTypekit (k := { k' with frozen := true }) built'.registry]
    exact marshalsAll_of_descriptor hread hrules happ hfresh.subset ruled
  · rintro fault t ⟨⟨k', built', rfl⟩, -, hf⟩
    exact ⟨newTypekit grows built' k'.frozen, hf⟩

end Work

namespace ProjectId

/-- The scope of a project is found without an import. -/
theorem offline_scope (p : ProjectId) : offline.Covers p.scope :=
  Effect.covers_get.bind fun _ => Effect.covers_pure _

/-- Declarations may be made in a project that is not frozen. -/
theorem ends_checkMutable (p : ProjectId) {s : Store} {P : PUnit → Store → Prop}
    {F : Fault → Store → Prop} :
    Ends p.checkMutable s P F ↔ ((s.project p).frozen = false → P ⟨⟩ s) ∧
      ((s.project p).frozen = true → F (.frozenProject (s.project p).name) s) := by
  unfold checkMutable Project.checkMutable
  simp only [ends_bind, ends_get, Work.ends_ofExcept]
  cases (s.project p).frozen with
  | true => simp
  | false => simpa using ⟨fun h => h ⟨⟩, fun h _ => h⟩

/-- Whether a project may be changed is checked without an import. -/
theorem offline_checkMutable (p : ProjectId) : offline.Covers p.checkMutable :=
  Effect.covers_get.bind fun _ => Work.offline_ofExcept (Project.cycleFree_checkMutable _)

/-- The files of a typekit are read while it is loaded. -/
theorem loading_readTypekitFiles (name : String) (package : Package) :
    loading.Covers (readTypekitFiles name package) := by
  refine Effect.Covers.tryCatch (Work.loading_onFiles ?_) fun fault hf => ?_
  · refine (Files.Change.covers_readText _).bind fun xml =>
      (Files.Change.covers_isPresent _).bind fun present => ?_
    exact Effect.Covers.ite
      (fun _ => (Files.Change.covers_readText _).bind fun _ => Effect.covers_pure _)
      fun _ => Effect.covers_pure _
  · split
    · exact Effect.covers_throw rfl
    · exact Effect.covers_throw hf

/-- A typekit that is loaded from a package is complete, knows the package and has its rules. -/
theorem ends_loadTypekitPackage (p : ProjectId) (name : String) (s : Store) :
    Ends (p.loadTypekitPackage name) s
      (fun id? t => loading.change s t ∧ ∀ id, id? = some id →
        ((t.typekit id).frozen = true ∧ (t.typekit id).package.isSome = true) ∧
          (t.typekit id).MarshalsAll (t.registry (t.typekit id).registry))
      fun fault t => loading.change s t ∧ fault.isCycle = false := by
  have failed (fault : Fault) (t : Store) (_ : loading.holds t) (hst : loading.change s t)
      (hf : fault.isCycle = false) : loading.change s t ∧ fault.isCycle = false := ⟨hst, hf⟩
  have found : loading.Covers (Work.orNoPackage
      (some <$> Work.onFiles ((s.packageMap (s.project p).packages).find name)) do
        Work.log .debug logName s!"{(s.project p).name}: no package for typekit {name}"
        return none) := by
    refine Effect.Covers.tryCatch (Work.loading_onFiles (PackageMap.covers_find _ name)).map
      fun fault hf => ?_
    have none_ : loading.Covers (do
        Work.log .debug logName s!"{(s.project p).name}: no package for typekit {name}"
        return (none : Option Package)) :=
      (Work.loading_log _ _ _).bind fun _ => Effect.covers_pure _
    split
    · exact none_
    · exact none_
    · exact Effect.covers_throw hf
  refine ends_bind.2 ((found s trivial).ends_bind failed fun package? t _ hst => ?_)
  cases package? with
  | none => exact ⟨hst, by simp⟩
  | some package =>
    refine (Work.loading_onFiles (Files.Change.covers_isFile _) t trivial).ends_bind
      (fun fault u _ htu hf => ⟨loading.trans hst htu, hf⟩) fun present u _ htu => ?_
    have hsu := loading.trans hst htu
    refine ends_ite.2 ⟨fun _ => ⟨hsu, by simp⟩, fun _ => ?_⟩
    refine (loading_readTypekitFiles name package u trivial).ends_bind
      (fun fault v _ huv hf => ⟨loading.trans hsu huv, hf⟩) fun (xml, typelist) v _ huv => ?_
    have hsv := loading.trans hsu huv
    refine (Work.loading_log _ _ _ v trivial).ends_bind
      (fun fault w _ hvw hf => ⟨loading.trans hsv hvw, hf⟩) fun _ w _ hvw => ?_
    have hsw := loading.trans hsv hvw
    refine ends_map.2
      ((Work.ends_typekitOfDescriptor name (some package) xml typelist w).mono ?_ ?_)
    · rintro id x ⟨hwx, -, hfrozen, hpackage, -, ruled⟩
      refine ⟨loading.trans hsw hwx, fun id' h => ?_⟩
      cases h
      exact ⟨⟨hfrozen, by rw [hpackage]; rfl⟩, ruled⟩
    · exact fun fault x ⟨hwx, hf⟩ => ⟨loading.trans hsw hwx, hf⟩

/-- The state with the import of a typekit in another state. -/
def withTypekitSlot (p : ProjectId) (name : String) (slot : Slot (Option TypekitId))
    (s : Store) : Store :=
  { s with
    projects := s.projects.modify p fun q =>
      { q with typekitSlots := Project.setSlot q.typekitSlots name slot } }

/-- Writing the slot of a typekit leaves the slots of the typekits of libraries as they are. -/
private theorem ownTypekitSlot_withTypekitSlot (p q : ProjectId) (name : String)
    (slot : Slot (Option TypekitId)) (s : Store) :
    ((withTypekitSlot p name slot s).project q).ownTypekitSlot = (s.project q).ownTypekitSlot :=
  Projects.apply_modify (·.ownTypekitSlot) (fun _ => by rfl) s.projects p q

/-- After a slot is written again, the others are as they were before the first write. -/
private theorem slotOf_rewritten (p q : ProjectId) (name name' : String)
    (slot : Slot (Option TypekitId)) {s t : Store}
    (length : t.projects.items.length = s.projects.items.length)
    (same : ∀ q, (t.project q).typekitSlots =
        ((withTypekitSlot p name .resolving s).project q).typekitSlots) :
    Project.slotOf ((withTypekitSlot p name slot t).project q).typekitSlots name' =
        Project.slotOf (s.project q).typekitSlots name' ∨
      Project.slotOf ((withTypekitSlot p name slot t).project q).typekitSlots name' = slot := by
  have first := same q
  simp only [withTypekitSlot, Store.project, Projects.get_modify] at first ⊢
  by_cases written : q = p ∧ p.index < s.projects.items.length
  · rw [if_pos written] at first
    rw [if_pos (by rw [length]; exact written)]
    simp only [first, Project.slotOf_setSlot]
    split
    · exact .inr rfl
    · exact .inl rfl
  · rw [if_neg written] at first
    rw [if_neg (by rw [length]; exact written)]
    exact .inl (by rw [first])

/-- A typekit is imported, or is found to be imported already. -/
theorem importing_importedTypekit (p : ProjectId) (name : String) :
    importing.Covers (p.importedTypekit name) := by
  refine (Work.importing_of_offline p.offline_scope).bind fun scope => ?_
  intro s hs
  cases hslot : Project.slotOf (s.project scope).typekitSlots name with
  | resolved id? => exact Slot.ends_resolve_of_resolved hslot ⟨hs, importing.refl s⟩
  | resolving => exact absurd hslot (hs scope name)
  | unresolved =>
    -- The load leaves the slots as they are while its own slot is resolving.
    have start : Declared s (withTypekitSlot scope name .resolving s) :=
      .importTypekit scope name .resolving (by simp)
    have finish {t : Store} (hst : offline.change (withTypekitSlot scope name .resolving s) t)
        {slot : Slot (Option TypekitId)} (step : Declared t (withTypekitSlot scope name slot t))
        (idle : slot ≠ .resolving) :
        importing.holds (withTypekitSlot scope name slot t) ∧
          importing.change s (withTypekitSlot scope name slot t) := by
      have length := hst.1.1.frame.length.trans start.frame.length
      refine ⟨?_, ⟨(hst.1.1.head start).tail step, hst.1.2⟩, fun q => ?_⟩
      · intro q name'
        rcases slotOf_rewritten scope q name name' slot length fun q => (hst.2 q).1 with h | h
        · rw [h]
          exact hs q name'
        · rw [h]
          exact idle
      · rw [ownTypekitSlot_withTypekitSlot, (hst.2 q).2, ownTypekitSlot_withTypekitSlot]
    refine Slot.ends_resolve_of_unresolved hslot
      ((ends_loadTypekitPackage scope name (withTypekitSlot scope name .resolving s)).mono ?_ ?_)
    · rintro id? t ⟨⟨hst, -⟩, complete⟩
      exact finish hst (.importTypekit scope name (.resolved id?)
        fun id h => (complete id (by simpa using h)).1) (by simp)
    · rintro fault t ⟨⟨hst, -⟩, hf⟩
      obtain ⟨ht, change⟩ := finish hst (.importTypekit scope name .unresolved (by simp)) (by simp)
      exact ⟨ht, change, hf⟩

/-- Whether a project uses a typekit is found without an import. -/
theorem importing_hasTypekit (p : ProjectId) (name : String) :
    importing.Covers (p.hasTypekit name) :=
  (importing_importedTypekit p name).bind fun _ => Effect.covers_pure _

/-- The typekit of a name is imported once. -/
theorem importing_importTypekit (p : ProjectId) (name : String) :
    importing.Covers (p.importTypekit name) := by
  refine (importing_importedTypekit p name).bind fun id? => ?_
  cases id? with
  | some id => exact Effect.covers_pure id
  | none => exact Effect.covers_throw rfl

/-- The types of a typekit are merged before it counts as used. -/
theorem offline_usingTypekit (p : ProjectId) (id : TypekitId) :
    offline.Covers (p.usingTypekit id) := by
  refine (offline_scope p).bind fun scope => Effect.covers_get_bind fun s _ => ?_
  refine ends_ite.2 ⟨fun _ => ⟨trivial, offline.refl s⟩, fun unused => ?_⟩
  refine ends_bind.2 (Work.ends_onRegistry.2 ((Registry.ends_addAll _ _).mono ?_ ?_))
  · rintro names r ⟨fresh, happ, -, -, held⟩
    let merged : Store :=
      { s with registries := s.registries.set (s.project scope).registry.index r }
    have grows : (s.registry (s.project scope).registry).Extends r := ⟨fresh, happ.symm⟩
    have complete : (s.project scope).registry.index < merged.registries.length →
        ∀ t ∈ (merged.registry (s.typekit id).registry).types,
          t ∈ (merged.registry (s.project scope).registry).types := by
      intro inRange t ht
      rw [List.length_set] at inRange
      rw [Store.registry_of_set rfl] at ht ⊢
      rw [if_pos ⟨rfl, inRange⟩]
      split at ht
      · exact ht
      · exact held t ht
    have extended : Declared s merged := .extend scope grows
    have used : Declared merged _ := .useTypekit scope id unused complete
    have slots (q : ProjectId) := And.intro
      (Projects.apply_modify (·.typekitSlots)
        (f := fun q => { q with usedTypekits := q.usedTypekits ++ [id] })
        (fun _ => by rfl) s.projects scope q)
      (Projects.apply_modify (·.ownTypekitSlot)
        (f := fun q => { q with usedTypekits := q.usedTypekits ++ [id] })
        (fun _ => by rfl) s.projects scope q)
    refine ⟨trivial,
      ⟨((Relation.ReflTransGen.single extended).tail used).tail (.log _), rfl⟩, slots⟩
  · rintro fault r ⟨grows, name, rfl⟩
    exact ⟨trivial, (Work.offline_step' (.extend scope grows) rfl rfl).2, rfl⟩

/-- The typekit that a library brings is imported for its main project. -/
theorem importing_importOwnTypekit (p : ProjectId) : importing.Covers p.importOwnTypekit := by
  refine (Work.importing_of_offline p.offline_scope).bind fun scope =>
    Effect.covers_get.bind fun s => ?_
  refine (importing_hasTypekit scope _).bind fun present =>
    Effect.Covers.ite (fun _ => ?_) fun _ => Effect.covers_pure _
  refine Effect.Covers.map ((importing_importTypekit scope _).bind fun id => ?_)
  exact Work.importing_of_offline (offline_usingTypekit scope id)

/-- A typekit that the scope gives by name is in the slot of the name. -/
theorem ends_importedTypekit_imported {p : ProjectId} {s : Store}
    (made : p.index < s.projects.items.length) (name : String) :
    Ends (p.importedTypekit name) s
      (fun id? t => (∀ id, id? = some id → t.Imported id) ∧
        t.projects.items.length = s.projects.items.length)
      fun _ _ => True := by
  have made := Projects.scope_made made
  refine ends_bind.2 ?_
  change Ends (Work.resolveSlot (s.projects.scope p) _ _ name _) s _ _
  generalize s.projects.scope p = m at made
  cases hslot : Project.slotOf (s.project m).typekitSlots name with
  | resolved id? =>
    exact Slot.ends_resolve_of_resolved hslot ⟨fun id hid => ⟨m, name, hid ▸ hslot⟩, rfl⟩
  | resolving => exact Slot.ends_resolve_of_resolving hslot trivial
  | unresolved =>
    refine Slot.ends_resolve_of_unresolved hslot
      ((ends_loadTypekitPackage m name _).mono ?_ fun _ _ _ => trivial)
    rintro id? t ⟨⟨_, loaded⟩, -⟩
    have length : t.projects.items.length = s.projects.items.length :=
      (congrArg (·.items.length) loaded.projects).trans (Projects.length_modify ..)
    refine ⟨fun id hid => ⟨m, name, ?_⟩, (Projects.length_modify ..).trans length⟩
    rw [Store.project, Projects.get_modify, if_pos ⟨rfl, length ▸ made⟩, Project.slotOf_setSlot,
      if_pos rfl, hid]

/-- A typekit that is used is given back. -/
theorem ends_usingTypekit_same (p : ProjectId) (id : TypekitId) (s : Store) :
    Ends (p.usingTypekit id) s (fun used _ => used = id) fun _ _ => True := by
  change Ends (if id ∈ (s.project (s.projects.scope p)).usedTypekits then _ else _) s _ _
  refine ends_ite.2 ⟨fun _ => rfl, fun _ => ends_bind.2 ?_⟩
  exact (ends_trivial _ _).mono (fun _ _ _ => rfl) fun _ _ _ => trivial

/-- The typekit of a library was imported by name. -/
theorem ends_importOwnTypekit_imported {p : ProjectId} {s : Store}
    (made : p.index < s.projects.items.length) :
    Ends p.importOwnTypekit s (fun id? t => ∀ id, id? = some id → t.Imported id)
      fun _ _ => True := by
  refine ends_bind.2 (ends_bind.2 (ends_get.2 ?_))
  have made := Projects.scope_made made
  generalize s.projects.scope p = m at made
  refine ends_bind.2 (ends_get.2 (ends_bind.2 (ends_bind.2 ?_)))
  refine (ends_importedTypekit_imported made _).mono (fun id? t ⟨_, length⟩ => ?_)
    fun _ _ _ => trivial
  refine ends_ite.2 ⟨fun _ => ?_, fun _ => nofun⟩
  refine ends_map.2 (ends_bind.2 (ends_bind.2 ?_))
  refine (ends_importedTypekit_imported (length ▸ made) _).mono (fun id? u ⟨imported, _⟩ => ?_)
    fun _ _ _ => trivial
  cases id? with
  | none => exact trivial
  | some id =>
    refine ((offline_usingTypekit m id u trivial).and (ends_usingTypekit_same m id u)).mono ?_
      fun _ _ _ => trivial
    rintro used v ⟨⟨-, -, slots⟩, rfl⟩ _ ⟨⟩
    obtain ⟨q, name, slot⟩ := imported _ rfl
    exact ⟨q, name, (slots q).1 ▸ slot⟩

/-- The state with the import of the typekit of a library in another state. -/
def withOwnTypekitSlot (p : ProjectId) (slot : Slot (Option TypekitId)) (s : Store) : Store :=
  { s with projects := s.projects.modify p ({ · with ownTypekitSlot := slot }) }

/-- The import of the own typekit of a library is no import of a typekit of a name. -/
theorem importing_withOwnTypekitSlot {p : ProjectId} {slot : Slot (Option TypekitId)} {s : Store}
    (hs : importing.holds s) : importing.holds (withOwnTypekitSlot p slot s) := by
  intro q name
  have same :=
    Projects.apply_modify (·.typekitSlots) (f := fun q => { q with ownTypekitSlot := slot })
    (fun _ => by rfl) s.projects p q
  simp only [withOwnTypekitSlot, Store.project, same]
  exact hs q name

/-- The typekit of a project that is imported, and the one that a project makes for itself. -/
theorem typing_typekit (p : ProjectId) (create : Bool) : typing.Covers (p.typekit create) := by
  refine Effect.covers_get_bind fun s hs => ends_ite.2 ⟨fun isImported => ?_, fun _ => ?_⟩
  · cases hslot : (s.project p).ownTypekitSlot with
    | resolved id? => exact Slot.ends_resolve_of_resolved hslot ⟨hs, typing.refl s⟩
    | resolving => exact absurd hslot (hs.2 p)
    | unresolved =>
      have start : Declared s (withOwnTypekitSlot p .resolving s) :=
        .importOwnTypekit p .resolving (by simp)
      have finish {t : Store} (ht : importing.holds t)
          (hst : importing.change (withOwnTypekitSlot p .resolving s) t)
          (slot : Slot (Option TypekitId)) (idle : slot ≠ .resolving)
          (imported : ∀ id, slot = .resolved (some id) → t.Imported id) :
          typing.holds (withOwnTypekitSlot p slot t) ∧
            typing.change s (withOwnTypekitSlot p slot t) := by
        refine ⟨⟨importing_withOwnTypekitSlot ht, fun q => ?_⟩,
          ⟨(hst.1.1.head start).tail (.importOwnTypekit p slot imported), hst.1.2⟩⟩
        have first := hst.2 q
        have length := hst.1.1.frame.length.trans start.frame.length
        simp only [withOwnTypekitSlot, Store.project, Projects.get_modify] at first ⊢
        by_cases written : q = p ∧ p.index < s.projects.items.length
        · rw [if_pos (by rw [length]; exact written)]
          exact idle
        · rw [if_neg written] at first
          rw [if_neg (by rw [length]; exact written), first]
          exact hs.2 q
      have mid : importing.holds (withOwnTypekitSlot p .resolving s) :=
        importing_withOwnTypekitSlot hs.1
      have made : p.index < (withOwnTypekitSlot p .resolving s).projects.items.length :=
        (Projects.length_modify ..).symm ▸ Store.made_of_isImported isImported
      refine Slot.ends_resolve_of_unresolved hslot
        (((importing_importOwnTypekit p _ mid).and
          (ends_importOwnTypekit_imported made)).mono ?_ ?_)
      · rintro id? t ⟨⟨ht, hst⟩, imported⟩
        exact finish ht hst (.resolved id?) (by simp) fun id hid => imported id (by simpa using hid)
      · rintro fault t ⟨⟨ht, hst, hf⟩, -⟩
        obtain ⟨hu, change⟩ := finish ht hst .unresolved (by simp) (by simp)
        exact ⟨hu, change, hf⟩
  · rename_i main
    cases htypekit : (s.project p).typekit with
    | some id => exact ⟨hs, typing.refl s⟩
    | none =>
      refine ends_ite.2 ⟨fun _ => ?_, fun _ => ⟨hs, typing.refl s⟩⟩
      refine ends_bind.2
        (p.ends_checkMutable.2 ⟨fun isOpen => ?_, fun _ => ⟨hs, typing.refl s, rfl⟩⟩)
      have step := Declared.makeTypekit p htypekit isOpen (by simpa using main)
      refine Work.typing_of_offline_from hs (Work.offline_step step rfl fun q => ⟨?_, ?_⟩)
      · exact Projects.apply_modify (·.typekitSlots) (fun _ => by rfl) s.projects p q
      · exact Projects.apply_modify (·.ownTypekitSlot) (fun _ => by rfl) s.projects p q

end ProjectId

end Componentry
