import Componentry.Proofs.RuledScopes

/-!
# Operations that keep scopes ruled

Typekits that are imported are complete, and their rules become visible with their types. The types
that a scope defines itself get rules in its own typekit, which is visible; an operation that fails
meanwhile ends the run. Only lookups of types fail in a way that a run recovers from, and those
leave the scope ruled.
-/

namespace Componentry

open Declares

/-- Whether a fault tells that a type is not found. -/
def Fault.MissesType (fault : Fault) : Prop :=
  ∃ name, fault = .typeNotFound name

namespace RuledScope

variable {m p : ProjectId} {s : Store}

/-- Loading a typekit keeps the scope ruled. -/
theorem keeps_loading {α : Type} {x : Work α} (hx : loading.Covers x) {R : Fault → Prop} :
    Keeps (RuledScope m) R x fun _ _ => True :=
  fun s h => (hx s trivial).mono (fun _ _ ⟨_, hst⟩ => ⟨h.of_loading hst, trivial⟩)
    fun _ _ ⟨_, hst, _⟩ _ => h.of_loading hst

/-- A typekit that is imported by name is complete. -/
theorem ends_importedTypekit (h : RuledScope m s) (scope : s.projects.scope p = m) (name : String) :
    Ends (p.importedTypekit name) s
      (fun id? t => RuledScope m t ∧ ∀ id, id? = some id → t.Complete id)
      fun fault t => fault.MissesType → RuledScope m t := by
  refine ends_bind.2 ?_
  change Ends (Work.resolveSlot (s.projects.scope p) _ _ name _) s _ _
  rw [scope]
  cases hslot : Project.slotOf (s.project m).typekitSlots name with
  | resolved id? =>
    refine Slot.ends_resolve_of_resolved hslot ⟨h, fun id hid => h.imported name id ?_⟩
    rw [hslot, hid]
  | resolving => exact Slot.ends_resolve_of_resolving hslot fun ⟨_, missing⟩ => by cases missing
  | unresolved =>
    have begun : RuledScope m (ProjectId.withTypekitSlot m name .resolving s) :=
      h.withTypekitSlot name nofun
    refine Slot.ends_resolve_of_unresolved hslot
      ((ProjectId.ends_loadTypekitPackage m name _).mono ?_ ?_)
    · rintro id? t ⟨hst, loaded⟩
      have complete (id : TypekitId) (hid : id? = some id) : t.Complete id :=
        ⟨(loaded id hid).1.1, (loaded id hid).1.2, (loaded id hid).2⟩
      refine ⟨(begun.of_loading hst).withTypekitSlot name
        fun id hid => complete id (by simpa using hid), fun id hid => ?_⟩
      exact ⟨(complete id hid).frozen, (complete id hid).package, (complete id hid).ruled⟩
    · exact fun fault t ⟨hst, _⟩ _ => (begun.of_loading hst).withTypekitSlot name nofun

/-- An imported typekit is complete, and the scope stays ruled. -/
theorem ends_importTypekit (h : RuledScope m s) (scope : s.projects.scope p = m) (name : String) :
    Ends (p.importTypekit name) s (fun id t => RuledScope m t ∧ t.Complete id)
      fun fault t => fault.MissesType → RuledScope m t := by
  refine ends_bind.2 ((h.ends_importedTypekit scope name).mono ?_ fun _ _ h => h)
  rintro id? t ⟨ht, complete⟩
  cases id? with
  | none => exact fun _ => ht
  | some id => exact ⟨ht, complete id rfl⟩

/-- The rules of a typekit become visible with its types. -/
theorem ends_usingTypekit (h : RuledScope m s) (scope : s.projects.scope p = m) {id : TypekitId}
    (complete : s.Complete id) :
    Ends (p.usingTypekit id) s (fun id' t => RuledScope m t ∧ t.Complete id')
      fun fault t => fault.MissesType → RuledScope m t := by
  have merged : Ends (p.usingTypekit id) s
      (fun id' t => id' = id ∧ id ∈ (t.project m).usedTypekits ∧ t.projects.scope m = m ∧
        ∀ d ∈ (t.registryOf m).types, d ∈ (s.registryOf m).types ∨
          d ∈ (s.registry (s.typekit id).registry).types)
      fun fault _ => ∃ name, fault = .conflictingTypes name := by
    refine ends_bind.2 ?_
    change Ends (if id ∈ (s.project (s.projects.scope p)).usedTypekits then _ else _) s _ _
    rw [scope]
    refine ends_ite.2 ⟨fun used => ⟨rfl, used, h.scope, fun d hd => .inl hd⟩, fun _ => ?_⟩
    refine ends_bind.2
      (Work.ends_onRegistry.2 ((Registry.ends_addAll _ _).mono ?_ fun _ _ h => h.2))
    rintro names r ⟨fresh, happ, -, hfresh, -⟩
    refine ⟨rfl, ?_, ?_, fun d hd => ?_⟩
    · simp [Store.project, Projects.get_modify, h.made]
    · exact (Projects.scope_modify ..).trans h.scope
    · let extended : Store :=
        { s with registries := s.registries.set (s.project m).registry.index r }
      have registry : extended.registryOf m = r :=
        (h.registryOf_of_set (t := extended) rfl rfl).trans (if_pos rfl)
      have kept := registryOf_modify extended m m
        (f := fun q => { q with usedTypekits := q.usedTypekits ++ [id] }) fun _ => rfl
      rw [registry] at kept
      have hd : d ∈ r.types := kept ▸ hd
      rw [happ] at hd
      rw [h.registryOf]
      exact (List.mem_append.1 hd).imp_right fun new => hfresh.subset new
  refine (((p.offline_usingTypekit id) s trivial).and merged).mono ?_ ?_
  · rintro id' t ⟨⟨-, hst⟩, same, used, scope, types⟩
    rw [same]
    have steps : Evolves s t := hst.1.1.evolves
    have visible : id ∈ t.visibleTypekits m := by
      rw [Store.mem_visibleTypekits, Store.scope, scope]
      exact .inr used
    refine ⟨h.of_offline hst fun d hd => (types d hd).imp_right fun new => ?_,
      h.apart.complete steps complete⟩
    exact ⟨complete.ruled.names d new, fun isOpaque =>
      ⟨id, visible, (complete.ruled.rules d new isOpaque).mono (steps.rules id)⟩⟩
  · rintro fault t ⟨-, conflict, rfl⟩ ⟨name, missing⟩
    cases missing

/-- The typekit that a library brings is complete, and the scope stays ruled. -/
theorem ends_importOwnTypekit (h : RuledScope m s) (scope : s.projects.scope p = m) :
    Ends p.importOwnTypekit s (fun id? t => RuledScope m t ∧ ∀ id, id? = some id → t.Complete id)
      fun fault t => fault.MissesType → RuledScope m t := by
  refine ends_bind.2 (ends_bind.2 (ends_get.2 (ends_pure.2 ?_)))
  rw [scope]
  refine ends_bind.2 (ends_get.2
    (ends_bind.2 (ends_bind.2 ((h.ends_importedTypekit h.scope _).mono ?_ fun _ _ h => h))))
  rintro id? t ⟨ht, -⟩
  refine ends_ite.2 ⟨fun _ => ?_, fun _ => ⟨ht, nofun⟩⟩
  refine ends_map.2 (ends_bind.2 ((ht.ends_importTypekit ht.scope _).mono ?_ fun _ _ h => h))
  rintro id u ⟨hu, complete⟩
  refine (hu.ends_usingTypekit hu.scope complete).mono ?_ fun _ _ h => h
  rintro used v ⟨hv, complete⟩
  refine ⟨hv, fun id hid => ?_⟩
  cases hid
  exact complete

/-- The typekit of a library is one that the scope imports. -/
theorem ends_typekit_of_imported (h : RuledScope m s) (imported : (s.project p).isImported = true)
    (create : Bool) :
    Ends (p.typekit create) s (fun id? t => RuledScope m t ∧ ∀ id, id? = some id → t.Complete id)
      fun fault t => fault.MissesType → RuledScope m t := by
  refine ends_bind.2 (ends_get.2 (ends_ite.2 ⟨fun _ => ?_, fun main => absurd imported main⟩))
  cases hslot : (s.project p).ownTypekitSlot with
  | resolved id? =>
    refine Slot.ends_resolve_of_resolved hslot ⟨h, fun id hid => h.importedOwn p id ?_⟩
    rw [hslot, hid]
  | resolving => exact Slot.ends_resolve_of_resolving hslot fun ⟨_, missing⟩ => by cases missing
  | unresolved =>
    have begun : RuledScope m (ProjectId.withOwnTypekitSlot p .resolving s) :=
      h.withOwnTypekitSlot p nofun nofun
    have scope : (ProjectId.withOwnTypekitSlot p .resolving s).projects.scope p = m :=
      (Projects.scope_modify ..).trans (h.scope_of_imported imported)
    have made : p.index < (ProjectId.withOwnTypekitSlot p .resolving s).projects.items.length :=
      (Projects.length_modify ..).symm ▸ Store.made_of_isImported imported
    refine Slot.ends_resolve_of_unresolved hslot
      (((begun.ends_importOwnTypekit scope).and
        (ProjectId.ends_importOwnTypekit_imported made)).mono ?_ ?_)
    · rintro id? t ⟨⟨ht, complete⟩, imported⟩
      have imported (id : TypekitId) (hid : Slot.resolved id? = .resolved (some id)) :=
        imported id (by simpa using hid)
      refine ⟨ht.withOwnTypekitSlot p imported fun id hid => complete id (by simpa using hid),
        fun id hid => ?_⟩
      exact ⟨(complete id hid).frozen, (complete id hid).package, (complete id hid).ruled⟩
    · exact fun fault t ⟨ht, _⟩ missing => (ht missing).withOwnTypekitSlot p nofun nofun

/-- The typekit of a project that is not imported is its own one. -/
theorem ends_typekit_of_main (h : RuledScope m s) (main : (s.project p).isImported = false)
    (create : Bool) :
    Ends (p.typekit create) s
      (fun id? t => RuledScope m t ∧
        (p = m → ∀ id, id? = some id → (t.project m).typekit = some id))
      fun _ t => RuledScope m t := by
  refine ends_bind.2
    (ends_get.2 (ends_ite.2 ⟨fun imported => absurd imported (by simp [main]), fun _ => ?_⟩))
  cases htypekit : (s.project p).typekit with
  | some id =>
    refine ⟨h, fun same id' hid => ?_⟩
    cases hid
    exact same ▸ htypekit
  | none =>
    refine ends_ite.2 ⟨fun _ => ?_, fun _ => ⟨h, fun _ _ => nofun⟩⟩
    refine ends_bind.2 (p.ends_checkMutable.2 ⟨fun isOpen => ?_, fun _ => h⟩)
    have made := Work.offline_step (.makeTypekit p htypekit isOpen main) rfl fun q => And.intro
      (Projects.apply_modify (·.typekitSlots) (fun _ => by rfl) s.projects p q)
      (Projects.apply_modify (·.ownTypekitSlot) (fun _ => by rfl) s.projects p q)
    refine ⟨h.of_offline made.2 fun d hd => .inl ?_, fun same id hid => ?_⟩
    · rwa [registryOf_modify _ p m fun _ => by rfl] at hd
    · cases hid
      subst same
      simp [Store.project, Projects.get_modify, h.made]

/-- Typekits that are asked for in a lookup. -/
theorem keeps_typekit (p : ProjectId) :
    Keeps (RuledScope m) Fault.MissesType (p.typekit false) fun _ _ => True := by
  intro s h
  cases kind : (s.project p).isImported with
  | true =>
    exact (h.ends_typekit_of_imported kind false).mono (fun _ _ ⟨ht, _⟩ => ⟨ht, trivial⟩)
      fun _ _ h => h
  | false =>
    exact (h.ends_typekit_of_main kind false).mono (fun _ _ ⟨ht, _⟩ => ⟨ht, trivial⟩)
      fun _ _ ht _ => ht

/-- A scope stays ruled when typekits are imported for a missed type. -/
theorem keeps_importOnMiss (p : ProjectId) :
    Keeps (RuledScope m) Fault.MissesType p.importOnMiss fun _ _ => True := by
  refine keeps_get.bind fun s => Keeps.ite (fun _ => ?_) fun _ => ?_
  · exact (keeps_typekit p).bind fun _ => keeps_get.bind fun _ => keeps_pure fun _ _ => trivial
  · refine Keeps.bind (keeps_forM fun library _ => ?_) fun _ =>
      keeps_get.bind fun _ => keeps_pure fun _ _ => trivial
    exact (keeps_typekit library).bind fun _ => keeps_pure fun _ _ => trivial

/-- A type that is found is registered in the scope. -/
theorem keeps_findType (p : ProjectId) (name : String) :
    Keeps (RuledScope m) Fault.MissesType (p.findType (.named name)) fun d t =>
      (t.registryOf p).get name = .ok d := by
  have looked : Keeps (RuledScope m) Fault.MissesType (p.findType (.named name))
      fun _ _ => True := by
    refine keeps_get.bind fun s => ?_
    split
    · exact keeps_pure fun _ _ => trivial
    · refine (keeps_importOnMiss p).bind fun found => Keeps.ite (fun _ => ?_) fun _ => keeps_throw _
      refine (keeps_loading (Work.loading_log _ _ _)).bind fun _ => keeps_get.bind fun t => ?_
      exact fun u h => Work.ends_ofExcept.2 ⟨fun _ _ => ⟨h, trivial⟩, fun _ _ _ => h⟩
  exact fun s h =>
    ((looked s h).and (p.ends_findType name s)).mono (fun _ _ ⟨⟨ht, _⟩, found⟩ => ⟨ht, found⟩)
    fun _ _ ⟨ht, _⟩ => ht

/-- The typekit that a scope builds is visible there. -/
theorem marshals_of_own (scope : s.projects.scope m = m) {id : TypekitId}
    (own : (s.project m).typekit = some id) {name : String} (ruled : (s.typekit id).Marshals name) :
    s.Marshals m name := by
  refine ⟨id, ?_, ruled⟩
  rw [Store.mem_visibleTypekits, Store.scope, scope]
  exact .inl own

/-- An opaque type that the scope declares in its own typekit gets a rule there. -/
theorem ends_declareOpaque_own (h : RuledScope m s) {id : TypekitId}
    (own : (s.project m).typekit = some id) (name intermediate : String) (headers : List String)
    (needsCopy : Bool) :
    Ends (Work.onTypekit id (Typekit.declareOpaque name intermediate headers needsCopy)) s
      (fun _ t => RuledScope m t) fun _ _ => True := by
  have declared :
      Ends (Work.onTypekit id (Typekit.declareOpaque name intermediate headers needsCopy)) s
      (fun _ t => t.Marshals m (Typename.normalize name) ∧
        ∀ d ∈ (t.registryOf m).types, d ∈ (s.registryOf m).types ∨ d.name = Typename.normalize name)
      fun _ _ => True := by
    refine Work.ends_onTypekit.2
      ((Typekit.ends_declareOpaque name intermediate headers needsCopy _).mono ?_ fun _ _ h => h)
    rintro _ ⟨k, r⟩ ⟨ruled, registered⟩
    let t : Store := { s with
      typekits := s.typekits.set id.index k, registries :=
        s.registries.set (s.typekit id).registry.index r }
    have typekit : t.typekit id = k :=
      (Store.typekit_of_set (s := s) rfl id).trans (if_pos ⟨rfl, h.own id own⟩)
    refine ⟨marshals_of_own (s := t) h.scope own (typekit.symm ▸ ruled), fun d hd => ?_⟩
    · have registry := h.registryOf_of_set (t := t) (r := r) rfl rfl
      change d ∈ (t.registryOf m).types at hd
      rw [registry] at hd
      split at hd
      · rename_i same
        have old := registered d hd
        rw [same] at old
        rwa [h.registryOf]
      · exact .inl hd
  refine ((Typekit.offline_declareOpaque id name intermediate headers needsCopy s trivial).and
    declared).mono ?_ fun _ _ _ => trivial
  rintro _ t ⟨⟨-, hst⟩, ruled, types⟩
  refine h.of_offline hst fun d hd => (types d hd).imp_right fun same => ?_
  rw [same]
  exact ⟨Typename.normalize_normalize name, fun _ => ruled⟩

/-- An opaque type cannot be declared in a library, whose typekit is complete. -/
theorem ends_declareOpaque (h : RuledScope m s) (scope : s.projects.scope p = m)
    (name intermediate : String) (headers : List String) (needsCopy : Bool) :
    Ends (p.declareOpaque name intermediate headers needsCopy) s (fun _ t => RuledScope m t)
      fun _ _ => True := by
  refine ends_bind.2
    (p.ends_checkMutable.2 ⟨fun _ => ends_bind.2 (ends_get.2 (ends_bind.2 ?_)), fun _ => trivial⟩)
  cases kind : (s.project p).isImported with
  | true =>
    refine (h.ends_typekit_of_imported kind true).mono ?_ fun _ _ _ => trivial
    rintro id? t ⟨-, complete⟩
    cases id? with
    | none => exact trivial
    | some id =>
      refine ends_bind.2 (ends_get.2 (ends_ite.2 ⟨fun _ => trivial, fun isOpen => ?_⟩))
      exact absurd (complete id rfl).frozen isOpen
  | false =>
    have same : p = m := (scope_of_main kind).symm.trans scope
    refine (h.ends_typekit_of_main kind true).mono ?_ fun _ _ _ => trivial
    rintro id? t ⟨ht, own⟩
    cases id? with
    | none => exact trivial
    | some id =>
      refine ends_bind.2 (ends_get.2 (ends_ite.2 ⟨fun _ => trivial, fun _ => ?_⟩))
      exact ht.ends_declareOpaque_own (own same id rfl) name intermediate headers needsCopy

/-- What is added to a typekit that the scope builds while the registry of the scope stays as it
is. -/
private def ruling (m : ProjectId) (id : TypekitId) (r : Registry) : Effect Fault Store where
  holds t := t.registryOf m = r ∧ id.index < t.typekits.length
  change t u := (t.typekit id).opaques ⊆ (u.typekit id).opaques
  fault _ := True
  refl _ := List.Subset.refl _
  trans := List.Subset.trans

/-- A change of a typekit that supplies rules keeps all rules before it. -/
private theorem ends_ruling {α : Type} {id : TypekitId} {r : Registry} {x : Typekit.Change α}
    {Q : α → Typekit → Prop}
    (hx : ∀ kr, Ends x kr (fun a kr' => Typekit.Supplied kr kr' ∧ Q a kr'.1)
      fun _ kr' => Typekit.Supplied kr kr')
    {t : Store} (ht : (ruling m id r).holds t) :
    Ends (Work.onTypekit id x) t
      (fun a u => (ruling m id r).holds u ∧ (ruling m id r).change t u ∧ Q a (u.typekit id))
      fun fault u => (ruling m id r).holds u ∧ (ruling m id r).change t u ∧
        (ruling m id r).fault fault := by
  have stays {k : Typekit} {r' : Registry}
      (supplied : Typekit.Supplied (t.typekit id, t.registry (t.typekit id).registry) (k, r')) :
      let u : Store := { t with
        typekits := t.typekits.set id.index k, registries :=
          t.registries.set (t.typekit id).registry.index r' }
      (ruling m id r).holds u ∧ (ruling m id r).change t u ∧ u.typekit id = k := by
    intro u
    have typekit : u.typekit id = k :=
      (Store.typekit_of_set (s := t) rfl id).trans (if_pos ⟨rfl, ht.2⟩)
    have registry (q : RegistryId) : u.registry q = t.registry q := by
      rw [Store.registry_of_set (s := t) rfl]
      split
      · rename_i same
        rw [same.1]
        exact supplied.registry
      · rfl
    refine ⟨⟨?_, ?_⟩, ?_, typekit⟩
    · exact (registry _).trans ht.1
    · exact (List.length_set ..).symm ▸ ht.2
    · change (t.typekit id).opaques ⊆ (u.typekit id).opaques
      rw [typekit]
      exact supplied.rules
  refine Work.ends_onTypekit.2 ((hx _).mono ?_ ?_)
  · rintro a ⟨k, r'⟩ ⟨supplied, q⟩
    obtain ⟨held, more, typekit⟩ := stays supplied
    exact ⟨held, more, typekit.symm ▸ q⟩
  · rintro fault ⟨k, r'⟩ supplied
    obtain ⟨held, more, -⟩ := stays supplied
    exact ⟨held, more, trivial⟩

/-- What follows an export of types starts with the same registry of the scope. -/
private theorem ends_ruling_exportTypes {α : Type} {id : TypekitId} {r : Registry}
    {x : PUnit → Work α} {P : α → Store → Prop} (names : List String) (interface : Bool) {t : Store}
    (ht : (ruling m id r).holds t)
    (hx : ∀ u, (ruling m id r).holds u → Ends (x ⟨⟩) u P fun _ _ => True) :
    Ends (Work.onTypekit id (Typekit.exportTypes names interface) >>= x) t P fun _ _ => True := by
  refine ends_bind.2 ((ends_ruling (Q := fun _ _ => True) (fun kr => ?_) ht).mono ?_
    fun _ _ _ => trivial)
  · exact (Typekit.ends_exportTypes_supplied names interface kr).mono
      (fun _ _ same => ⟨same, trivial⟩) fun _ _ h => h
  · exact fun _ u ⟨hu, _⟩ => hx u hu

/-- The opaque types of a descriptor get their rules in the typekit that the scope builds. -/
private theorem ends_ruling_addDescribedRules {id : TypekitId} {r : Registry} {xml : String}
    {types : List TypeDef} (htypes : Descriptor.types xml = .ok types) {t : Store}
    (ht : (ruling m id r).holds t) :
    Ends (ProjectId.addDescribedRules id xml) t
      (fun _ u => u.registryOf m = r ∧ ∀ d ∈ types, d.isOpaque = true →
        (u.typekit id).Marshals d.name)
      fun _ _ => True := by
  refine ends_bind.2 (Work.ends_ofExcept.2 ⟨fun rules hrules => ends_bind.2 ?_, fun _ _ => trivial⟩)
  refine (Effect.ends_forM (E := ruling m id r) (Q := fun rule u => rule ∈ (u.typekit id).opaques)
    (fun rule _ _ more mem => more mem) (fun rule _ u hu => ?_) ht).mono ?_ fun _ _ _ => trivial
  · exact ends_ruling (Q := fun _ k => rule ∈ k.opaques) (Typekit.ends_addRule rule) hu
  · rintro _ u ⟨⟨registry, -⟩, -, added⟩
    refine ⟨registry, fun d hd isOpaque => ?_⟩
    obtain ⟨rule, mem, same⟩ := Descriptor.rules_of_types htypes hrules d hd isOpaque
    exact ⟨rule, added rule mem, same⟩

/-- Whether a typekit has rules for the opaque types of a descriptor, and no other types came into
the registry of the scope. -/
private def Described (m : ProjectId) (id : TypekitId) (xml : String) (s t : Store) : Prop :=
  ∃ types, Descriptor.types xml = .ok types ∧
    (∀ d ∈ (t.registryOf m).types, d ∈ (s.registryOf m).types ∨ d ∈ types) ∧
    ∀ d ∈ types, d.isOpaque = true → (t.typekit id).Marshals d.name

/-- Types that are defined in the own typekit are described by it. -/
private theorem ends_defineTypes_own (h : RuledScope m s) {id : TypekitId}
    (own : (s.project m).typekit = some id) (xml : String) (typelist : Option String) :
    Ends (m.defineTypes id xml typelist) s (fun _ t => Described m id xml s t) fun _ _ => True := by
  refine ends_bind.2 (ends_get.2 (ends_bind.2 ?_))
  rw [Store.scope, h.scope]
  refine Work.ends_onRegistry.2 ((Registry.ends_mergeInto xml _).mono ?_ fun _ _ _ => trivial)
  rintro added r ⟨types, fresh, htypes, happ, -, hfresh, -⟩
  let merged : Store := { s with registries := s.registries.set (s.project m).registry.index r }
  have start : (ruling m id r).holds merged :=
    ⟨(h.registryOf_of_set (t := merged) rfl rfl).trans (if_pos rfl), h.own id own⟩
  have origin : ∀ d ∈ r.types, d ∈ (s.registryOf m).types ∨ d ∈ types := by
    intro d hd
    rw [happ] at hd
    rw [h.registryOf]
    exact (List.mem_append.1 hd).imp_right fun new => hfresh.subset new
  have finish {t : Store} (ht : (ruling m id r).holds t) :
      Ends (ProjectId.addDescribedRules id xml) t (fun _ u => Described m id xml s u)
        fun _ _ => True := by
    refine (ends_ruling_addDescribedRules htypes ht).mono ?_ fun _ _ h => h
    rintro _ u ⟨registry, ruled⟩
    exact ⟨types, htypes, registry ▸ origin, ruled⟩
  cases typelist with
  | none => exact ends_ruling_exportTypes _ _ start fun _ ht => finish ht
  | some text =>
    refine ends_bind.2 (Work.ends_ofExcept.2 ⟨fun types _ => ?_, fun _ _ => trivial⟩)
    exact ends_ruling_exportTypes _ _ start fun _ ht =>
      ends_ruling_exportTypes _ _ ht fun _ hu => finish hu

/-- Types are defined in the own typekit of a ruled scope. -/
theorem ends_defineTypes (h : RuledScope m s) {id : TypekitId}
    (own : (s.project m).typekit = some id) (xml : String) (typelist : Option String) :
    Ends (m.defineTypes id xml typelist) s (fun _ t => RuledScope m t) fun _ _ => True := by
  refine ((m.offline_defineTypes id xml typelist s trivial).and
    (h.ends_defineTypes_own own xml typelist)).mono ?_ fun _ _ _ => trivial
  rintro _ t ⟨⟨-, hst⟩, types, htypes, origin, ruled⟩
  have steps : Evolves s t := hst.1.1.evolves
  have own' : (t.project m).typekit = some id := (steps.equipped h.made).typekit id own
  have scope : t.projects.scope m = m := (steps.registryOf h.made).1.trans h.scope
  refine h.of_offline hst fun d hd => (origin d hd).imp_right fun new => ?_
  exact ⟨Descriptor.names_of_types htypes d new,
    fun isOpaque => marshals_of_own scope own' (ruled d new isOpaque)⟩

/-- Types are defined in the typekit that the scope builds. -/
theorem ends_loadTypekit (h : RuledScope m s) (xml : String) (typelist : Option String) :
    Ends (m.loadTypekit xml typelist) s (fun _ t => RuledScope m t) fun _ _ => True := by
  have main : (s.project m).isImported = false := by simp [Project.isImported, h.isMain]
  refine ends_bind.2 (m.ends_checkMutable.2 ⟨fun _ => ends_bind.2 ?_, fun _ => trivial⟩)
  refine (h.ends_typekit_of_main main true).mono ?_ fun _ _ _ => trivial
  rintro id? t ⟨ht, own⟩
  cases id? with
  | none => exact trivial
  | some id => exact ht.ends_defineTypes (own rfl id rfl) xml typelist

end RuledScope

namespace ProjectId

variable {p : ProjectId} {s : Store}

/-- The state in which a project has declared its first opaque type, for which its typekit was
made. -/
def withFirstOpaque (p : ProjectId) (t : TypeDef) (rule : OpaqueRule) (s : Store)
    (new : (s.registry (s.project p).registry).find? t.name = none) : Store :=
  let own : Typekit := { name := (s.project p).name, registry := (s.project p).registry }
  { s with
    typekits := s.typekits ++ [own.withOpaque t rule rfl]
    registries := s.registries.set (s.project p).registry.index
      ((s.registry (s.project p).registry).append t new)
    projects := s.projects.modify p ({ · with typekit := some ⟨s.typekits.length⟩ }) }

/-- A main project that has no typekit yet declares an opaque type with a new name if its
intermediate type is registered. -/
theorem ends_declareOpaque_first {name intermediate : String} (headers : List String)
    (needsCopy : Bool) {t u : TypeDef}
    (ht : t = { name := Typename.normalize name, kind := .opaqueType })
    (main : (s.project p).isImported = false) (isOpen : (s.project p).frozen = false)
    (absent : (s.project p).typekit = none)
    (new : (s.registry (s.project p).registry).find? t.name = none)
    (found : (s.registry (s.project p).registry).get intermediate = .ok u) :
    Ends (p.declareOpaque name intermediate headers needsCopy) s
      (fun _ s' => s' = p.withFirstOpaque t
        { typeName := t.name, intermediateName := u.name, needsCopy, headers } s new)
      fun _ _ => False := by
  have mutable {P : PUnit → Store → Prop} (h : P ⟨⟩ s) : Ends p.checkMutable s P fun _ _ => False :=
    p.ends_checkMutable.2 ⟨fun _ => h, fun frozen => by simp [isOpen] at frozen⟩
  refine ends_bind.2
    (mutable (ends_bind.2 (ends_get.2 (ends_bind.2 (ends_bind.2 (ends_get.2 ?_))))))
  refine ends_ite.2 ⟨fun imported => absurd imported (by simp [main]), fun _ => ?_⟩
  rw [absent]
  refine ends_ite.2 ⟨fun _ => ?_, fun no => absurd rfl no⟩
  refine ends_bind.2
    (mutable (ends_bind.2 (Work.ends_newTypekit.2 (ends_bind.2 (ends_modify.2 ?_)))))
  let own : Typekit := { name := (s.project p).name, registry := (s.project p).registry }
  let made : Store := { s with
    typekits := s.typekits ++ [own]
    projects := s.projects.modify p ({ · with typekit := some ⟨s.typekits.length⟩ }) }
  have typekit : made.typekit ⟨s.typekits.length⟩ = own := by simp [made, Store.typekit]
  change Ends (if (made.typekit ⟨s.typekits.length⟩).frozen then _ else _) made _ _
  rw [typekit]
  refine ends_ite.2 ⟨fun complete => absurd complete Bool.false_ne_true,
    fun _ => Work.ends_onTypekit.2 ?_⟩
  rw [typekit]
  refine (Typekit.ends_declareOpaque_new headers needsCopy ht rfl new rfl rfl found).mono ?_
    fun _ _ h => h
  rintro _ _ rfl
  simp [made, withFirstOpaque, own]

section First

variable {start : Store} (hstart : Store.withMain {} "app" ⟨"/", []⟩ ⟨0⟩ none = start)
include hstart

/-- The first project of a run declares an opaque type that is marshalled as a registered one. -/
theorem ends_declareOpaque_initial {name intermediate : String} (headers : List String)
    (needsCopy : Bool) {t u : TypeDef}
    (ht : t = { name := Typename.normalize name, kind := .opaqueType })
    (new : (start.registry (start.project ⟨0⟩).registry).find? t.name = none)
    (found : (start.registry (start.project ⟨0⟩).registry).get intermediate = .ok u) :
    Ends (declareOpaque ⟨0⟩ name intermediate headers needsCopy) start
      (fun _ s => s =
        withFirstOpaque ⟨0⟩ t { typeName := t.name, intermediateName := u.name, needsCopy, headers }
          start new)
      fun _ _ => False := by
  have main : (start.project ⟨0⟩).isImported = false := by rw [← hstart]; decide +kernel
  have isOpen : (start.project ⟨0⟩).frozen = false := by rw [← hstart]; decide +kernel
  have absent : (start.project ⟨0⟩).typekit = none := by rw [← hstart]; decide +kernel
  exact ends_declareOpaque_first headers needsCopy ht main isOpen absent new found

/-- The state of a run after its first project has declared its first opaque type. -/
theorem runAll_declareOpaque_initial {name intermediate : String} (headers : List String)
    (needsCopy : Bool) {t u : TypeDef}
    (ht : t = { name := Typename.normalize name, kind := .opaqueType })
    (new : (start.registry (start.project ⟨0⟩).registry).find? t.name = none)
    (found : (start.registry (start.project ⟨0⟩).registry).get intermediate = .ok u)
    (more : List Call) :
    Call.runAll (.newProject "app" ⟨"/", []⟩ ⟨0⟩ none none ::
        .declare (.declareOpaque ⟨0⟩ name intermediate headers needsCopy) :: more) {} =
      Call.runAll more
        (withFirstOpaque ⟨0⟩ t
          { typeName := t.name, intermediateName := u.name, needsCopy, headers } start new) := by
  have made : (Call.newProject "app" ⟨"/", []⟩ ⟨0⟩ none none).run.after {} = start :=
    Work.after_of_ends (Q := fun t => t = start)
      (ends_map.2 (Work.ends_newMain {} "app" ⟨"/", []⟩ ⟨0⟩ none hstart))
  have declared := ends_declareOpaque_initial hstart headers needsCopy ht new found
  have after :
      (Call.declare (.declareOpaque ⟨0⟩ name intermediate headers needsCopy)).run.after start = _ :=
    Work.after_of_ends (Q := fun t => t = _)
      (ends_map.2 (declared.mono (fun _ _ h => h) fun _ _ h => h.elim))
  simp only [Call.runAll, List.foldl_cons, made, after]

end First

/-- Before the first project of a run has declared a type, it knows the number that it may marshal a
type as. -/
theorem get_int_initial {start : Store}
    (hstart : Store.withMain {} "app" ⟨"/", []⟩ ⟨0⟩ none = start) :
    (start.registry (start.project ⟨0⟩).registry).get "int" =
      .ok { name := "/int", kind := .numeric, category := some "sint", size := some 4 } := by
  rw [← hstart]
  decide +kernel

/-- An opaque type of handles, as it is declared. -/
theorem typeDef_handle : ({ name := "/Handle", kind := .opaqueType } : TypeDef) =
    { name := Typename.normalize "Handle", kind := .opaqueType } := by
  decide +kernel

/-- Before the first project of a run has declared a type, it knows none of handles. -/
theorem find?_handle_initial {start : Store}
    (hstart : Store.withMain {} "app" ⟨"/", []⟩ ⟨0⟩ none = start) :
    (start.registry (start.project ⟨0⟩).registry).find? "/Handle" = none := by
  rw [← hstart]
  decide +kernel

end ProjectId

end Componentry
