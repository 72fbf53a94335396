import Componentry.Proofs.Lookups
import Componentry.Proofs.OwnTypekits
import Componentry.Proofs.Upholding

/-!
# Typekits in use

A project that uses a typekit of a package has its types. When the typekit comes into use its types
are merged, and from then on neither they nor the merged ones are taken away. Lookups and loads
bring typekits into use that they have loaded completely; any other typekit in use was handed over
by a call, and has to be one that an operation has given before.
-/

namespace Componentry

open Declares

namespace Store

variable (s : Store)

/-- Whether a typekit may have been given by an operation: it was made and, if it comes from a
package, is complete. -/
structure Given (id : TypekitId) : Prop where
  made : id.index < s.typekits.length
  complete : (s.typekit id).package.isSome = true → (s.typekit id).frozen = true

/-- Whether a typekit may have been given and, if it comes from a package, a project has its
types. -/
structure Merged (p : ProjectId) (id : TypekitId) : Prop extends s.Given id where
  types : (s.typekit id).package.isSome = true →
    (s.registry (s.typekit id).registry).types ⊆ (s.registry (s.project p).registry).types

variable {s} {t : Store} {p : ProjectId} {id : TypekitId}

/-- A complete typekit of a package is one that operations give. -/
theorem Given.of_frozen (frozen : (s.typekit id).frozen = true) : s.Given id :=
  ⟨made_of_frozen frozen, fun _ => frozen⟩

/-- A project that was not made uses no typekit. -/
theorem made_of_used (h : id ∈ (s.project p).usedTypekits) : p.index < s.projects.items.length := by
  by_contra past
  rw [project_of_unmade past] at h
  cases h

end Store

namespace PackagesApart

variable {s t : Store} {p : ProjectId} {id : TypekitId}

/-- A typekit that was made comes from the same package ever after, or from none. -/
theorem package_of_evolves (h : PackagesApart s) (steps : Evolves s t)
    (made : id.index < s.typekits.length) :
    id.index < t.typekits.length ∧ (t.typekit id).package = (s.typekit id).package := by
  induction steps with
  | refl => exact ⟨made, rfl⟩
  | tail before step ih =>
    obtain ⟨mid, same⟩ := ih
    refine ⟨Nat.lt_of_lt_of_le mid step.typekits_length, ?_⟩
    have inRange := (h.kept_of_evolves before).1.typekits id
    rcases step.reworked mid inRange with kept | completed | ⟨-, edits⟩
    · rw [kept, same]
    · rw [completed, same]
    · exact edits.kept.package.trans same

/-- A typekit that was given may be given ever after. -/
theorem given_of_evolves (h : PackagesApart s) (steps : Evolves s t) (given : s.Given id) :
    t.Given id := by
  obtain ⟨made, package⟩ := h.package_of_evolves steps given.made
  refine ⟨made, fun packaged => ?_⟩
  rw [package] at packaged
  have frozen := given.complete packaged
  rwa [((h.kept_of_evolves steps).2 id frozen packaged).1]

/-- Types that were merged stay merged. -/
theorem merged_of_evolves (h : PackagesApart s) (steps : Evolves s t)
    (hp : p.index < s.projects.items.length) (merged : s.Merged p id) : t.Merged p id := by
  refine ⟨h.given_of_evolves steps merged.toGiven, fun packaged => ?_⟩
  rw [(h.package_of_evolves steps merged.made).2] at packaged
  obtain ⟨typekit, registry⟩ := (h.kept_of_evolves steps).2 id (merged.complete packaged) packaged
  obtain ⟨grown, -, placed⟩ := steps.grows
  rw [typekit, registry, (placed p hp).registry]
  exact List.Subset.trans (merged.types packaged) (grown _).subset

end PackagesApart

/-- Typekits of packages are apart, and the projects that use them have their types. -/
structure UsesMerged (s : Store) : Prop where
  apart : PackagesApart s
  used : ∀ p, ∀ id ∈ (s.project p).usedTypekits, s.Merged p id

namespace UsesMerged

variable {s t : Store}

/-- Along steps that bring typekits into use together with their types. -/
theorem of_evolves (h : UsesMerged s) (steps : Evolves s t)
    (used : ∀ p, ∀ id ∈ (t.project p).usedTypekits, id ∈ (s.project p).usedTypekits ∨
        t.Merged p id) : UsesMerged t := by
  refine ⟨(h.apart.kept_of_evolves steps).1, fun p id hid => (used p id hid).elim (fun old => ?_)
    fun new => new⟩
  exact h.apart.merged_of_evolves steps (Store.made_of_used old) (h.used p id old)

end UsesMerged

namespace Declares

/-- Operations that bring no typekit into use. -/
def sparing : Effect Fault Store where
  holds _ := True
  change s t := ∀ p, (t.project p).usedTypekits = (s.project p).usedTypekits
  fault _ := True
  refl _ _ := rfl
  trans h h' p := (h' p).trans (h p)

/-- Operations that bring typekits into use with their types only. -/
def supplying : Effect Fault Store where
  holds s := importing.holds s ∧ UsesMerged s
  change _ _ := True
  fault _ := True
  refl _ := trivial
  trans _ _ := trivial

/-- A project is changed, but neither in the typekits that it uses nor in its imports of
typekits. -/
theorem supplying_modify {s t : Store} (hs : supplying.holds s) (steps : Evolves s t)
    (p : ProjectId) {f : Project → Project} (projects : t.projects = s.projects.modify p f)
    (slots : ∀ q, (f q).typekitSlots = q.typekitSlots)
    (used : ∀ q, (f q).usedTypekits = q.usedTypekits) :
    supplying.holds t := by
  refine ⟨fun q name => ?_, hs.2.of_evolves steps fun q id hid => .inl ?_⟩
  · rw [Store.project, projects, Projects.apply_modify (·.typekitSlots) slots]
    exact hs.1 q name
  · rwa [Store.project, projects, Projects.apply_modify (·.usedTypekits) used] at hid

end Declares

namespace Work

variable {α : Type} {x : Work α}

/-- An operation that leaves all projects as they are. -/
theorem sparing_of_projects
    (h : ∀ s, Ends x s (fun _ t => t.projects = s.projects) fun _ t => t.projects = s.projects) :
    sparing.Covers x := by
  have same {s t : Store} (projects : t.projects = s.projects) : sparing.change s t := fun p => by
    rw [Store.project, projects, Store.project]
  exact fun s _ => (h s).mono (fun _ _ projects => ⟨trivial, same projects⟩) fun _ _ projects =>
    ⟨trivial, same projects, trivial⟩

/-- A change of a typekit brings none into use. -/
theorem sparing_onTypekit (id : TypekitId) (x : Typekit.Change α) :
    sparing.Covers (Work.onTypekit id x) :=
  sparing_of_projects fun _ =>
    ends_onTypekit.2 ((ends_trivial x _).mono (fun _ _ _ => rfl) fun _ _ _ => rfl)

/-- A change of a registry brings no typekit into use. -/
theorem sparing_onRegistry (id : RegistryId) (x : Registry.Extension α) :
    sparing.Covers (Work.onRegistry id x) :=
  sparing_of_projects fun _ =>
    ends_onRegistry.2 ((ends_trivial x _).mono (fun _ _ _ => rfl) fun _ _ _ => rfl)

/-- An operation on files brings no typekit into use. -/
theorem sparing_onFiles (x : Files.Change α) : sparing.Covers (Work.onFiles x) :=
  sparing_of_projects fun _ =>
    ends_onFiles.2 ((ends_trivial x _).mono (fun _ _ _ => rfl) fun _ _ _ => rfl)

/-- A file of a typekit is read without bringing one into use. -/
theorem sparing_readTypekitFile (path : Files.Path) :
    sparing.Covers (Work.readTypekitFile path) := by
  refine Effect.Covers.tryCatch (sparing_onFiles _) fun fault _ => ?_
  split <;> exact Effect.covers_throw trivial

/-- A computation without a state brings no typekit into use. -/
theorem sparing_ofExcept (x : Except Fault α) : sparing.Covers (Work.ofExcept x) :=
  fun _ _ => ends_ofExcept.2 ⟨fun _ _ => ⟨trivial, fun _ => rfl⟩,
    fun _ _ => ⟨trivial, fun _ => rfl, trivial⟩⟩

/-- A change of a project in other fields brings no typekit into use. -/
theorem sparing_modify {p : ProjectId} {f : Project → Project}
    (same : ∀ q, (f q).usedTypekits = q.usedTypekits) (s : Store) :
    sparing.change s { s with projects := s.projects.modify p f } :=
  fun q => Projects.apply_modify (·.usedTypekits) same s.projects p q

/-- An operation that brings no typekit into use. -/
theorem supplying_of_sparing (steps : importing.Covers x) (spares : sparing.Covers x) :
    supplying.Covers x := by
  rintro s ⟨hs, merged⟩
  have kept {t : Store} (hst : importing.change s t) (same : sparing.change s t) :
      UsesMerged t := by
    refine merged.of_evolves hst.1.1.evolves fun p id hid => .inl ?_
    rwa [same p] at hid
  refine ((steps s hs).and (spares s trivial)).mono ?_ ?_
  · exact fun _ _ ⟨⟨ht, hst⟩, _, same⟩ => ⟨⟨ht, kept hst same⟩, trivial⟩
  · exact fun _ _ ⟨⟨ht, hst, _⟩, _, same, _⟩ => ⟨⟨ht, kept hst same⟩, trivial, trivial⟩

/-- A message in the log brings no typekit into use. -/
theorem supplying_log (severity : Severity) (origin text : String) :
    supplying.Covers (Work.log severity origin text) :=
  supplying_of_sparing (importing_of_offline (offline_log severity origin text))
    (sparing_of_projects fun _ => rfl)

end Work

namespace ProjectId

variable (p : ProjectId)

/-- A package of a typekit is loaded without bringing it into use. -/
theorem sparing_loadTypekitPackage (name : String) : sparing.Covers (p.loadTypekitPackage name) :=
  Work.sparing_of_projects fun s =>
    (p.ends_loadTypekitPackage name s).mono (fun _ _ h => h.1.2.projects)
    fun _ _ h => h.1.2.projects

/-- The import of a typekit brings none into use by itself. -/
theorem supplying_importedTypekit (name : String) : supplying.Covers (p.importedTypekit name) := by
  refine Work.supplying_of_sparing (p.importing_importedTypekit name)
    (Effect.covers_get.bind fun s => ?_)
  exact Slot.covers_resolve (fun _ s _ => ⟨trivial, Work.sparing_modify (fun _ => by rfl) s⟩)
    (sparing_loadTypekitPackage _ name) trivial

/-- The import of a typekit gives one that is complete. -/
theorem supplying_importTypekit (name : String) :
    supplying.Ensures (p.importTypekit name) fun id s => s.Given id := by
  intro s hs
  have covers : supplying.Covers (p.importTypekit name) :=
      (p.supplying_importedTypekit name).bind fun id? => by
    cases id? with
    | none => exact Effect.covers_throw trivial
    | some id => exact Effect.covers_pure id
  refine ((covers s hs).and (p.ends_importTypekit name hs.2.apart)).mono ?_ fun _ _ h => h.1
  exact fun id t ⟨ht, frozen, _⟩ => ⟨ht, .of_frozen frozen⟩

/-- The typekits that are in use once one more is used. -/
theorem mem_used_withUsedTypekit {q : ProjectId} {id id' : TypekitId} {r : Registry} {s : Store} :
    id' ∈ ((p.withUsedTypekit id r s).project q).usedTypekits ↔
      id' ∈ (s.project q).usedTypekits ∨ id' = id ∧ q = p ∧ p.index < s.projects.items.length := by
  change id' ∈ ((s.projects.modify p _).get q).usedTypekits ↔
    id' ∈ (s.projects.get q).usedTypekits ∨ _
  rw [Projects.get_modify]
  split
  · rename_i changed
    simp [changed]
  · rename_i same
    simp [same]

/-- The types of a typekit that is used are merged. -/
theorem merged_withUsedTypekit {id : TypekitId} {r : Registry} {s : Store} (apart : PackagesApart s)
    (given : (p.withUsedTypekit id r s).Given id)
    (held : ∀ t ∈ (s.registry (s.typekit id).registry).types, t ∈ r.types) :
    (p.withUsedTypekit id r s).Merged p id := by
  refine ⟨given, fun packaged t ht => ?_⟩
  have registry : ((p.withUsedTypekit id r s).project p).registry = (s.project p).registry :=
    Projects.apply_modify (·.registry) (fun _ => by rfl) s.projects p p
  have own : (s.typekit id).registry ≠ (s.project p).registry := apart.fromProjects id p packaged
  rw [registry, Store.registry_of_set (s := s) rfl, if_pos ⟨rfl, apart.projects p⟩]
  change t ∈ ((p.withUsedTypekit id r s).registry (s.typekit id).registry).types at ht
  rw [Store.registry_of_set (s := s) rfl, if_neg fun same => own same.1] at ht
  exact held t ht

/-- A typekit that was given comes into use with its types. -/
theorem supplying_usingTypekit {s : Store} (hs : supplying.holds s) {id : TypekitId}
    (given : s.Given id) :
    supplying.From s (p.usingTypekit id) := by
  by_cases used : id ∈ (s.project (s.projects.scope p)).usedTypekits
  · exact (p.ends_usingTypekit_of_used rfl used).2 ⟨hs, trivial⟩
  · generalize scope : s.projects.scope p = m at used
    obtain ⟨settled, merged⟩ := hs
    have brought : Ends (p.usingTypekit id) s
        (fun _ t => ∃ r : Registry,
          (∀ d ∈ (s.registry (s.typekit id).registry).types, d ∈ r.types) ∧
          t = m.withUsedTypekit id r s)
        fun _ t => ∃ r, t = m.withTypes r s := by
      refine (p.ends_usingTypekit_of_unused scope used).2 ((Registry.ends_addAll _ _).mono ?_ ?_)
      · exact fun _ r ⟨_, _, _, _, held⟩ => ⟨r, held, rfl⟩
      · exact fun _ r _ => ⟨r, rfl⟩
    refine ((Work.importing_of_offline (p.offline_usingTypekit id) s settled).and brought).mono ?_
      ?_
    · rintro _ _ ⟨⟨ht, hst, -⟩, r, held, rfl⟩
      have steps := hst.1.evolves
      refine ⟨⟨ht, merged.of_evolves steps fun q id' hid => ?_⟩, trivial⟩
      refine (mem_used_withUsedTypekit m).1 hid |>.imp_right fun ⟨same, mine, _⟩ => ?_
      subst same mine
      exact q.merged_withUsedTypekit merged.apart (merged.apart.given_of_evolves steps given) held
    · rintro _ _ ⟨⟨ht, ⟨hst, -⟩, -⟩, r, rfl⟩
      exact ⟨⟨ht, merged.of_evolves hst.1.evolves fun _ _ => .inl⟩, trivial, trivial⟩

/-- Looking for a type imports typekits that are complete, and brings them into use with their
types. -/
theorem supplying_looks : supplying.Looks Store.Given where
  faults _ := trivial
  log := Work.supplying_log
  asks p name := p.supplying_importedTypekit name
  imports p name := p.supplying_importTypekit name
  uses p _ _ hs given := p.supplying_usingTypekit hs given
  notes p slot _ hs imported :=
    ⟨supplying_modify hs (.single (.declared (.importOwnTypekit p slot imported))) p rfl
      (fun _ => rfl) fun _ => rfl, trivial⟩

/-- Whether a project may be changed is checked without a change. -/
theorem supplying_checkMutable : supplying.Covers p.checkMutable :=
  Effect.covers_get.bind fun _ => supplying_looks.ofExcept _

/-- The own typekit comes into use when it is made. -/
theorem supplying_typekit (create : Bool) : supplying.Covers (p.typekit create) := by
  refine Effect.covers_get_bind fun s hs => ?_
  cases imported : (s.project p).isImported with
  | true => exact supplying_looks.typekit_of_imported imported hs create
  | false =>
    rw [if_neg (by simp [imported])]
    cases htypekit : (s.project p).typekit with
    | some id => exact ⟨hs, trivial⟩
    | none =>
      refine ends_ite.2 ⟨fun _ => ?_, fun _ => ⟨hs, trivial⟩⟩
      refine ends_bind.2 (p.ends_checkMutable.2 ⟨fun isOpen => ?_, fun _ => ⟨hs, trivial, trivial⟩⟩)
      have step := Declared.makeTypekit p htypekit isOpen imported
      exact ⟨supplying_modify hs (.single (.declared step)) p rfl (fun _ => rfl)
        fun _ => rfl, trivial⟩

/-- An opaque type is declared in the own typekit. -/
theorem supplying_declareOpaque (name intermediate : String) (headers : List String)
    (needsCopy : Bool) :
    supplying.Covers (p.declareOpaque name intermediate headers needsCopy) := by
  refine p.supplying_checkMutable.bind fun _ => Effect.covers_get.bind fun s => ?_
  refine (p.supplying_typekit true).bind fun id? => ?_
  cases id? with
  | none => exact Effect.covers_throw trivial
  | some id =>
    refine Effect.covers_get.bind fun t =>
      Effect.Covers.ite (fun _ => Effect.covers_throw_bind trivial _) fun _ => ?_
    exact Work.supplying_of_sparing
      (Work.importing_of_offline (Typekit.offline_declareOpaque id _ _ _ _))
      (Work.sparing_onTypekit id _)

/-- Types are defined in a typekit without bringing one into use. -/
theorem sparing_defineTypes (id : TypekitId) (xml : String) (typelist : Option String) :
    sparing.Covers (p.defineTypes id xml typelist) := by
  have rules : sparing.Covers (addDescribedRules id xml) := by
    refine (Work.sparing_ofExcept _).bind fun rules =>
      Effect.Covers.bind ?_ fun _ => Effect.covers_pure _
    exact Effect.covers_forM fun rule _ => Work.sparing_onTypekit id _
  refine Effect.covers_get.bind fun s => (Work.sparing_onRegistry _ _).bind fun added => ?_
  cases typelist with
  | none => exact (Work.sparing_onTypekit id _).bind fun _ => rules
  | some text =>
    refine (Work.sparing_ofExcept _).bind fun types =>
      (Work.sparing_onTypekit id _).bind fun _ => ?_
    exact (Work.sparing_onTypekit id _).bind fun _ => rules

/-- Types are loaded into the own typekit. -/
theorem supplying_loadTypekit (xml : String) (typelist : Option String) :
    supplying.Covers (p.loadTypekit xml typelist) := by
  refine p.supplying_checkMutable.bind fun _ => (p.supplying_typekit true).bind fun id? => ?_
  cases id? with
  | none => exact Effect.covers_throw trivial
  | some id =>
    exact Work.supplying_of_sparing
      (Work.importing_of_offline (p.offline_defineTypes id xml typelist))
      (p.sparing_defineTypes id xml typelist)

end ProjectId

/-- Whether no import of a typekit is under way, and the projects that use typekits of packages have
their types. -/
def Store.SettledUses (s : Store) : Prop :=
  declaring.holds s ∧ UsesMerged s

namespace Work

variable {α : Type} {x : Work α} {R : Fault → Prop}

/-- Declarations of types that bring typekits into use with their types keep the types merged. -/
theorem keeps_of_supplying (steps : typing.Covers x) (supplies : supplying.Covers x) :
    Keeps Store.SettledUses R x fun _ _ => True := by
  intro s ⟨settled, merged⟩
  refine ((steps s settled).and (supplies s ⟨settled.1, merged⟩)).mono ?_ ?_
  · exact fun _ _ ⟨⟨ht, _⟩, ⟨_, merged⟩, _⟩ => ⟨⟨ht, merged⟩, trivial⟩
  · exact fun _ _ ⟨⟨ht, _⟩, ⟨_, merged⟩, _⟩ _ => ⟨ht, merged⟩

/-- Steps that bring no typekit into use keep the types merged. -/
theorem keeps_of_sparing (steps : evolving.Covers x) (spares : sparing.Covers x) :
    Keeps Store.SettledUses R x fun _ _ => True := by
  intro s ⟨settled, merged⟩
  have kept {t : Store} (hst : Evolves s t) (same : sparing.change s t) : UsesMerged t :=
    merged.of_evolves hst fun p id hid => .inl (same p ▸ hid)
  refine ((steps s settled).and (spares s trivial)).mono ?_ ?_
  · exact fun _ _ ⟨⟨ht, hst⟩, _, same⟩ => ⟨⟨ht, kept hst same⟩, trivial⟩
  · exact fun _ _ ⟨⟨ht, hst, _⟩, _, same, _⟩ _ => ⟨ht, kept hst same⟩

end Work

namespace Store.SettledUses

variable {R : Fault → Prop}

/-- Components, operations that belong to none, and the log do not matter. -/
theorem beside {s : Store} (h : s.SettledUses) (components : Components)
    (operations : List Operation) (lines : List LogLine) :
    SettledUses { s with components := components, freeOperations := operations, log := lines } :=
  ⟨h.1, h.2.apart.beside components operations lines, fun p id hid =>
    ⟨⟨(h.2.used p id hid).made, (h.2.used p id hid).complete⟩, (h.2.used p id hid).types⟩⟩

/-- A step that brings no typekit into use. -/
theorem of_step {s t : Store} (h : s.SettledUses) (step : Evolved s t) (settled : declaring.holds t)
    (spares : sparing.change s t) : t.SettledUses :=
  ⟨settled, h.2.of_evolves (.single step) fun p _ hid => .inl (spares p ▸ hid)⟩

/-- A project of its own starts with a typekit that comes from no package. -/
theorem merged_withMain (s : Store) (name : String) (baseDir : Files.Path) (packages : PackageMapId)
    (package : Option Package) (p : ProjectId) :
    ∀ id ∈ ((s.withMain name baseDir packages package).project p).usedTypekits,
      id ∈ (s.project p).usedTypekits ∨ (s.withMain name baseDir packages package).Merged p id := by
  intro id hid
  rw [s.project_withMain name baseDir packages package] at hid
  split at hid
  · obtain rfl := List.mem_singleton.1 hid
    have unpackaged : ((s.withMain name baseDir packages package).typekit
        ⟨s.typekits.length⟩).package = none := by
      rw [Store.typekit_of_append rfl, if_pos rfl]
      rfl
    refine .inr ⟨⟨?_, fun packaged => ?_⟩, fun packaged => ?_⟩
    · simp [Store.withMain]
    · simp [unpackaged] at packaged
    · simp [unpackaged] at packaged
  · exact .inl hid

/-- A project of its own starts with types that are merged. -/
theorem withMain {s : Store} (h : s.SettledUses) (name : String) (baseDir : Files.Path)
    (packages : PackageMapId) (package : Option Package) :
    (s.withMain name baseDir packages package).SettledUses :=
  ⟨Work.settled_push h.1 (s.project_withMain name baseDir packages package) rfl rfl,
    h.2.of_evolves (.single (.newMain ..)) (merged_withMain s name baseDir packages package)⟩

/-- The only project of a run, when it was just made. -/
theorem withMain_of_empty (files : Files.Tree) (packageMaps : List PackageMap) (name : String)
    (baseDir : Files.Path) (packages : PackageMapId) :
    (Store.withMain { files, packageMaps } name baseDir packages none).SettledUses := by
  let start : Store := { files, packageMaps }
  refine ⟨Work.settled_push (settled_of_empty (s := start) rfl)
    (start.project_withMain name baseDir packages none) rfl rfl,
    .withMain_of_empty rfl rfl rfl name baseDir packages, fun p id hid => ?_⟩
  exact (merged_withMain start name baseDir packages none p id hid).resolve_left fun used =>
    absurd (Store.made_of_used used) (Nat.not_lt_zero _)

/-- A library is made without bringing a typekit into use. -/
theorem sparing_newLibrary (m : ProjectId) (name : String) (baseDir : Files.Path)
    (packages : PackageMapId) (package : Option Package) :
    sparing.Covers (Work.newProject name baseDir packages (some m) package) := by
  intro s _
  by_cases made : m.index < s.projects.items.length
  · refine Work.ends_newLibrary made name baseDir packages package ⟨trivial, fun q => ?_⟩
    rw [Store.project_withLibrary]
    split
    · rename_i new
      have absent : s.project s.projects.next = default := by
        simp [Store.project, Projects.get, Projects.next]
      rw [new, absent]
      rfl
    · rfl
  · have unknown : ¬∀ m', some m = some m' → m'.index < s.projects.items.length :=
      fun h => made (h m rfl)
    unfold Effect.From Work.newProject
    simp only [Option.isSome_some, if_true, ends_bind, Work.ends_newRegistry, ends_pure, ends_get,
      dif_neg unknown, ends_throw]
    exact ⟨trivial, fun _ => rfl, trivial⟩

/-- A component is declared without bringing a typekit into use. -/
theorem keeps_declareComponent (p : ProjectId) (name : String) (superclass : ProjectId.Superclass)
    (doc : Option String) :
    Keeps SettledUses R (p.declareComponent name superclass doc) fun _ _ => True := by
  refine Work.keeps_of_sparing (Work.evolving_of_declaring (p.declaring_declareComponent _ _ _))
    fun s _ => ?_
  refine (p.ends_declareComponent name superclass doc s).mono ?_ ?_
  · rintro _ _ ⟨-, k, known, -, -, rfl⟩
    exact ⟨trivial, Work.sparing_modify (fun _ => by rfl) s⟩
  · rintro _ _ rfl
    exact ⟨trivial, fun _ => rfl, trivial⟩

/-- The type of a member is looked up, and the types stay merged. -/
theorem keeps_findType (c : ComponentId) (type : TypeRef) :
    Keeps SettledUses R (c.findType type) fun _ _ => True :=
  Work.keeps_of_supplying (c.typing_findType type)
    (Effect.covers_get.bind fun _ => ProjectId.supplying_looks.findType _ type)

/-- Declarations in a component bring typekits into use with their types only. -/
theorem upheld (c : ComponentId) : Upheld c SettledUses R (fun _ _ => True) fun _ => True where
  settled _ h := h.1
  finds name := keeps_findType c (.named name)
  pointer s name target header h :=
    (Work.keeps_of_supplying (ProjectId.typing_declareOpaque _ _ _ _ _)
      ((s.interface c).project.supplying_declareOpaque name target [header] false) s h).mono
      (fun _ _ h => h.1) fun _ _ h => h
  member s _ h _ _ _ _ := h.beside _ s.freeOperations s.log
  change s _ h _ := h.beside _ s.freeOperations s.log
  free s operations h := h.beside s.components operations s.log

/-- The typekit of a description is declared, and the types stay merged. -/
theorem keeps_replayTypekit (p : ProjectId) (d : Description.Typekit) (baseDir : Files.Path) :
    Keeps SettledUses R (p.replayTypekit d baseDir) fun _ _ => True := by
  have readFile (path : Files.Path) : Keeps SettledUses R (Work.readTypekitFile path)
      fun _ _ => True :=
    Work.keeps_of_sparing (Work.evolving_of_offline (Work.offline_readTypekitFile path))
      (Work.sparing_readTypekitFile path)
  have opaques : Keeps SettledUses R
      (d.opaques.forM fun m => discard (p.declareOpaque m.type m.marshalAs m.headers m.needsCopy))
      fun _ _ => True :=
    keeps_forM fun m _ => Work.keeps_of_supplying (p.typing_declareOpaque _ _ _ _).map
      (p.supplying_declareOpaque _ _ _ _).map
  have loaded (registry : String) (typelist : Option String) : Keeps SettledUses R (do
      discard (p.loadTypekit (← Work.readTypekitFile (baseDir.join registry)) typelist)
      d.opaques.forM fun m => discard (p.declareOpaque m.type m.marshalAs m.headers m.needsCopy))
        fun _ _ => True := by
    refine (readFile _).bind fun xml => Keeps.bind (Q := fun _ _ => True) ?_ fun _ => opaques
    exact Work.keeps_of_supplying (p.typing_loadTypekit _ _).map (p.supplying_loadTypekit _ _).map
  unfold ProjectId.replayTypekit
  cases d.registry with
  | none =>
    refine Keeps.bind (Q := fun _ _ => True) ?_ fun _ => opaques
    exact Work.keeps_of_supplying (p.typing_typekit true).map (p.supplying_typekit true).map
  | some registry =>
    cases d.typelist with
    | none => exact loaded registry none
    | some typelist =>
      exact Keeps.bind ((readFile _).map (P := fun _ _ => True) fun _ _ h => h)
        fun text? => loaded registry text?

/-- A typekit is used that is imported by name. -/
theorem keeps_usingTypekitNamed (p : ProjectId) (name : String) :
    Keeps SettledUses R (Declaration.usingTypekitNamed p name).run fun _ _ => True := by
  refine Work.keeps_of_supplying (Declaration.typing_run rfl) fun s hs => ?_
  refine ends_bind.2 ((p.supplying_importTypekit name s hs).mono (fun id t ⟨⟨ht, _⟩, given⟩ => ?_)
    fun _ _ h => h)
  exact ends_map.2 (p.supplying_usingTypekit ht given)

/-- Typekits of packages come into use with their types while libraries are loaded. -/
theorem importable : Importable SettledUses R (fun _ _ => True) fun _ _ => True where
  settled _ h := h.1
  placed_persists _ _ _ _ h := h
  answers_persists _ _ _ _ h := h
  scope _ _ h := h
  log s lines h := h.beside s.components s.freeOperations lines
  library s m name baseDir packages package h _ :=
    Work.keeps_of_sparing (Work.evolving_newProject _ _ _ _ _)
      (sparing_newLibrary m name baseDir packages package) s h
  typekit s p name h _ := (keeps_usingTypekitNamed p name s h).mono (fun _ _ h => h.1)
    fun _ _ h => h
  component s p d h _ := by
    refine ends_bind.2 ((keeps_declareComponent p _ _ _ s h).mono ?_ fun _ _ h => h)
    rintro c t ⟨ht, -⟩
    exact ((upheld c).replay (fun _ => trivial) d t ht).mono (fun _ _ h => h.1) fun _ _ h => h
  slot s m name slot h _ :=
    h.of_step (.importLibrary m name slot)
      (Declares.settled_modify h.1 m (fun _ => rfl) fun _ => rfl)
      (Work.sparing_modify (fun _ => by rfl) s)
  used s m l h _ :=
    h.of_step (.useLibrary m l) (Declares.settled_modify h.1 m (fun _ => rfl) fun _ => rfl)
      (Work.sparing_modify (fun _ => by rfl) s)
  freeze p := by
    refine Work.keeps_of_sparing p.evolving_freeze fun s _ => ?_
    have frozen : sparing.change s (p.withFrozen s) := Work.sparing_modify (fun _ => by rfl) s
    exact p.ends_freeze_of (fun _ => ⟨trivial, frozen⟩) fun _ _ _ => ⟨trivial, frozen⟩

/-- A declaration that is not handed a typekit brings typekits into use with their types only. -/
theorem keeps_declaration {d : Declaration} (unhanded : ∀ p id, d ≠ .usingTypekit p id) :
    Keeps SettledUses R d.run fun _ _ => True := by
  have typed (types : d.concernsTypes = true) (supplies : supplying.Covers d.run) :
      Keeps SettledUses R d.run fun _ _ => True :=
        Work.keeps_of_supplying (Declaration.typing_run types) supplies
  have spared (spares : sparing.Covers d.run) : Keeps SettledUses R d.run fun _ _ => True :=
    Work.keeps_of_sparing (Work.evolving_of_declaring d.covers_run) spares
  cases d with
  | addType | mergeTypes | mergeDescriptor =>
    exact spared (Effect.Covers.map (Effect.covers_get.bind fun _ => Work.sparing_onRegistry _ _))
  | exportTypes id names interface => exact spared (Work.sparing_onTypekit id _)
  | declareOpaqueIn id name intermediate headers needsCopy =>
    exact spared (Work.sparing_onTypekit id _).map
  | loadTypekit p xml typelist => exact typed rfl (p.supplying_loadTypekit xml typelist).map
  | declareOpaque p name intermediate headers needsCopy =>
    exact typed rfl (p.supplying_declareOpaque _ _ _ _).map
  | typekit p create => exact typed rfl (p.supplying_typekit create).map
  | hasTypekit p name => exact typed rfl (ProjectId.supplying_looks.hasTypekit p name).map
  | importTypekit p name => exact typed rfl (p.supplying_importTypekit name).covers.map
  | usingTypekit p id => exact absurd rfl (unhanded p id)
  | usingTypekitNamed p name => exact keeps_usingTypekitNamed p name
  | findType p type => exact typed rfl (ProjectId.supplying_looks.findType p type).map
  | opaqueRule p type =>
    exact typed rfl (Effect.covers_get.bind fun _ => ProjectId.supplying_looks.ofExcept _).map
  | intermediateName p type =>
    refine typed rfl
      (Effect.Covers.map ((ProjectId.supplying_looks.findType p type).bind fun t => ?_))
    exact Effect.Covers.ite (fun _ =>
        (Effect.covers_get.bind fun _ => ProjectId.supplying_looks.ofExcept _).bind fun _ =>
      Effect.covers_pure _) fun _ => Effect.covers_pure _
  | declareComponent p name superclass doc =>
    exact (keeps_declareComponent p name superclass doc).map fun _ _ _ => trivial
  | findComponent p name =>
    refine spared (Effect.Covers.map (Work.sparing_of_projects fun s => ?_))
    exact (p.ends_findComponent name s).mono (fun _ _ h => congrArg Store.projects h) fun _ _ h =>
      congrArg Store.projects h.1
  | addArgument r | setReturn r | runInCallerThread r | setHidden r | setBody r =>
    obtain ⟨c, hr⟩ := r.exists_in
    exact (upheld c).run hr fun _ mem => nomatch mem
  | newOperation => exact (upheld ⟨0⟩).run trivial fun _ mem => nomatch mem
  | _ => exact (upheld _).run rfl fun type _ => keeps_findType _ type

/-- A typekit is handed over that was given before. -/
theorem ends_usingTypekit {s : Store} (h : s.SettledUses) (p : ProjectId) {id : TypekitId}
    (given : s.Given id) :
    Ends (Declaration.usingTypekit p id).run s (fun _ t => t.SettledUses)
      fun _ t => t.SettledUses := by
  have supplies : supplying.From s (Declaration.usingTypekit p id).run :=
    ends_map.2 (p.supplying_usingTypekit ⟨h.1.1, h.2⟩ given)
  have typing : typing.From s (Declaration.usingTypekit p id).run :=
    Declaration.typing_run rfl s h.1
  exact (typing.and supplies).mono (fun _ _ ⟨⟨ht, _⟩, ⟨_, merged⟩, _⟩ => ⟨ht, merged⟩)
    fun _ _ ⟨⟨ht, _⟩, ⟨_, merged⟩, _⟩ => ⟨ht, merged⟩

end Store.SettledUses

/-- Whether the typekit that a call is handed was given before. -/
def Call.Given (s : Store) : Call → Prop
  | declare (.usingTypekit _ id) => s.Given id
  | _ => True

/-- Whether the typekits that calls are handed were given before, all along a run. -/
def Call.AllGiven : List Call → Store → Prop
  | [], _ => True
  | call :: calls, s => call.Given s ∧ AllGiven calls (call.run.after s)

/-- A call keeps the types of the typekits in use merged. -/
theorem Store.SettledUses.after {s : Store} (h : s.SettledUses) {call : Call}
    (given : call.Given s) :
    (call.run.after s).SettledUses := by
  by_cases handed : ∃ p id, call = .declare (.usingTypekit p id)
  · obtain ⟨p, id, rfl⟩ := handed
    exact Work.after_of_ends (h.ends_usingTypekit p given)
  · have kept : Keeps SettledUses (fun _ => True) call.run fun _ _ => True := by
      refine importable.keeps_call ?_ (fun p t _ => keeps_replayTypekit p t _)
        fun d same => keeps_declaration ?_
      · exact fun name baseDir packages package s h =>
          Work.ends_newMain s _ _ _ _ ⟨h.withMain _ _ _ _, trivial⟩
      · rintro p id rfl
        exact handed ⟨p, id, same⟩
    exact Work.after_of_ends ((kept s h).mono (fun _ _ h => h.1) fun _ _ h => h trivial)

/-- After a run, the projects that use typekits of packages have their types. -/
theorem Store.SettledUses.runAll {s : Store} (h : s.SettledUses) {calls : List Call}
    (given : Call.AllGiven calls s) :
    (Call.runAll calls s).SettledUses := by
  induction calls generalizing s with
  | nil => exact h
  | cons call calls ih => exact ih (h.after given.1) given.2

end Componentry
