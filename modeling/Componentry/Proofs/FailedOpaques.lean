import Componentry.Proofs.AgreeingTypes
import Componentry.Proofs.LazyTypekits
import Componentry.Proofs.OwnTypekits

/-!
# Opaque types that cannot be declared

A project that declares an opaque type first makes the typekit that it builds, if there is none, and
registers the type, if its name is new. Only then does it look for the intermediate type and add the
marshalling rule. A declaration that fails leaves the typekit and the registered type behind, and
changes nothing else: the definitions that a rule needs agree with those that are held for other
rules, so the rule itself is added at once or not at all.
-/

namespace Componentry

open Declares

namespace Typekit

variable {k : Typekit} {r : Registry}

/-- What a typekit holds for its rules stays registered as it is edited. -/
theorem Edits.registered {kr kr' : Typekit × Registry} (h : Edits kr kr')
    (registered : kr.1.opaqueRegistry.types ⊆ kr.2.types) :
    kr'.1.opaqueRegistry.types ⊆ kr'.2.types := by
  induction h with
  | refl => exact registered
  | tail _ step ih =>
    cases step with
    | register _ added =>
      rw [added]
      exact List.Subset.trans ih (List.subset_append_left _ _)
    | exported => exact ih
    | need _ sub => exact List.Subset.trans sub (List.append_subset.2 ⟨ih, List.Subset.refl _⟩)
    | rule _ _ _ _ sub =>
      exact List.Subset.trans sub (List.append_subset.2 ⟨ih, List.Subset.refl _⟩)

/-- A rule that is not added leaves nothing behind. -/
theorem ends_addRule_failed (rule : OpaqueRule) (registered : k.opaqueRegistry.types ⊆ r.types) :
    Ends (addRule rule) (k, r) (fun _ _ => True) fun _ kr => kr = (k, r) := by
  refine ends_bind.2 ?_
  change Ends (if (k.opaqueRule? (.named rule.typeName)).isSome then _ else _) (k, r) _ _
  refine ends_ite.2 ⟨fun _ => rfl, fun _ => ?_⟩
  cases closure : r.closure rule.typeName with
  | error fault => exact rfl
  | ok needed =>
    have agree : TypeDef.Agree (k.opaqueRegistry.types ++ needed) :=
      r.agree.mono (List.append_subset.2 ⟨registered, (Registry.closure_ok closure).1⟩)
    obtain ⟨_, held, added, -⟩ := (Registry.ends_addAll_of_agree agree).exists_ok
    simp only [EStateM.run, added]
    exact trivial

/-- A declaration of an opaque type registers the type. If it fails, it has done nothing else. -/
theorem ends_declareOpaque_registered (name intermediate : String) (headers : List String)
    (needsCopy : Bool) (isOpen : k.frozen = false) (registered : k.opaqueRegistry.types ⊆ r.types) :
    Ends (declareOpaque name intermediate headers needsCopy) (k, r)
      (fun _ kr => kr.2 = r.withOpaqueType (Typename.normalize name))
      fun _ kr => kr = (k, r.withOpaqueType (Typename.normalize name)) := by
  refine ends_declareOpaque_of ?_ ?_ (fun _ _ => rfl) ?_
  · intro frozen
    rw [isOpen] at frozen
    cases frozen
  · intro t known _
    rw [Registry.withOpaqueType_of_known (Option.isSome_of_mem known)]
  · intro t _ rule
    have held : k.opaqueRegistry.types ⊆ (r.withOpaqueType (Typename.normalize name)).types :=
      List.Subset.trans registered Registry.subset_withOpaqueType
    refine ((ends_addRule rule _).and (ends_addRule_failed rule held)).mono ?_ fun _ _ h => h.2
    exact fun _ _ ⟨⟨supplied, _⟩, _⟩ => supplied.registry

end Typekit

/-- What the typekits that projects build hold for their rules is registered. -/
def Store.RulesRegistered (s : Store) : Prop :=
  ∀ p id, (s.project p).typekit = some id →
    (s.typekit id).opaqueRegistry.types ⊆ (s.registry (s.project p).registry).types

/-- A step leaves every opaque type that has a rule registered. -/
theorem Store.RulesRegistered.evolved {s t : Store} (h : s.RulesRegistered)
    (typekits : OwnTypekits s) (step : Evolved s t) : t.RulesRegistered := by
  intro p id own
  rcases step.typekit_of_typekit own with old | ⟨made, -, rfl, -, appended⟩
  · obtain ⟨made, -, registry, -⟩ := typekits.builds p id old
    have inRange := Store.made_of_typekit old
    have grown := (step.grows (s.project p).registry).subset
    rw [(step.placed.2 p inRange).registry]
    rcases step.reworked made (registry ▸ typekits.registries p inRange) with
      same | completed | ⟨-, edits⟩
    · rw [same]
      exact List.Subset.trans (h p id old) grown
    · rw [completed]
      exact List.Subset.trans (h p id old) grown
    · rw [registry] at edits
      exact edits.registered (h p id old)
  · rw [Store.typekit_of_append appended, if_pos rfl]
    exact List.nil_subset _

/-- What holds of the states that runs reach, as far as failed declarations depend on it. -/
structure Store.Reachable (s : Store) : Prop where
  settled : importing.holds s
  libraries : LibrariesLoaded s
  typekits : OwnTypekits s
  registered : s.RulesRegistered

namespace Store.Reachable

variable {s t : Store}

/-- No import is under way in a state that is reached. -/
theorem looking (h : s.Reachable) : looking.holds s :=
  ⟨h.settled, h.libraries.apart⟩

/-- Steps lead from a state that is reached to one that is reached, if no import is left under
way. -/
theorem evolves (h : s.Reachable) (steps : Evolves s t) (settled : importing.holds t) :
    t.Reachable := by
  have registered : t.RulesRegistered ∧ OwnTypekits t := by
    clear settled
    induction steps with
    | refl => exact ⟨h.registered, h.typekits⟩
    | tail _ step ih => exact ⟨ih.1.evolved ih.2 step, ih.2.evolved step⟩
  exact ⟨settled, h.libraries.evolves steps, registered.2, registered.1⟩

/-- Lookups lead from a state that is reached to one that is reached. -/
theorem looked (h : s.Reachable) (ht : Declares.looking.holds t) (looked : s.Looked t) :
    t.Reachable :=
  h.evolves looked.steps.1.evolves ht.1

/-- The only project of a run, when it was just made. -/
private theorem withMain (files : Files.Tree) (packageMaps : List PackageMap) (name : String)
    (baseDir : Files.Path) (packages : PackageMapId) :
    declaring.holds (Store.withMain { files, packageMaps } name baseDir packages none) ∧
      (Store.withMain { files, packageMaps } name baseDir packages none).Reachable := by
  let start : Store := { files, packageMaps }
  have step : Evolved start (start.withMain name baseDir packages none) :=
    .newMain name baseDir packages none
  have settled : declaring.holds (start.withMain name baseDir packages none) :=
    Work.settled_push (settled_of_empty rfl)
      (start.project_withMain name baseDir packages none) rfl rfl
  have absent (p : ProjectId) :
      (start.project p).typekit = none ∧ (start.project p).ownTypekitSlot = .unresolved :=
    ⟨rfl, rfl⟩
  have typekits : OwnTypekits start := .of_empty rfl
  refine ⟨settled, settled.1,
    ⟨.withMain_of_empty rfl rfl rfl name baseDir packages, fun p id own => ?_⟩,
    typekits.evolved step, Store.RulesRegistered.evolved (fun p id own => ?_) typekits step⟩
  · rcases step.imported_of_ownTypekitSlot own with old | ⟨m, name, slot⟩
    · rw [(absent p).2] at old
      cases old
    · cases slot
  · rw [(absent p).1] at own
    cases own

/-- Every state that calls on a project and its libraries reach. -/
theorem of_run (files : Files.Tree) (packageMaps : List PackageMap) (name : String)
    (baseDir : Files.Path) (packages : PackageMapId) (calls : List Call) :
    (Call.runAll calls
      (Store.withMain { files, packageMaps } name baseDir packages none)).Reachable := by
  obtain ⟨settled, reached⟩ := withMain files packageMaps name baseDir packages
  obtain ⟨after, steps⟩ := Call.evolves_runAll settled calls
  exact reached.evolves steps after.1

end Store.Reachable

/-- Whether opaque types can be declared in a project: it is not imported, and declarations have
ended neither in it nor in the typekit that it builds. -/
structure Store.TakesOpaques (s : Store) (p : ProjectId) : Prop where
  isMain : (s.project p).isImported = false
  isOpen : (s.project p).frozen = false
  editable : ∀ id, (s.project p).typekit = some id → (s.typekit id).frozen = false

namespace ProjectId

variable (p : ProjectId)

/-- The state in which a project builds a typekit. -/
def withOwnTypekit (s : Store) : Store :=
  match (s.project p).typekit with
  | some _ => s
  | none => { s with
      typekits := s.typekits ++ [{ name := (s.project p).name, registry := (s.project p).registry }]
      projects := s.projects.modify p ({ · with typekit := some ⟨s.typekits.length⟩ }) }

/-- The state in which a project builds a typekit and an opaque type of a name is registered, if the
name is new. -/
def withOpaqueType (name : String) (s : Store) : Store :=
  p.withTypes ((s.registry (s.project p).registry).withOpaqueType name) (p.withOwnTypekit s)

variable {p} {s : Store}

/-- A project that takes opaque types builds a typekit, which can be edited. -/
theorem ends_typekit_open (reached : s.Reachable) (takes : s.TakesOpaques p) :
    Ends (p.typekit true) s
      (fun id? t => t = p.withOwnTypekit s ∧ ∃ id, id? = some id ∧ (t.typekit id).frozen = false ∧
        (t.typekit id).registry = (s.project p).registry ∧
        (t.typekit id).opaqueRegistry.types ⊆ (s.registry (s.project p).registry).types ∧
        (p.index < s.projects.items.length → (t.project p).typekit = some id))
      fun _ _ => False := by
  refine ends_bind.2 (ends_get.2 ?_)
  rw [if_neg (by simp [takes.isMain])]
  cases own : (s.project p).typekit with
  | some id =>
    refine ⟨by rw [withOwnTypekit,
      own], id, rfl, takes.editable id own, ?_, reached.registered p id own, fun _ => own⟩
    exact (reached.typekits.builds p id own).registry
  | none =>
    refine ends_bind.2 (p.ends_checkMutable.2 ⟨fun _ => ?_, fun frozen => ?_⟩)
    · refine ⟨by rw [withOwnTypekit, own], ⟨s.typekits.length⟩, rfl, ?_⟩
      rw [Store.typekit_of_append rfl, if_pos rfl]
      refine ⟨rfl, rfl, List.nil_subset _, fun made => ?_⟩
      rw [Store.project, Projects.get_modify, if_pos ⟨rfl, made⟩]
    · rw [takes.isOpen] at frozen
      cases frozen

/-- The typekit that a project builds leaves all else of the project as it is. -/
theorem apply_withOwnTypekit {β : Type} (g : Project → β)
    (same : ∀ q id, g { q with typekit := id } = g q) (p q : ProjectId) (s : Store) :
    g ((p.withOwnTypekit s).project q) = g (s.project q) := by
  unfold withOwnTypekit
  split
  · rfl
  · exact Projects.apply_modify g (f := ({ · with typekit := some ⟨s.typekits.length⟩ }))
      (same · _) s.projects p q

/-- The registries stay as they are when a typekit is made for a project. -/
theorem registries_withOwnTypekit (p : ProjectId) (s : Store) :
    (p.withOwnTypekit s).registries = s.registries := by
  unfold withOwnTypekit
  split <;> rfl

/-- The components stay as they are when a typekit is made for a project. -/
theorem components_withOwnTypekit (p : ProjectId) (s : Store) :
    (p.withOwnTypekit s).components = s.components := by
  unfold withOwnTypekit
  split <;> rfl

/-- A project that builds a typekit has the registry that it had. -/
theorem registry_withOwnTypekit (p : ProjectId) (s : Store) :
    ((p.withOwnTypekit s).project p).registry = (s.project p).registry :=
  apply_withOwnTypekit (·.registry) (fun _ _ => rfl) p p s

/-- The types of a project stay as they are when a typekit is made for it. -/
theorem types_withOwnTypekit (p : ProjectId) (s : Store) :
    (p.withOwnTypekit s).registry ((p.withOwnTypekit s).project p).registry =
      s.registry (s.project p).registry := by
  rw [registry_withOwnTypekit, Store.registry, registries_withOwnTypekit, Store.registry]

/-- Building a typekit is a step that a project may take. -/
theorem declared_withOwnTypekit (takes : s.TakesOpaques p) (none : (s.project p).typekit = none) :
    Declared s (p.withOwnTypekit s) := by
  rw [withOwnTypekit, none]
  exact .makeTypekit p none takes.isOpen takes.isMain

/-- Own typekits stay consistent when a typekit is made for a project. -/
theorem ownTypekits_withOwnTypekit (typekits : OwnTypekits s) (takes : s.TakesOpaques p) :
    OwnTypekits (p.withOwnTypekit s) := by
  cases own : (s.project p).typekit with
  | none => exact typekits.evolved (.declared (declared_withOwnTypekit takes own))
  | some id =>
    rw [withOwnTypekit, own]
    exact typekits

/-- Where opaque types can be declared, a declaration is one in the typekit that the project
builds. -/
theorem ends_declareOpaque_of (reached : s.Reachable) (takes : s.TakesOpaques p)
    {name intermediate : String} {headers : List String} {needsCopy : Bool}
    {P : OpaqueRule → Store → Prop} {F : Fault → Store → Prop}
    (declares : ∀ id, let t := p.withOwnTypekit s
      (t.typekit id).frozen = false →
      (t.typekit id).opaqueRegistry.types ⊆ (s.registry (s.project p).registry).types →
      (p.index < s.projects.items.length → (t.project p).typekit = some id) →
      Ends (Typekit.declareOpaque name intermediate headers needsCopy)
        (t.typekit id, s.registry (s.project p).registry)
        (fun a kr => P a (p.withTypes kr.2 { t with typekits := t.typekits.set id.index kr.1 }))
        fun fault kr =>
          F fault (p.withTypes kr.2 { t with typekits := t.typekits.set id.index kr.1 })) :
    Ends (p.declareOpaque name intermediate headers needsCopy) s P F := by
  refine ends_bind.2
    (p.ends_checkMutable.2 ⟨fun _ => ends_bind.2 (ends_get.2 ?_), fun frozen => ?_⟩)
  · refine ends_bind.2 ((ends_typekit_open reached takes).mono ?_ fun _ _ => False.elim)
    rintro _ t ⟨rfl, id, rfl, editable, registry, registered, own⟩
    refine ends_bind.2
      (ends_get.2 (ends_ite.2 ⟨fun frozen => ?_, fun _ => Work.ends_onTypekit.2 ?_⟩))
    · rw [editable] at frozen
      cases frozen
    · have built :
          ((p.withOwnTypekit s).typekit id).registry = ((p.withOwnTypekit s).project p).registry :=
        registry.trans (registry_withOwnTypekit p s).symm
      rw [built, types_withOwnTypekit]
      exact declares id editable registered own
  · rw [takes.isOpen] at frozen
    cases frozen

/-- Where opaque types can be declared, a declaration registers the type, and does nothing else if
it fails. -/
theorem ends_declareOpaque_open (reached : s.Reachable) (takes : s.TakesOpaques p)
    (name intermediate : String) (headers : List String) (needsCopy : Bool) :
    Ends (p.declareOpaque name intermediate headers needsCopy) s
      (fun _ t => t.components = s.components ∧ t.projects = (p.withOwnTypekit s).projects ∧
        t.registries = (p.withOpaqueType (Typename.normalize name) s).registries)
      fun _ t => t = p.withOpaqueType (Typename.normalize name) s := by
  refine ends_declareOpaque_of reached takes fun id editable registered _ => ?_
  refine (Typekit.ends_declareOpaque_registered name intermediate headers needsCopy editable
    registered).mono ?_ ?_
  · rintro _ ⟨k, r⟩ rfl
    exact ⟨components_withOwnTypekit p s, rfl, rfl⟩
  · rintro _ _ rfl
    rw [Store.typekit, set_getD_self]
    rfl

/-- The opaque type is added to the registry of the project. -/
theorem registry_withOpaqueType (reached : s.Reachable) (name : String) :
    (p.withOpaqueType name s).registry (s.project p).registry =
      (s.registry (s.project p).registry).withOpaqueType name := by
  have inRange : (s.project p).registry.index < (p.withOwnTypekit s).registries.length := by
    rw [registries_withOwnTypekit]
    exact reached.libraries.apart.projects p
  rw [withOpaqueType, withTypes, registry_withOwnTypekit, Store.registry_of_set rfl,
    if_pos ⟨rfl, inRange⟩]

/-- An opaque type that was declared is found. -/
theorem get_of_declared (reached : s.Reachable) (isMain : (s.project p).isImported = false)
    {t : Store} {name : String} (projects : t.projects = (p.withOwnTypekit s).projects)
    (registries : t.registries = (p.withOpaqueType (Typename.normalize name) s).registries) :
    ∃ d, (t.registryOf p).get name = .ok d := by
  have same {β : Type} (g : Project → β) (rest : ∀ q id, g { q with typekit := id } = g q) :
      g (t.project p) = g (s.project p) := by
    rw [Store.project, projects]
    exact apply_withOwnTypekit g rest p p s
  have scope : t.projects.scope p = p := by
    have none : (s.project p).main = none := by simpa [Project.isImported] using isMain
    exact Store.scope_of_own ((same (·.main) fun _ _ => rfl).trans none)
  have registry := registry_withOpaqueType reached (p := p) (Typename.normalize name)
  rw [Store.registry, ← registries, ← Store.registry] at registry
  rw [Store.registryOf, Store.scope, scope, same (·.registry) fun _ _ => rfl, registry]
  exact ⟨_, by rw [Registry.get, Registry.find?_withOpaqueType]⟩

/-- Where the project builds a typekit and the type is registered, there is nothing to do before the
rule is added. -/
theorem withOpaqueType_eq_self {id : TypekitId} {name : String}
    (own : (s.project p).typekit = some id)
    (known : ((s.registry (s.project p).registry).find? name).isSome = true) :
    p.withOpaqueType name s = s := by
  rw [withOpaqueType, withOwnTypekit, own, Registry.withOpaqueType_of_known known, withTypes,
    Store.registry, set_getD_self]

/-- A typekit that is made for a project that was not made belongs to no project. -/
theorem looked_withOpaqueType_of_past (reached : s.Reachable) (takes : s.TakesOpaques p)
    (past : ¬p.index < s.projects.items.length) {name : String}
    (known : ((s.registry (s.project p).registry).find? name).isSome = true) :
    s.Looked (p.withOpaqueType name s) := by
  have none : (s.project p).typekit = none := by
    cases own : (s.project p).typekit with
    | none => rfl
    | some id => exact absurd (Store.made_of_typekit own) past
  have projects (q : ProjectId) : (p.withOwnTypekit s).project q = s.project q := by
    rw [withOwnTypekit, none]
    exact (Projects.get_modify ..).trans (if_neg fun here => past here.2)
  have same : p.withOpaqueType name s = p.withOwnTypekit s := by
    rw [withOpaqueType, Registry.withOpaqueType_of_known known, withTypes, projects, Store.registry,
      ← registries_withOwnTypekit p s, set_getD_self]
  have longer : s.typekits <+: (p.withOwnTypekit s).typekits := by
    rw [withOwnTypekit, none]
    exact List.prefix_append _ _
  have only : s.ImportsOnly (p.withOwnTypekit s) :=
    .of_longer reached.libraries.apart (registries_withOwnTypekit p s ▸ List.prefix_refl _) longer
        fun q => by
      simp [projects]
  have step : DeclaresTypes s (p.withOwnTypekit s) :=
    .single (declared_withOwnTypekit takes none) (components_withOwnTypekit p s)
  rw [same]
  exact (Store.Looked.of_steps reached.libraries.apart step only).2

/-- Where no opaque types can be declared, a declaration fails, and leaves no more behind than
lookups of types do. -/
theorem ends_declareOpaque_refused (reached : s.Reachable) (refused : ¬s.TakesOpaques p)
    (name intermediate : String) (headers : List String) (needsCopy : Bool) :
    Ends (p.declareOpaque name intermediate headers needsCopy) s (fun _ _ => False)
      fun _ t => s.Looked t := by
  refine ends_bind.2
    (p.ends_checkMutable.2 ⟨fun isOpen => ends_bind.2 (ends_get.2 ?_), fun _ => .refl s⟩)
  cases kind : (s.project p).isImported with
  | true =>
    have looked := looking_looks.typekit_of_imported kind reached.looking true
    have loaded := ends_typekit_loaded reached.settled reached.libraries kind true
    refine ends_bind.2 ((looked.and loaded).mono ?_ fun _ _ h => h.1.2.1)
    rintro id? t ⟨⟨-, looked⟩, loaded⟩
    cases id? with
    | none => exact looked
    | some id =>
      exact ends_bind.2 (ends_get.2
        (ends_ite.2 ⟨fun _ => looked, fun other => absurd (loaded id rfl).frozen other⟩))
  | false =>
    obtain ⟨id, own, frozen⟩ :
        ∃ id, (s.project p).typekit = some id ∧ (s.typekit id).frozen = true := by
      by_contra none
      exact refused ⟨kind, isOpen,
        fun id own => by simpa using fun frozen => none ⟨id, own, frozen⟩⟩
    refine ends_bind.2 (ends_bind.2 (ends_get.2 ?_))
    rw [if_neg (by simp [kind]), own]
    exact ends_bind.2
      (ends_get.2 (ends_ite.2 ⟨fun _ => .refl s, fun isOpen => absurd frozen isOpen⟩))

end ProjectId

end Componentry
