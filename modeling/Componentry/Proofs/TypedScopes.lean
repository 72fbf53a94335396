import Componentry.Proofs.MemberDeclarations
import Componentry.Proofs.ProjectLoads
import Componentry.Proofs.RuledTypekits

/-!
# Scopes whose components expose registered types

All components of a run belong to its only scope, and the types that their members expose are
registered there: a member is declared with types that were looked up, and the registry only grows.
Declarations in a component keep this, and so do loads of libraries.
-/

namespace Componentry

open Declares

/-- The types that components expose are registered in the only scope of a run, and those that are
opaque have rules. -/
structure TypedScope (m : ProjectId) (s : Store) : Prop extends RuledScope m s where
  settled : declaring.holds s
  homes : ∀ c, s.projects.scope (s.interface c).project = m
  known : ∀ c type, (s.interface c).Exposes type → type ∈ (s.registryOf m).names

namespace RuledScope

variable {m p : ProjectId} {s : Store}

/-- A project for which the scope answers was made. -/
theorem made_of_scope (h : RuledScope m s) (scope : s.projects.scope p = m) :
    p.index < s.projects.items.length := by
  cases hmain : s.projects.main? p with
  | none =>
    rw [Projects.scope, hmain] at scope
    obtain rfl : p = m := scope
    exact h.made
  | some m' =>
    obtain ⟨q, hq, -⟩ := Option.bind_eq_some_iff.1 hmain
    exact (List.getElem?_eq_some_iff.1 hq).1

/-- Projects of a ruled scope share its registry. -/
theorem registryOf_of_scope (h : RuledScope m s) (scope : s.projects.scope p = m) :
    s.registryOf p = s.registryOf m := by
  rw [Store.registryOf, Store.registryOf, Store.scope, Store.scope, scope, h.scope]

/-- Components, operations that belong to none, and the log do not matter. -/
theorem beside (h : RuledScope m s) (components : Components) (operations : List Operation)
    (lines : List LogLine) :
    RuledScope m
      { s with components := components, freeOperations := operations, log := lines } where
  made := h.made
  isMain := h.isMain
  apart := h.apart.beside components operations lines
  importer := h.importer
  own := h.own
  imported name id hid :=
    ⟨(h.imported name id hid).frozen, (h.imported name id hid).package,
      (h.imported name id hid).ruled⟩
  importedOwn p id hid :=
    ⟨(h.importedOwn p id hid).frozen, (h.importedOwn p id hid).package,
      (h.importedOwn p id hid).ruled⟩
  names := h.names
  rules := h.rules

end RuledScope

namespace TypedScope

variable {m : ProjectId} {s t : Store}

/-- A step that leaves the components as they are. -/
theorem of_components (h : TypedScope m s) (steps : Evolves s t) (ruled : RuledScope m t)
    (settled : declaring.holds t) (same : t.components = s.components) : TypedScope m t := by
  have interface (c : ComponentId) : t.interface c = s.interface c := by
    rw [Store.interface, Store.component, same, Store.interface, Store.component]
  refine ⟨ruled, settled, fun c => ?_, fun c type exposes => ?_⟩
  · rw [interface]
    exact (steps.registryOf (h.made_of_scope (h.homes c))).1.trans (h.homes c)
  · rw [interface] at exposes
    exact (steps.registryOf h.made).2.names (h.known c type exposes)

/-- An operation that leaves the components as they are and the scope ruled. -/
theorem ends_of_typing (h : TypedScope m s) {α : Type} {R : Fault → Prop} {x : Work α}
    {Q : α → Store → Prop} (hx : typing.Covers x)
    (ruled : Ends x s (fun a t => RuledScope m t ∧ Q a t) fun fault t => R fault → RuledScope m t) :
    Ends x s (fun a t => TypedScope m t ∧ Q a t) fun fault t => R fault → TypedScope m t := by
  refine ((hx s h.settled).and ruled).mono ?_ ?_
  · exact fun a t ⟨⟨settled, hst⟩, ht, given⟩ =>
      ⟨h.of_components hst.1.evolves ht settled hst.2, given⟩
  · exact fun fault t ⟨⟨settled, hst, _⟩, ht⟩ recovered =>
      h.of_components hst.1.evolves (ht recovered) settled hst.2

/-- A type that is found from a project of the scope is registered there. -/
theorem ends_findType (h : TypedScope m s) {p : ProjectId} (scope : s.projects.scope p = m)
    (name : String) :
    Ends (p.findType (.named name)) s (fun d t => TypedScope m t ∧ d.name ∈ (t.registryOf m).names)
      fun fault t => fault.MissesType → TypedScope m t := by
  have typing := p.typing_findType (.named name)
  have found := RuledScope.keeps_findType p name s h.toRuledScope
  refine ((typing s h.settled).and (h.ends_of_typing typing found)).mono ?_ fun _ _ h => h.2
  rintro d t ⟨⟨-, steps, -⟩, ht, found⟩
  have scope' := (steps.evolves.registryOf (h.made_of_scope scope)).1.trans scope
  rw [ht.registryOf_of_scope scope'] at found
  exact ⟨ht, Registry.mem_names_of_get found⟩

/-- A component is changed that stays in its project and exposes no further types than registered
ones. -/
theorem changed (h : TypedScope m s) (c : ComponentId) {f : Component → Component}
    (project : ∀ k : Component, (f k).interface.project = k.interface.project)
    (types : ∀ (k : Component) type, (f k).interface.Exposes type →
      k.interface.Exposes type ∨ type ∈ (s.registryOf m).names) : TypedScope m (c.changed f s) := by
  refine ⟨h.beside _ s.freeOperations s.log, h.settled, fun d => ?_, fun d type exposes => ?_⟩
  · have same := Components.apply_modify (·.interface.project) project s.components c d
    change s.projects.scope ((s.components.modify c f).get d).interface.project = m
    rw [same]
    exact h.homes d
  · change ((s.components.modify c f).get d).interface.Exposes type at exposes
    rw [Components.get_modify] at exposes
    split at exposes
    · exact (types _ type exposes).elim (h.known d type) id
    · exact h.known d type exposes

/-- Declarations in a component keep the types of all components registered. -/
theorem upheld (m : ProjectId) (c : ComponentId) :
    Upheld c (TypedScope m) (fun _ => False) (fun s name => name ∈ (s.registryOf m).names)
      fun _ => True where
  settled _ h := h.settled
  finds name s h :=
    (h.ends_findType (h.homes c) name).mono (fun _ _ h => h) fun _ _ ht missing =>
      ht (missing.resolve_left id)
  pointer s name target header h := by
    have typing := (s.interface c).project.typing_declareOpaque name target [header] false
    have ruled := h.ends_declareOpaque (h.homes c) name target [header] false
    refine (h.ends_of_typing (R := fun _ => False) (Q := fun _ _ => True) typing
      (ruled.mono ?_ ?_)).mono (fun _ _ h => h.1) fun _ _ h => h
    · exact fun _ _ ht => ⟨ht, trivial⟩
    · exact fun _ _ _ => False.elim
  member s member h declarable _ _ types := by
    refine h.changed c (fun k => k.interface.project_withMember member) fun k type exposes => ?_
    obtain ⟨m', hm', used⟩ := exposes
    rcases List.mem_cons.1 ((k.interface.members_withMember member declarable).mem_iff.1 hm') with
      rfl | old
    · exact .inr (types type used)
    · exact .inl ⟨m', old, used⟩
  change s f h retyped := h.changed c (fun k => (retyped k).project) fun k => (retyped k).types
  free s operations h := ⟨h.beside s.components operations s.log, h.settled, h.homes, h.known⟩

/-- A library is made for the scope. -/
theorem withLibrary (h : TypedScope m s) (name : String) (baseDir : Files.Path)
    (packages : PackageMapId) (package : Option Package) :
    TypedScope m (m.withLibrary name baseDir packages package s h.made) := by
  have step : Evolved s (m.withLibrary name baseDir packages package s h.made) :=
    .newLibrary m _ _ _ _ h.made
  have project (p : ProjectId) :
      (m.withLibrary name baseDir packages package s h.made).project p = _ :=
    Store.project_withLibrary h.made p
  have registry :
      (m.withLibrary name baseDir packages package s h.made).registryOf m = s.registryOf m := by
    have inRange := h.apart.projects m
    have old : (s.project m).registry ≠ ⟨s.registries.length⟩ := fun same => by
      simp [same] at inRange
    have scope := (Evolves.registryOf (.single step) h.made).1.trans h.scope
    rw [h.registryOf, Store.registryOf, Store.scope, scope, project,
      if_neg (Projects.ne_next h.made), Store.registry_of_append (s := s) rfl, if_neg old]
  refine h.of_components (.single step) ?_ (Work.settled_push h.settled project rfl rfl) rfl
  refine h.toRuledScope.of_evolves (.single step) (fun p m' hm => ?_) (fun n id hid => .inl ?_)
    (fun p id hid => .inl ?_) fun d hd => .inl (registry ▸ hd)
  · rw [project] at hm
    split at hm
    · cases hm
      exact .inr rfl
    · exact .inl hm
  · rwa [project, if_neg (Projects.ne_next h.made)] at hid
  · rw [project] at hid
    split at hid
    · cases hid
    · exact hid

/-- A component that comes without members is declared in a project of the scope. -/
theorem withComponent (h : TypedScope m s) {p : ProjectId} (scope : s.projects.scope p = m)
    {k : Component}
    {known : ∀ b, k.interface.superclass = some b → b.index < s.components.items.length}
    (project : k.interface.project = p) (bare : k.interface.members = [])
    (settled : declaring.holds (p.withComponent k s known))
    (steps : Evolves s (p.withComponent k s known)) : TypedScope m (p.withComponent k s known) := by
  have interface (c : ComponentId) : (p.withComponent k s known).interface c =
      if c = s.components.next then k.interface else s.interface c := by
    rw [Store.interface, Store.component, ProjectId.withComponent, Components.get_push]
    split <;> rfl
  have ruled : RuledScope m (p.withComponent k s known) :=
    h.toRuledScope.modify _ p steps (fun _ => rfl) (fun _ => rfl) fun _ => rfl
  refine ⟨ruled, settled, fun c => ?_, fun c type exposes => ?_⟩
  · rw [interface, ProjectId.withComponent, Projects.scope_modify]
    split
    · rw [project, scope]
    · exact h.homes c
  · rw [interface] at exposes
    split at exposes
    · obtain ⟨member, mem, -⟩ := exposes
      rw [bare] at mem
      cases mem
    · exact (steps.registryOf h.made).2.names (h.known c type exposes)

/-- A component is declared in a project of the scope. -/
theorem ends_declareComponent (h : TypedScope m s) {p : ProjectId} (scope : s.projects.scope p = m)
    (name : String) (superclass : ProjectId.Superclass) (doc : Option String) :
    Ends (p.declareComponent name superclass doc) s (fun _ t => TypedScope m t)
      fun _ t => TypedScope m t := by
  refine ((p.declaring_declareComponent name superclass doc s h.settled).and
    (p.ends_declareComponent name superclass doc s)).mono ?_ ?_
  · rintro c _ ⟨⟨settled, steps⟩, -, k, known, project, bare, rfl⟩
    exact h.withComponent scope project bare settled steps.evolves
  · rintro _ _ ⟨-, rfl⟩
    exact h

/-- A typekit is used that is imported by name. -/
theorem ends_usingTypekitNamed (h : TypedScope m s) {p : ProjectId} (scope : s.projects.scope p = m)
    (name : String) :
    Ends (do discard (p.usingTypekit (← p.importTypekit name))) s (fun _ t => TypedScope m t)
      fun fault t => fault.MissesType → TypedScope m t := by
  have typing : typing.Covers (do discard (p.usingTypekit (← p.importTypekit name))) :=
    Declaration.typing_run (d := .usingTypekitNamed p name) rfl
  refine (h.ends_of_typing (Q := fun _ _ => True) typing (ends_bind.2 ?_)).mono (fun _ _ h => h.1)
    fun _ _ h => h
  have imports := Work.typing_of_importing (p.importing_importTypekit name) s h.settled
  refine (imports.and (h.ends_importTypekit scope name)).mono ?_ fun _ _ h => h.2
  rintro id t ⟨⟨-, steps, -⟩, ht, complete⟩
  have scope' := (steps.evolves.registryOf (h.made_of_scope scope)).1.trans scope
  exact ends_map.2 ((ht.ends_usingTypekit scope' complete).mono (fun _ _ h => ⟨h.1, trivial⟩)
    fun _ _ h => h)

/-- Declarations end in a project. -/
theorem keeps_freeze (m p : ProjectId) {R : Fault → Prop} :
    Keeps (TypedScope m) R p.freeze fun _ _ => True := by
  intro s h
  have settled : declaring.holds (p.withFrozen s) :=
    Declares.settled_modify h.settled p (fun _ => rfl) fun _ => rfl
  have frozen : TypedScope m (p.withFrozen s) :=
    h.of_components (.single (.freeze p))
      (h.toRuledScope.modify s.components p (.single (.freeze p)) (fun _ => rfl) (fun _ => rfl)
        fun _ => rfl) settled rfl
  have completed (id : TypekitId) : TypedScope m (id.withFrozen (p.withFrozen s)) := by
    refine frozen.of_components (.single (.completeTypekit id)) ?_ settled rfl
    exact frozen.toRuledScope.of_evolves (.single (.completeTypekit id)) (fun _ _ h => .inl h)
      (fun _ _ h => .inl h) (fun _ _ h => .inl h) fun _ h => .inl h
  exact p.ends_freeze_of (fun _ => ⟨frozen, trivial⟩) fun id _ _ => ⟨completed id, trivial⟩

/-- Loads of libraries keep the types of all components registered. -/
theorem importable (m : ProjectId) : Importable (TypedScope m) (fun _ => False)
    (fun p s => p.index < s.projects.items.length ∧ s.projects.scope p = m) fun q _ => q = m where
  settled _ h := h.settled
  placed_persists p s t steps placed :=
    ⟨Nat.lt_of_lt_of_le placed.1 steps.grows.2.1, (steps.registryOf placed.1).1.trans placed.2⟩
  answers_persists _ _ _ _ same := same
  scope _ _ placed := placed.2
  log s lines h := ⟨h.beside s.components s.freeOperations lines, h.settled, h.homes, h.known⟩
  library s q name baseDir packages package h same := by
    subst same
    refine Work.ends_newLibrary h.made name baseDir packages package
      ⟨h.withLibrary name baseDir packages package, ?_, ?_⟩
    · simp [ProjectId.withLibrary, Projects.push, Projects.next]
    · rw [Projects.scope, Projects.main?_eq]
      change ((Store.project _ s.projects.next).main).getD _ = q
      rw [Store.project_withLibrary h.made, if_pos rfl]
      rfl
  typekit s p name h placed :=
    (h.ends_usingTypekitNamed placed.2 name).mono (fun _ _ h => h) fun _ _ _ => False.elim
  component s p d h placed := by
    refine ends_bind.2 ((h.ends_declareComponent placed.2 _ _ _).mono ?_ fun _ _ _ => False.elim)
    exact fun c t ht => ((upheld m c).replay (fun _ => trivial) d t ht).mono (fun _ _ h => h.1)
      fun _ _ h => h
  slot s q name slot h _ :=
    h.of_components (.single (.importLibrary q name slot))
      (h.toRuledScope.modify s.components q (.single (.importLibrary q name slot)) (fun _ => rfl)
        (fun _ => rfl) fun _ => rfl)
      (Declares.settled_modify h.settled q (fun _ => rfl) fun _ => rfl) rfl
  used s q l h _ :=
    h.of_components (.single (.useLibrary q l))
      (h.toRuledScope.modify s.components q (.single (.useLibrary q l)) (fun _ => rfl)
        (fun _ => rfl) fun _ => rfl)
      (Declares.settled_modify h.settled q (fun _ => rfl) fun _ => rfl) rfl
  freeze p := keeps_freeze m p

end TypedScope

end Componentry
