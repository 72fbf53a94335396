import Componentry.Proofs.LibraryCycles
import Componentry.Proofs.DefinitionPermanence

/-!
# Lookups from the projects of a scope

The main project and the libraries that it uses look types up in one registry, and a registered type
is found alike from all of them. A miss reaches further from the main project than from a library:
it imports the typekits of all libraries there, but only that of the library itself here. So the
projects agree on a name that is registered, and on every name once the typekit of each library was
asked for; until then a library may miss a type that another one brings.
-/

namespace Componentry

open Declares

/-- How an operation ends, without the state that it leaves. -/
def Work.outcome {α : Type} (x : Work α) (s : Store) : Except Fault α :=
  match x s with
  | .ok a _ => .ok a
  | .error fault _ => .error fault

/-- What holds of both endings of an operation holds of its outcome. -/
theorem Work.outcome_of_ends {α : Type} {x : Work α} {s : Store} {result : Except Fault α}
    (h : Ends x s (fun a _ => result = .ok a) fun fault _ => result = .error fault) :
    x.outcome s = result := by
  unfold Ends at h
  unfold Work.outcome
  cases hx : x s with
  | ok a t => rw [hx] at h; exact h.symm
  | error fault t => rw [hx] at h; exact h.symm

namespace Store

/-- The main project of a scope, and the libraries that it uses. -/
def InScope (s : Store) (m p : ProjectId) : Prop :=
  p = m ∨ p ∈ (s.project m).usedLibraries

/-- Whether nothing is left to import if a library asks for its typekit: it did so before, or the
typekit of its name was imported otherwise, and is in use if there is one. -/
def TypekitAsked (s : Store) (m l : ProjectId) : Prop :=
  (∃ id?, (s.project l).ownTypekitSlot = .resolved id?) ∨
    ∃ id?, Project.slotOf (s.project m).typekitSlots (s.project l).name = .resolved id? ∧
      ∀ id, id? = some id → id ∈ (s.project m).usedTypekits

/-- Whether this is so of all libraries that a main project uses. -/
def TypekitsAsked (s : Store) (m : ProjectId) : Prop :=
  ∀ l ∈ (s.project m).usedLibraries, s.TypekitAsked m l

end Store

/-- A main project whose libraries are all its own. -/
structure LibraryScope (m : ProjectId) (s : Store) : Prop extends OwnScope m s where
  libraries : ∀ l ∈ (s.project m).usedLibraries, (s.project l).main = some m

/-- A sound scope is one in which libraries can be asked. -/
theorem SoundScope.libraryScope {m : ProjectId} {stack : List String} {s : Store}
    (h : SoundScope m stack s) :
    LibraryScope m s where
  toOwnScope := h.toOwnScope
  libraries l hl := by
    obtain ⟨name, hslot⟩ := (h.sound.used l).1 hl
    exact ((h.sound.loaded name l).1 hslot).1

namespace LibraryScope

variable {m p : ProjectId} {s t : Store}

/-- The scope stays one where the frame is kept and no import is left under way. -/
theorem of_frame (h : LibraryScope m s) (frame : Frame s t) (settled : declaring.holds t) :
    LibraryScope m t where
  made := frame.length ▸ h.made
  isMain := (Project.congr_outline (frame.outline m) (·.main) fun _ => rfl).trans h.isMain
  settled := settled
  libraries l hl := by
    rw [Project.congr_outline (frame.outline m) (·.usedLibraries) fun _ => rfl] at hl
    exact (Project.congr_outline (frame.outline l) (·.main) fun _ => rfl).trans (h.libraries l hl)

/-- The projects of the scope are answered for by the main project. -/
theorem scope_eq (h : LibraryScope m s) (hp : s.InScope m p) : s.projects.scope p = m := by
  rcases hp with rfl | hp
  · exact Store.scope_of_own h.isMain
  · exact Store.scope_of_imported (h.libraries p hp)

/-- All projects of a scope have one registry. -/
theorem registryOf_eq (h : LibraryScope m s) (hp : s.InScope m p) :
    s.registryOf p = s.registryOf m := by
  rw [Store.registryOf, Store.registryOf, Store.scope, Store.scope, h.scope_eq hp,
    h.scope_eq (.inl rfl)]

/-- A library that is used was made. -/
theorem made_library (h : LibraryScope m s) {l : ProjectId} (hl : l ∈ (s.project m).usedLibraries) :
    l.index < s.projects.items.length := by
  by_contra past
  have main := h.libraries l hl
  rw [Store.project_of_unmade past] at main
  cases main

end LibraryScope

/-- A project stays in the scope where the frame is kept. -/
theorem Store.InScope.of_frame {m p : ProjectId} {s t : Store} (h : s.InScope m p)
    (frame : Frame s t) :
    t.InScope m p := by
  rw [InScope, Project.congr_outline (frame.outline m) (·.usedLibraries) fun _ => rfl]
  exact h

/-- What a lookup leaves as it is that finds nothing to import: all but the slots of the libraries,
of which those that are resolved stay so. -/
structure Unimported (s t : Store) : Prop extends Frame s t where
  registries : t.registries = s.registries
  usedTypekits : ∀ q, (t.project q).usedTypekits = (s.project q).usedTypekits
  typekitSlots : ∀ q, (t.project q).typekitSlots = (s.project q).typekitSlots
  resolved : ∀ q id?, (s.project q).ownTypekitSlot = .resolved id? →
    (t.project q).ownTypekitSlot = .resolved id?

namespace Unimported

variable {m : ProjectId} {s t u : Store}

/-- Nothing has to be written. -/
theorem refl (s : Store) : Unimported s s :=
  ⟨.refl s, rfl, fun _ => rfl, fun _ => rfl, fun _ _ h => h⟩

/-- What imports nothing in two steps imports nothing. -/
theorem trans (h : Unimported s t) (h' : Unimported t u) : Unimported s u where
  toFrame := h.toFrame.trans h'.toFrame
  registries := h'.registries.trans h.registries
  usedTypekits q := (h'.usedTypekits q).trans (h.usedTypekits q)
  typekitSlots q := (h'.typekitSlots q).trans (h.typekitSlots q)
  resolved q id? hq := h'.resolved q id? (h.resolved q id? hq)

/-- What does not depend on slots and typekits of a project is as it was. -/
theorem project_eq {β : Type} (h : Unimported s t) (q : ProjectId) (g : Project → β)
    (hg : ∀ r : Project, g r.outline = g r) :
    g (t.project q) = g (s.project q) :=
  Project.congr_outline (h.outline q) g hg

/-- Typekits that were asked for stay so. -/
theorem typekitsAsked (h : Unimported s t) (asked : s.TypekitsAsked m) : t.TypekitsAsked m := by
  intro l hl
  rw [h.project_eq m (·.usedLibraries) fun _ => rfl] at hl
  rcases asked l hl with ⟨id?, own⟩ | ⟨id?, slot, used⟩
  · exact .inl ⟨id?, h.resolved l id? own⟩
  · refine .inr ⟨id?, ?_, ?_⟩
    · rwa [h.typekitSlots, h.project_eq l (·.name) fun _ => rfl]
    · rwa [h.usedTypekits]

/-- The registry of a project is as it was. -/
theorem registryOf_eq (h : Unimported s t) (q : ProjectId) : t.registryOf q = s.registryOf q := by
  have scope : t.projects.scope q = s.projects.scope q :=
    Store.scope_congr (h.project_eq q (·.main) fun _ => rfl)
  have registry := h.project_eq (s.projects.scope q) (·.registry) fun _ => rfl
  rw [Store.registryOf, Store.scope, scope, registry, Store.registry, h.registries]
  rfl

/-- A slot that is not resolved yet is written. -/
theorem withOwnTypekitSlot (h : Unimported s t) {l : ProjectId}
    (idle : ∀ id?, (s.project l).ownTypekitSlot ≠ .resolved id?) (slot : Slot (Option TypekitId)) :
    Unimported s (l.withOwnTypekitSlot slot t) where
  toFrame := h.toFrame.trans
    ⟨rfl, rfl, Projects.length_modify _ _ _,
      Projects.apply_modify Project.outline (fun _ => by rfl) t.projects l⟩
  registries := h.registries
  usedTypekits q := (Projects.apply_modify (·.usedTypekits) (fun _ => by rfl) t.projects l q).trans
    (h.usedTypekits q)
  typekitSlots q := (Projects.apply_modify (·.typekitSlots) (fun _ => by rfl) t.projects l q).trans
    (h.typekitSlots q)
  resolved q id? hq := by
    have other : q ≠ l := by
      rintro rfl
      exact idle id? hq
    rw [Store.project, ProjectId.withOwnTypekitSlot, Projects.get_modify, if_neg
      fun written => other written.1]
    exact h.resolved q id? hq

end Unimported

namespace ProjectId

variable {m p l : ProjectId} {s : Store}

/-- A typekit whose import by name is complete is given again. -/
theorem ends_importedTypekit_of_resolved (scope : s.projects.scope p = m) {name : String}
    {id? : Option TypekitId} (slot : Project.slotOf (s.project m).typekitSlots name = .resolved id?)
    {P : Option TypekitId → Store → Prop} {F : Fault → Store → Prop} (h : P id? s) :
    Ends (p.importedTypekit name) s P F := by
  refine ends_bind.2 ?_
  change Ends (Work.resolveSlot (s.projects.scope p) _ _ name _) s _ _
  rw [scope]
  exact Slot.ends_resolve_of_resolved slot h

/-- A library asks for its typekit after it was imported and used otherwise. -/
theorem ends_importOwnTypekit_of_used (scope : s.projects.scope l = m)
    (main : s.projects.scope m = m) {id? : Option TypekitId}
    (slot : Project.slotOf (s.project m).typekitSlots (s.project l).name = .resolved id?)
    (used : ∀ id, id? = some id → id ∈ (s.project m).usedTypekits) :
    Ends l.importOwnTypekit s (fun _ t => t = s) fun _ _ => False := by
  refine ends_bind.2 ?_
  change Ends ((s.projects.scope l).hasTypekit (s.project l).name >>= _) s _ _
  rw [scope]
  refine ends_bind.2 (ends_bind.2 (ends_importedTypekit_of_resolved main slot ?_))
  cases id? with
  | none => exact rfl
  | some id =>
    change Ends (some <$> (m.importTypekit (s.project l).name >>= m.usingTypekit)) s _ _
    refine ends_map.2 (ends_bind.2 (ends_bind.2 ?_))
    refine ends_importedTypekit_of_resolved main slot (ends_bind.2 ?_)
    change Ends (if id ∈ (s.project (s.projects.scope m)).usedTypekits then pure id else _) s _ _
    rw [main]
    exact ends_ite.2 ⟨fun _ => rfl, fun h => absurd (used id rfl) h⟩

/-- A library that has nothing left to import leaves the scope as it is. -/
theorem ends_typekit_of_asked (h : LibraryScope m s) (hl : l ∈ (s.project m).usedLibraries)
    (asked : s.TypekitAsked m l) :
    Ends (l.typekit) s (fun _ t => Unimported s t) fun _ _ => False := by
  have imported : (s.project l).isImported = true := by
    rw [Project.isImported, h.libraries l hl]
    rfl
  refine ends_bind.2 (ends_ite.2 ⟨fun _ => ?_, fun other => absurd imported other⟩)
  cases own : (s.project l).ownTypekitSlot with
  | resolved id? => exact Slot.ends_resolve_of_resolved own (.refl s)
  | resolving => exact absurd own (h.settled.2 l)
  | unresolved =>
    have idle (id? : Option TypekitId) : (s.project l).ownTypekitSlot ≠ .resolved id? := by
      simp [own]
    obtain ⟨id?, slot, used⟩ := asked.resolve_left (not_exists.2 idle)
    let mid := l.withOwnTypekitSlot .resolving s
    have written : Unimported s mid := (Unimported.refl s).withOwnTypekitSlot idle _
    have scope (q : ProjectId) (hq : s.InScope m q) : mid.projects.scope q = m :=
      (Projects.scope_modify ..).trans (h.scope_eq hq)
    have slot' :
        Project.slotOf (mid.project m).typekitSlots (mid.project l).name = .resolved id? := by
      rwa [written.typekitSlots, written.project_eq l (·.name) fun _ => rfl]
    have used' : ∀ id, id? = some id → id ∈ (mid.project m).usedTypekits := by
      rwa [written.usedTypekits]
    have imported :=
      ends_importOwnTypekit_of_used (scope l (.inr hl)) (scope m (.inl rfl)) slot' used'
    refine Slot.ends_resolve_of_unresolved own (imported.mono ?_ fun _ _ h => h)
    rintro _ t rfl
    exact written.withOwnTypekitSlot idle _

/-- The typekits of all libraries were asked for. -/
private def asking (m : ProjectId) (libraries : List ProjectId) : Effect Fault Store where
  holds s := LibraryScope m s ∧ s.TypekitsAsked m ∧ (s.project m).usedLibraries = libraries
  change := Unimported
  fault _ := False
  refl := .refl
  trans := .trans

/-- A library whose typekit was asked for is asked again. -/
private theorem asking_typekit {libraries : List ProjectId} (hl : l ∈ libraries) :
    (asking m libraries).Covers (l.typekit) := by
  rintro s ⟨h, asked, rfl⟩
  have settled := typing_typekit l false s h.settled
  refine (Ends.and settled (ends_typekit_of_asked h hl (asked l hl))).mono ?_ fun _ _ h => h.2.elim
  rintro id? t ⟨⟨ht, -⟩, unimported⟩
  refine ⟨⟨h.of_frame unimported.toFrame ht, unimported.typekitsAsked asked, ?_⟩, unimported⟩
  exact unimported.project_eq m (·.usedLibraries) fun _ => rfl

/-- Once the typekit of each library was asked for, a miss brings nothing into use. -/
theorem ends_importOnMiss_of_asked (h : LibraryScope m s) (asked : s.TypekitsAsked m)
    (hp : s.InScope m p) :
    Ends p.importOnMiss s (fun found t => found = false ∧ Unimported s t) fun _ _ => False := by
  have counted {t : Store} (ht : Unimported s t) :
      decide ((s.scope p).usedTypekits.length < (t.scope p).usedTypekits.length) = false := by
    have scope : t.projects.scope p = s.projects.scope p :=
      Store.scope_congr (ht.project_eq p (·.main) fun _ => rfl)
    simp [Store.scope, scope, ht.usedTypekits]
  have covered {l : ProjectId} (hl : l ∈ (s.project m).usedLibraries) := asking_typekit (m := m) hl
  refine ends_bind.2 (ends_ite.2 ⟨fun imported => ends_bind.2 ?_, fun own => ends_bind.2 ?_⟩)
  · have hl : p ∈ (s.project m).usedLibraries := hp.resolve_left fun isMain => by
      rw [isMain, Project.isImported, h.isMain] at imported
      cases imported
    exact (covered hl s ⟨h, asked, rfl⟩).mono (fun _ _ h => ⟨counted h.2, h.2⟩) fun _ _ h => h.2.2
  · have isMain : s.scope p = s.project m := by rw [Store.scope, h.scope_eq hp]
    rw [isMain]
    refine (Effect.covers_forM (fun l hl => (covered hl).bind fun _ => Effect.covers_pure _) s
      ⟨h, asked, rfl⟩).mono ?_ fun _ _ h => h.2.2
    exact fun _ _ h => ⟨isMain ▸ counted h.2, h.2⟩

/-- Once the typekit of each library was asked for, every project of the scope answers from the
registry alone. -/
theorem ends_findType_of_asked (h : LibraryScope m s) (asked : s.TypekitsAsked m)
    (hp : s.InScope m p) (name : String) :
    Ends (p.findType (.named name)) s
      (fun d t => (s.registryOf m).get name = .ok d ∧ Unimported s t)
      fun fault t => (s.registryOf m).get name = .error fault ∧ Unimported s t := by
  refine ends_bind.2 (ends_get.2 ?_)
  rw [h.registryOf_eq hp]
  cases hget : (s.registryOf m).get name with
  | ok d => exact ⟨rfl, .refl s⟩
  | error fault =>
    refine ends_bind.2 ((ends_importOnMiss_of_asked h asked hp).mono ?_ fun _ _ h => h.elim)
    rintro _ t ⟨rfl, ht⟩
    exact ⟨rfl, ht⟩

/-- Libraries ask for their typekits, one after the other. -/
private def resolving (m : ProjectId) (libraries : List ProjectId) : Effect Fault Store where
  holds s := LibraryScope m s ∧ (s.project m).usedLibraries = libraries
  change s t := ∀ q id?, (s.project q).ownTypekitSlot = .resolved id? →
    (t.project q).ownTypekitSlot = .resolved id?
  fault _ := True
  refl _ _ _ h := h
  trans h h' q id? hq := h' q id? (h q id? hq)

/-- A library is asked for its typekit, which is then resolved. -/
private theorem resolving_typekit {libraries : List ProjectId} (hl : l ∈ libraries)
    (hs : (resolving m libraries).holds s) :
    Ends (l.typekit) s
      (fun _ t => (resolving m libraries).holds t ∧ (resolving m libraries).change s t ∧
        ∃ id?, (t.project l).ownTypekitSlot = .resolved id?)
      fun _ t => (resolving m libraries).holds t ∧ (resolving m libraries).change s t ∧ True := by
  obtain ⟨h, rfl⟩ := hs
  have holds {t : Store} (ht : typing.holds t) (hst : typing.change s t) :
      (resolving m (s.project m).usedLibraries).holds t :=
    ⟨h.of_frame hst.1.frame ht, Project.congr_outline (hst.1.frame.outline m) (·.usedLibraries)
      fun _ => rfl⟩
  suffices Ends (l.typekit) s
      (fun _ t => (resolving m (s.project m).usedLibraries).change s t ∧
        ∃ id?, (t.project l).ownTypekitSlot = .resolved id?)
      fun _ t => (resolving m (s.project m).usedLibraries).change s t from
    ((typing_typekit l false s h.settled).and this).mono (fun _ _ h => ⟨holds h.1.1 h.1.2, h.2⟩)
      fun _ _ h => ⟨holds h.1.1 h.1.2.1, h.2, trivial⟩
  have imported : (s.project l).isImported = true := by
    rw [Project.isImported, h.libraries l hl]
    rfl
  refine ends_bind.2 (ends_ite.2 ⟨fun _ => ?_, fun other => absurd imported other⟩)
  cases own : (s.project l).ownTypekitSlot with
  | resolved id? => exact Slot.ends_resolve_of_resolved own ⟨fun _ _ h => h, id?, own⟩
  | resolving => exact absurd own (h.settled.2 l)
  | unresolved =>
    let mid := l.withOwnTypekitSlot .resolving s
    have settled : importing.holds mid := by
      intro q name
      change Project.slotOf ((s.projects.modify l _).get q).typekitSlots name ≠ .resolving
      rw [Projects.apply_modify (·.typekitSlots) fun _ => by rfl]
      exact h.settled.1 q name
    have length {t : Store} (ht : importing.change mid t) :
        t.projects.items.length = s.projects.items.length :=
      ht.1.1.frame.length.trans (Projects.length_modify ..)
    have kept {t : Store} (ht : importing.change mid t) (slot : Slot (Option TypekitId)) :
        (resolving m (s.project m).usedLibraries).change s (l.withOwnTypekitSlot slot t) := by
      intro q id? hq
      have other : ∀ c : Prop, ¬(q = l ∧ c) := by
        rintro c ⟨rfl, -⟩
        rw [own] at hq
        cases hq
      have same := ht.2 q
      simp only [mid, withOwnTypekitSlot, Store.project, Projects.get_modify,
        if_neg (other _)] at same hq ⊢
      rw [same, hq]
    refine Slot.ends_resolve_of_unresolved own
      ((importing_importOwnTypekit l mid settled).mono ?_ ?_)
    · rintro id? t ⟨-, ht⟩
      refine ⟨kept ht _, id?, ?_⟩
      change (((t.projects.modify l _).get l).ownTypekitSlot) = _
      rw [Projects.get_modify, if_pos ⟨rfl, length ht ▸ h.made_library hl⟩]
    · exact fun _ _ h => kept h.2.1 _

/-- A miss of the main project asks for the typekit of each library. -/
theorem ends_importOnMiss_of_main (h : LibraryScope m s) :
    Ends m.importOnMiss s (fun _ t => t.TypekitsAsked m) fun _ _ => True := by
  refine ends_bind.2 (ends_ite.2 ⟨fun imported => ?_, fun _ => ends_bind.2 ?_⟩)
  · rw [Project.isImported, h.isMain] at imported
    cases imported
  · rw [Store.scope, h.scope_eq (.inl rfl)]
    refine (Effect.ends_forM (E := resolving m (s.project m).usedLibraries)
      (Q := fun l t => ∃ id?, (t.project l).ownTypekitSlot = .resolved id?)
      (fun l _ _ kept asked => asked.imp (kept l))
      (fun l hl t ht => ends_bind.2 (resolving_typekit hl ht)) ⟨h, rfl⟩).mono ?_
        fun _ _ _ => trivial
    rintro - t ⟨⟨-, libraries⟩, -, asked⟩ l hl
    exact .inl (asked l (libraries ▸ hl))

end ProjectId

/-- The state after lookups. -/
def lookUpAll (lookups : List (ProjectId × String)) (s : Store) : Store :=
  lookups.foldl (fun s q => (q.1.findType (.named q.2)).after s) s

/-- Lookups are steps of declarations. -/
theorem declares_lookUpAll (lookups : List (ProjectId × String)) {s : Store}
    (hs : declaring.holds s) :
    declaring.holds (lookUpAll lookups s) ∧ Declares s (lookUpAll lookups s) :=
  Effect.after_each (fun q => Work.declaring_of_typing (q.1.typing_findType (.named q.2)))
    lookups hs

/-- Once the typekit of each library was asked for, lookups from the scope import nothing. -/
theorem unimported_lookUpAll {m : ProjectId} {s : Store} (h : LibraryScope m s)
    (asked : s.TypekitsAsked m) {lookups : List (ProjectId × String)}
    (hlookups : ∀ q ∈ lookups, s.InScope m q.1) :
    Unimported s (lookUpAll lookups s) := by
  induction lookups generalizing s with
  | nil => exact .refl s
  | cons q lookups ih =>
    have looked : Unimported s ((q.1.findType (.named q.2)).after s) := Work.after_of_ends <|
      (ProjectId.ends_findType_of_asked h asked (hlookups q List.mem_cons_self) q.2).mono
      (fun _ _ h => h.2) fun _ _ h => h.2
    have settled := (declares_lookUpAll [q] h.settled).1
    refine looked.trans (ih (h.of_frame looked.toFrame settled) (looked.typekitsAsked asked)
      fun q' hq' => ?_)
    exact (hlookups q' (List.mem_cons_of_mem q hq')).of_frame looked.toFrame

/-- A type that is registered is found as it is registered, whatever was looked up before. -/
theorem findType_of_registered {m p : ProjectId} {s : Store} (h : LibraryScope m s)
    (hp : s.InScope m p) {name : String} (registered : (s.registryOf m).contains name = true)
    (earlier : List (ProjectId × String)) :
    (p.findType (.named name)).outcome (lookUpAll earlier s) = (s.registryOf m).get name := by
  obtain ⟨settled, steps⟩ := declares_lookUpAll earlier h.settled
  obtain ⟨d, hd⟩ : ∃ d, (s.registryOf m).get name = .ok d := by
    obtain ⟨d, hd⟩ := Option.isSome_iff_exists.1 registered
    exact ⟨d, by rw [Registry.get, hd]⟩
  have later := (steps.evolves.registryOf h.made).2.get hd
  have scope := h.of_frame steps.frame settled
  rw [← scope.registryOf_eq (hp.of_frame steps.frame)] at later
  rw [Work.outcome, ProjectId.findType_of_get later, hd]

/-- The projects of a scope agree on a type, whatever was looked up before, if it is registered or
the typekit of each library was asked for: each finds the definition in the registry of the scope,
or else none. A miss of the main project asks for the typekits of all libraries. -/
theorem findType_agrees {m : ProjectId} {start : Store} (fresh : NoLibraries m start)
    (calls : List ScopeCall) :
    let s := ScopeCall.runAll m calls start
    (∀ name, (s.registryOf m).contains name = true ∨ s.TypekitsAsked m →
      ∀ earlier : List (ProjectId × String), (∀ q ∈ earlier, s.InScope m q.1) → ∀ p, s.InScope m p →
        (p.findType (.named name)).outcome (lookUpAll earlier s) = (s.registryOf m).get name) ∧
      ∀ found t, m.importOnMiss s = .ok found t → t.TypekitsAsked m := by
  intro s
  have h : LibraryScope m s := (fresh.sound.runAll calls).libraryScope
  refine ⟨fun name answered earlier hearlier p hp => ?_, fun found t asked => ?_⟩
  · rcases answered with registered | asked
    · exact findType_of_registered h hp registered earlier
    · have looked := unimported_lookUpAll h asked hearlier
      have later := h.of_frame looked.toFrame (declares_lookUpAll earlier h.settled).1
      rw [← looked.registryOf_eq m]
      exact Work.outcome_of_ends <|
        (ProjectId.ends_findType_of_asked later (looked.typekitsAsked asked)
        (hp.of_frame looked.toFrame) name).mono (fun _ _ h => h.1) fun _ _ h => h.1
  · exact (ProjectId.ends_importOnMiss_of_main h).of_ok asked

/-- A call on a scope and its libraries as a call of a run. -/
def ScopeCall.toCall (m : ProjectId) : ScopeCall → Call
  | .declare d => .declare d
  | .useLibrary name => .useLibrary m name

/-- Calls on a scope and its libraries are calls of a run. -/
theorem ScopeCall.evolves_runAll {m : ProjectId} {s : Store} (hs : declaring.holds s)
    (calls : List ScopeCall) :
    Evolves s (ScopeCall.runAll m calls s) := by
  have same : ScopeCall.runAll m calls s = Call.runAll (calls.map (toCall m)) s := by
    rw [ScopeCall.runAll, Call.runAll, List.foldl_map]
    congr 1
    funext s call
    cases call <;> rfl
  rw [same]
  exact (Call.evolves_runAll hs _).2

/-- Two packages of libraries, which bring no typekits. -/
def twoLibraries : Store where
  files := ⟨[(["a"], .directory), (["a", "taskgen.yaml"], .file "name: a\n".toUTF8),
    (["b"], .directory), (["b", "taskgen.yaml"], .file "name: b\n".toUTF8)]⟩
  packageMaps := [⟨[("a", ⟨"/", ["a"]⟩), ("b", ⟨"/", ["b"]⟩)]⟩]

/-- A standard type is found alike from a new project and from two libraries that were imported into
it. -/
theorem findType_agrees_twoLibraries :
    let start := twoLibraries.withMain "app" ⟨"/", []⟩ ⟨0⟩ none
    let s := ScopeCall.runAll ⟨0⟩ [.useLibrary "a", .useLibrary "b"] start
    NoLibraries ⟨0⟩ start ∧ (s.registryOf ⟨0⟩).contains "double" = true ∧
      ∀ earlier : List (ProjectId × String), (∀ q ∈ earlier, s.InScope ⟨0⟩ q.1) →
        ∀ p, s.InScope ⟨0⟩ p →
        (p.findType (.named "double")).outcome (lookUpAll earlier s) =
        (s.registryOf ⟨0⟩).get "double" := by
  intro start s
  have fresh : NoLibraries ⟨0⟩ start :=
    noLibraries_withMain (s := twoLibraries) (settled_of_empty rfl) "app" ⟨"/", []⟩ ⟨0⟩ none
  have registered : (s.registryOf ⟨0⟩).contains "double" = true := by
    obtain ⟨d, hd⟩ := Option.isSome_iff_exists.1
      (show ((start.registryOf ⟨0⟩).find? (Typename.normalize "double")).isSome =
        true by decide +kernel)
    have steps :=
      ScopeCall.evolves_runAll (m := ⟨0⟩) fresh.settled [.useLibrary "a", .useLibrary "b"]
    rw [Registry.contains, (steps.registryOf fresh.made).2.find? hd]
    rfl
  exact ⟨fresh, registered, (findType_agrees fresh _).1 "double" (.inl registered)⟩

end Componentry
