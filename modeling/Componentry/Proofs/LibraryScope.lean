import Componentry.Proofs.LibraryState
import Componentry.Proofs.Replaying

/-!
# Scopes that import libraries

A scope keeps track of the imports of its libraries by name. The steps of an import are writes of
its slot, a new project for the library, the end of its declarations, and its use; between them
there are only declarations. Each step keeps the imports of a scope sound, and none takes back a
library that is complete.
-/

namespace Componentry

open Declares

namespace Store

/-- Whether a package that a project finds describes a library. -/
def Describes (s : Store) (m : ProjectId) (name : String) (d : Description.Project) : Prop :=
  ∃ package text,
    (s.packageMap (s.project m).packages).find name s.files = .ok package s.files ∧
    package.hasLibrary s.files = .ok true s.files ∧
    Files.Change.readText package.projectFile s.files = .ok text s.files ∧
    Description.Project.parse package.projectFile.toText text = .ok d

/-- Whether one library names another one among those that it uses. -/
def ImportsLibrary (s : Store) (m : ProjectId) (name other : String) : Prop :=
  ∃ d, s.Describes m name d ∧ other ∈ d.usedLibraries

/-- Whether a project is a library that was loaded completely from the package of a name into a
scope. -/
def Loaded (s : Store) (m : ProjectId) (name : String) (l : ProjectId) : Prop :=
  (s.project l).main = some m ∧ (s.project l).frozen = true ∧
    (s.project l).package.map (·.name) = some name

/-- How far the imports of libraries into a scope have come. -/
def libraryState (s : Store) (m : ProjectId) : LibraryState where
  slot := Project.slotOf (s.project m).librarySlots
  used := (s.project m).usedLibraries
  loaded := s.Loaded m
  imports := s.ImportsLibrary m

/-- What declarations leave as it is tells how far the imports of libraries have come. -/
theorem libraryState_of_frame {s t : Store} (h : Declares.Frame s t) (m : ProjectId) :
    t.libraryState m = s.libraryState m := by
  have packages : (t.project m).packages = (s.project m).packages :=
    Project.congr_outline (h.outline m) (·.packages) fun _ => rfl
  have slots : (t.project m).librarySlots = (s.project m).librarySlots :=
    Project.congr_outline (h.outline m) (·.librarySlots) fun _ => rfl
  have used : (t.project m).usedLibraries = (s.project m).usedLibraries :=
    Project.congr_outline (h.outline m) (·.usedLibraries) fun _ => rfl
  have loaded : t.Loaded m = s.Loaded m := by
    funext name l
    have main : (t.project l).main = (s.project l).main :=
      Project.congr_outline (h.outline l) (·.main) fun _ => rfl
    have frozen : (t.project l).frozen = (s.project l).frozen :=
      Project.congr_outline (h.outline l) (·.frozen) fun _ => rfl
    have package : (t.project l).package = (s.project l).package :=
      Project.congr_outline (h.outline l) (·.package) fun _ => rfl
    rw [Loaded, main, frozen, package, Loaded]
  have imports : t.ImportsLibrary m = s.ImportsLibrary m := by
    unfold ImportsLibrary Describes packageMap
    rw [h.files, h.packageMaps, packages]
  rw [libraryState, slots, used, loaded, imports, libraryState]

end Store

/-- A project that is a scope of its own, while no import of a typekit is under way. -/
structure OwnScope (m : ProjectId) (s : Store) : Prop where
  made : m.index < s.projects.items.length
  isMain : (s.project m).main = none
  settled : declaring.holds s

/-- The imports of libraries into a scope are under way for the names on the stack. -/
structure SoundScope (m : ProjectId) (stack : List String)
    (s : Store) : Prop extends OwnScope m s where
  sound : (s.libraryState m).Sound stack

/-- A name for which no import was begun is not on the stack. -/
theorem SoundScope.notMem_of_unresolved {m : ProjectId} {stack : List String} {name : String}
    {s : Store} (h : SoundScope m stack s) (idle : (s.libraryState m).slot name = .unresolved) :
    name ∉ stack := by
  rw [← h.sound.underWay, idle]
  simp

/-- A scope stays sound where the frame is kept and no import is left under way. -/
theorem SoundScope.of_frame {m : ProjectId} {stack : List String} {s t : Store}
    (h : SoundScope m stack s) (frame : Declares.Frame s t) (settled : declaring.holds t) :
    SoundScope m stack t := by
  refine ⟨⟨frame.length ▸ h.made, ?_, settled⟩, ?_⟩
  · exact (Project.congr_outline (frame.outline m) (·.main) fun _ => rfl).trans h.isMain
  · rw [Store.libraryState_of_frame frame]
    exact h.sound

/-- How a scope may change while libraries are imported into it. -/
structure Advances (m : ProjectId) (s t : Store) : Prop where
  length : s.projects.items.length ≤ t.projects.items.length
  others : ∀ q, q ≠ m → q.index < s.projects.items.length →
    (t.project q).outline = (s.project q).outline
  packages : (t.project m).packages = (s.project m).packages
  packageMaps : t.packageMaps = s.packageMaps
  files : t.files = s.files
  resolved : ∀ name l, (s.libraryState m).slot name = .resolved l →
    (t.libraryState m).slot name = .resolved l

/-- Every state is an advance of itself. -/
theorem Advances.refl (m : ProjectId) (s : Store) : Advances m s s :=
  ⟨Nat.le_refl _, fun _ _ _ => rfl, rfl, rfl, rfl, fun _ _ h => h⟩

/-- Advances follow one another. -/
theorem Advances.trans {m : ProjectId} {s t u : Store} (h : Advances m s t) (h' : Advances m t u) :
    Advances m s u where
  length := Nat.le_trans h.length h'.length
  others q hq hlt := (h'.others q hq (Nat.lt_of_lt_of_le hlt h.length)).trans (h.others q hq hlt)
  packages := h'.packages.trans h.packages
  packageMaps := h'.packageMaps.trans h.packageMaps
  files := h'.files.trans h.files
  resolved name l hl := h'.resolved name l (h.resolved name l hl)

/-- What keeps the frame is an advance. -/
theorem Advances.of_frame {s t : Store} (h : Declares.Frame s t) (m : ProjectId) :
    Advances m s t where
  length := Nat.le_of_eq h.length.symm
  others q _ _ := h.outline q
  packages := Project.congr_outline (h.outline m) (·.packages) fun _ => rfl
  packageMaps := h.packageMaps
  files := h.files
  resolved name l hl := by
    rw [Store.libraryState_of_frame h]
    exact hl

/-- The packages that a scope finds describe the same libraries. -/
theorem Advances.describes {m : ProjectId} {s t : Store} (h : Advances m s t) :
    t.Describes m = s.Describes m := by
  unfold Store.Describes Store.packageMap
  rw [h.files, h.packageMaps, h.packages]

/-- The packages that a scope finds import the same libraries. -/
theorem Advances.imports {m : ProjectId} {s t : Store} (h : Advances m s t) :
    t.ImportsLibrary m = s.ImportsLibrary m := by
  unfold Store.ImportsLibrary
  rw [h.describes]

/-- A change of a project that leaves its imports of typekits as they are leaves none under way. -/
theorem Declares.settled_modify {s : Store} (hs : declaring.holds s) (p : ProjectId)
    {f : Project → Project} (slots : ∀ q, (f q).typekitSlots = q.typekitSlots)
    (own : ∀ q, (f q).ownTypekitSlot = q.ownTypekitSlot) :
    declaring.holds { s with projects := s.projects.modify p f } := by
  refine ⟨fun q name => ?_, fun q => ?_⟩
  · change Project.slotOf ((s.projects.modify p f).get q).typekitSlots name ≠ .resolving
    rw [Projects.apply_modify (·.typekitSlots) slots]
    exact hs.1 q name
  · change ((s.projects.modify p f).get q).ownTypekitSlot ≠ .resolving
    rw [Projects.apply_modify (·.ownTypekitSlot) own]
    exact hs.2 q

/-- The state with the import of a library in another state. -/
def ProjectId.withLibrarySlot (m : ProjectId) (name : String) (slot : Slot ProjectId)
    (s : Store) : Store :=
  { s with projects := s.projects.modify m fun q =>
      { q with librarySlots := Project.setSlot q.librarySlots name slot } }

/-- The state in which one more library is used in a scope. -/
def ProjectId.withUsedLibrary (m l : ProjectId) (s : Store) : Store :=
  { s with projects := s.projects.modify m fun q =>
      { q with usedLibraries := q.usedLibraries ++ [l] } }

/-- The state in which declarations have ended in a project. -/
def ProjectId.withFrozen (l : ProjectId) (s : Store) : Store :=
  { s with projects := s.projects.modify l ({ · with frozen := true }) }

/-- The state in which a typekit is complete. -/
def TypekitId.withFrozen (id : TypekitId) (s : Store) : Store :=
  { s with typekits := s.typekits.modify id.index ({ · with frozen := true }) }

/-- A typekit after one of the typekits was completed. -/
theorem TypekitId.typekit_withFrozen (id : TypekitId) (s : Store) (q : TypekitId) :
    (id.withFrozen s).typekit q = s.typekit q ∨
      (id.withFrozen s).typekit q = { s.typekit q with frozen := true } := by
  unfold withFrozen Store.typekit
  rw [List.getElem?_modify]
  cases s.typekits[q.index]? with
  | none => exact .inl rfl
  | some k =>
    by_cases hq : id.index = q.index
    · exact .inr (by simp [hq])
    · exact .inl (by simp [hq])

/-- The end of declarations in a project reaches the typekit that it builds. -/
theorem ProjectId.ends_freeze_of {p : ProjectId} {s : Store} {P : PUnit → Store → Prop}
    {F : Fault → Store → Prop}
    (frozen : (∀ id, (s.project p).typekit = some id → (s.project p).isImported = true) →
      P ⟨⟩ (p.withFrozen s))
    (complete : ∀ id, (s.project p).typekit = some id → (s.project p).isImported = false →
        P ⟨⟩ (id.withFrozen (p.withFrozen s))) : Ends p.freeze s P F := by
  have typekit : ((p.withFrozen s).project p).typekit = (s.project p).typekit :=
    Projects.apply_modify (·.typekit) (fun _ => by rfl) s.projects p p
  have imported : ((p.withFrozen s).project p).isImported = (s.project p).isImported :=
    Projects.apply_modify (·.isImported) (fun _ => by rfl) s.projects p p
  refine ends_bind.2 (ends_modify.2 (ends_bind.2 (ends_get.2 ?_)))
  dsimp only
  split
  · rename_i id own
    refine ends_ite.2 ⟨fun main => ?_, fun other => frozen fun _ _ => ?_⟩
    · rw [Bool.not_eq_true'] at main
      exact complete id (typekit.symm.trans own) (imported.symm.trans main)
    · rw [Bool.not_eq_true', Bool.not_eq_false] at other
      exact imported.symm.trans other
  · rename_i none
    refine frozen fun id own => ?_
    rw [typekit.symm.trans none] at own
    cases own
namespace Store

variable {s : Store} {m : ProjectId}

/-- A changed project other than the scope does not matter unless it is loaded or was. -/
theorem loaded_modify {p : ProjectId} {f : Project → Project}
    (same : ∀ q, (f q).frozen = q.frozen ∧ (f q).package = q.package) :
    Store.Loaded { s with projects := s.projects.modify p f } m = s.Loaded m := by
  funext name l
  change (((s.projects.modify p f).get l).main = some m ∧
    ((s.projects.modify p f).get l).frozen = true ∧
    ((s.projects.modify p f).get l).package.map (·.name) = some name) = _
  rw [Projects.apply_modify (·.main) (f := f) fun _ => by rfl,
    Projects.apply_modify (·.frozen) fun q => (same q).1,
    Projects.apply_modify (·.package) fun q => (same q).2]
  rfl

/-- The imports of libraries depend on packages only. -/
theorem importsLibrary_modify {p : ProjectId} {f : Project → Project}
    (same : ∀ q, (f q).packages = q.packages) :
    Store.ImportsLibrary { s with projects := s.projects.modify p f } m = s.ImportsLibrary m := by
  have packages : ((s.projects.modify p f).get m).packages = (s.project m).packages :=
    Projects.apply_modify (·.packages) same s.projects p m
  unfold ImportsLibrary Describes
  rw [project, packages]
  rfl

/-- The state of the libraries after a slot has changed. -/
theorem libraryState_withLibrarySlot (made : m.index < s.projects.items.length) (name : String)
    (slot : Slot ProjectId) :
    (m.withLibrarySlot name slot s).libraryState m =
      { s.libraryState m with slot := Function.update (s.libraryState m).slot name slot } := by
  have scope : (m.withLibrarySlot name slot s).project m =
      { s.project m with
        librarySlots := Project.setSlot (s.project m).librarySlots name slot } := by
    simp only [ProjectId.withLibrarySlot, project, Projects.get_modify, made, and_self, if_true]
  have loaded : (m.withLibrarySlot name slot s).Loaded m = s.Loaded m :=
    loaded_modify fun _ => ⟨rfl, rfl⟩
  have imports : (m.withLibrarySlot name slot s).ImportsLibrary m = s.ImportsLibrary m :=
    importsLibrary_modify fun _ => rfl
  have slots : Project.slotOf (Project.setSlot (s.project m).librarySlots name slot) =
      Function.update (Project.slotOf (s.project m).librarySlots) name slot := by
    funext n
    rw [Project.slotOf_setSlot, Function.update_apply]
  unfold libraryState
  rw [scope, loaded, imports, slots]

/-- The state of the libraries after one was brought into use. -/
theorem libraryState_withUsedLibrary (made : m.index < s.projects.items.length) (l : ProjectId) :
    (m.withUsedLibrary l s).libraryState m =
      { s.libraryState m with used := (s.libraryState m).used ++ [l] } := by
  have scope : (m.withUsedLibrary l s).project m =
      { s.project m with usedLibraries := (s.project m).usedLibraries ++ [l] } := by
    simp only [ProjectId.withUsedLibrary, project, Projects.get_modify, made, and_self, if_true]
  have loaded : (m.withUsedLibrary l s).Loaded m = s.Loaded m := loaded_modify fun _ => ⟨rfl, rfl⟩
  have imports : (m.withUsedLibrary l s).ImportsLibrary m = s.ImportsLibrary m :=
    importsLibrary_modify fun _ => rfl
  unfold libraryState
  rw [scope, loaded, imports]

/-- A library that is frozen is loaded. -/
theorem libraryState_withFrozen {l : ProjectId} {name : String}
    (made : l.index < s.projects.items.length) (main : (s.project l).main = some m)
    (package : (s.project l).package.map (·.name) = some name) :
    (l.withFrozen s).libraryState m =
      { s.libraryState m with
        loaded := fun n q => (s.libraryState m).loaded n q ∨ (n = name ∧ q = l) } := by
  have slots : ((l.withFrozen s).project m).librarySlots = (s.project m).librarySlots :=
    Projects.apply_modify (·.librarySlots) (fun _ => by rfl) s.projects l m
  have used : ((l.withFrozen s).project m).usedLibraries = (s.project m).usedLibraries :=
    Projects.apply_modify (·.usedLibraries) (fun _ => by rfl) s.projects l m
  have imports : (l.withFrozen s).ImportsLibrary m = s.ImportsLibrary m :=
    importsLibrary_modify fun _ => rfl
  have loaded : (l.withFrozen s).Loaded m = fun n q => s.Loaded m n q ∨ (n = name ∧ q = l) := by
    funext n q
    have project : (l.withFrozen s).project q =
        if q = l ∧ l.index < s.projects.items.length then { s.project q with frozen := true }
          else s.project q :=
      Projects.get_modify s.projects l q _
    rw [Loaded, project]
    by_cases hq : q = l
    · subst hq
      rw [if_pos ⟨rfl, made⟩]
      simp only [Loaded, main, package, Option.some.injEq, true_and, and_true, eq_iff_iff]
      exact ⟨fun h => .inr h.symm, fun h => h.elim (fun h => h.2) fun h => h.symm⟩
    · rw [if_neg (by simp [hq])]
      simp [Loaded, hq]
  unfold libraryState
  rw [slots, used, loaded, imports]

end Store

/-- A change of a project that leaves its imports of typekits as they are. -/
theorem OwnScope.modify {m : ProjectId} {s : Store} (h : OwnScope m s) (p : ProjectId)
    {f : Project → Project} (slots : ∀ q, (f q).typekitSlots = q.typekitSlots)
    (own : ∀ q, (f q).ownTypekitSlot = q.ownTypekitSlot) :
    OwnScope m { s with projects := s.projects.modify p f } where
  made := by
    rw [Projects.length_modify]
    exact h.made
  isMain := (Projects.apply_modify (·.main) (fun _ => by rfl) s.projects p m).trans h.isMain
  settled := Declares.settled_modify h.settled p slots own

namespace SoundScope

variable {m : ProjectId} {stack : List String} {name : String} {s : Store}

/-- A load begins in a sound scope and puts its library on top of those under way. -/
theorem begin (h : SoundScope m stack s) (hslot : (s.libraryState m).slot name = .unresolved) :
    SoundScope m (name :: stack) (m.withLibrarySlot name .resolving s) where
  toOwnScope := h.toOwnScope.modify m (fun _ => rfl) fun _ => rfl
  sound := by
    rw [Store.libraryState_withLibrarySlot h.made]
    exact h.sound.begin hslot

/-- A load that fails leaves a sound scope without its library under way. -/
theorem abandon (h : SoundScope m (name :: stack) s) (hname : name ∉ stack) :
    SoundScope m stack (m.withLibrarySlot name .unresolved s) where
  toOwnScope := h.toOwnScope.modify m (fun _ => rfl) fun _ => rfl
  sound := by
    rw [Store.libraryState_withLibrarySlot h.made]
    exact h.sound.abandon hname

/-- A library that was described without a failure is frozen, and its import is complete. -/
theorem finish (h : SoundScope m (name :: stack) s) (hname : name ∉ stack) {l : ProjectId}
    (made : l.index < s.projects.items.length) (main : (s.project l).main = some m)
    (isOpen : (s.project l).frozen = false)
    (package : (s.project l).package.map (·.name) = some name)
    (imported : ∀ other, s.ImportsLibrary m name other →
        ∃ l', (s.libraryState m).slot other = .resolved l') :
    SoundScope m stack
      (m.withUsedLibrary l (m.withLibrarySlot name (.resolved l) (l.withFrozen s))) := by
  have frozen : OwnScope m (l.withFrozen s) := h.toOwnScope.modify l (fun _ => rfl) fun _ => rfl
  have resolved : OwnScope m (m.withLibrarySlot name (.resolved l) (l.withFrozen s)) :=
    frozen.modify m (fun _ => rfl) fun _ => rfl
  refine ⟨resolved.modify m (fun _ => rfl) fun _ => rfl, ?_⟩
  rw [Store.libraryState_withUsedLibrary resolved.made,
    Store.libraryState_withLibrarySlot frozen.made, Store.libraryState_withFrozen made main package]
  refine h.sound.finish hname (fun n loaded => ?_) imported
  have isFrozen : (s.project l).frozen = true := loaded.2.1
  rw [isOpen] at isFrozen
  cases isFrozen

end SoundScope

namespace Advances

variable {m : ProjectId} {name : String} {s t : Store}

/-- A change of the scope itself that keeps what is complete. -/
private theorem modify_scope {f : Project → Project} (packages : ∀ q, (f q).packages = q.packages)
    (resolved : ∀ n l, (s.libraryState m).slot n = .resolved l →
      (Store.libraryState { s with projects := s.projects.modify m f } m).slot n = .resolved l) :
    Advances m s { s with projects := s.projects.modify m f } where
  length := Nat.le_of_eq (Projects.length_modify ..).symm
  others q hq _ := by
    rw [Store.project, Projects.get_modify, if_neg fun h => hq h.1]
    rfl
  packages := Projects.apply_modify (·.packages) packages s.projects m m
  packageMaps := rfl
  files := rfl
  resolved := resolved

/-- A slot changes in an advance if it is not resolved. -/
theorem withLibrarySlot (made : m.index < s.projects.items.length) {slot : Slot ProjectId}
    (idle : ∀ l, (s.libraryState m).slot name ≠ .resolved l) :
    Advances m s (m.withLibrarySlot name slot s) := by
  refine modify_scope (fun _ => rfl) fun n l hn => ?_
  change ((m.withLibrarySlot name slot s).libraryState m).slot n = _
  rw [Store.libraryState_withLibrarySlot made]
  change Function.update (s.libraryState m).slot name slot n = _
  rw [Function.update_of_ne]
  · exact hn
  · rintro rfl
    exact idle l hn

/-- A library is brought into use in an advance. -/
theorem withUsedLibrary (made : m.index < s.projects.items.length) (l : ProjectId) :
    Advances m s (m.withUsedLibrary l s) := by
  refine modify_scope (fun _ => rfl) fun n l' hn => ?_
  change ((m.withUsedLibrary l s).libraryState m).slot n = _
  rw [Store.libraryState_withUsedLibrary made]
  exact hn

/-- Declarations end in a library that was made on the way. -/
theorem withFrozen (h : Advances m s t) {l : ProjectId} (new : s.projects.items.length ≤ l.index) :
    Advances m s (l.withFrozen t) where
  length := Nat.le_trans h.length (Nat.le_of_eq (Projects.length_modify ..).symm)
  others q hq hlt := by
    have other : q ≠ l := by
      rintro rfl
      exact absurd hlt (Nat.not_lt.2 new)
    rw [Store.project, ProjectId.withFrozen, Projects.get_modify, if_neg fun h => other h.1]
    exact h.others q hq hlt
  packages := (Projects.apply_modify (·.packages) (fun _ => by rfl) t.projects l m).trans h.packages
  packageMaps := h.packageMaps
  files := h.files
  resolved n l' hn := by
    have slots : ((l.withFrozen t).project m).librarySlots = (t.project m).librarySlots :=
      Projects.apply_modify (·.librarySlots) (fun _ => by rfl) t.projects l m
    change Project.slotOf ((l.withFrozen t).project m).librarySlots n = _
    rw [slots]
    exact h.resolved n l' hn

end Advances

/-- A project after one more was made. -/
theorem Projects.get_push (ps : Projects) (p : Project)
    (h : ∀ m, p.main = some m → m.index < ps.items.length) (q : ProjectId) :
    (ps.push p h).get q = if q = ps.next then p else ps.get q := by
  rw [get, push, getD_append_singleton, get, next]
  cases q
  simp only [ProjectId.mk.injEq]

/-- The state with one more library of a scope. -/
def ProjectId.withLibrary (m : ProjectId) (name : String) (baseDir : Files.Path)
    (packages : PackageMapId) (package : Option Package) (s : Store)
    (h : m.index < s.projects.items.length) : Store :=
  { s with
    registries := s.registries ++ [.empty]
    projects := s.projects.push
      { name, baseDir, packages, main := some m, package, registry := ⟨s.registries.length⟩ }
      (by simpa using h) }

/-- A library is made for a scope. -/
theorem Work.ends_newLibrary {m : ProjectId} {s : Store} (h : m.index < s.projects.items.length)
    (name : String) (baseDir : Files.Path) (packages : PackageMapId) (package : Option Package)
    {P : ProjectId → Store → Prop} {F : Fault → Store → Prop}
    (hP : P s.projects.next (m.withLibrary name baseDir packages package s h)) :
    Ends (Work.newProject name baseDir packages (some m) package) s P F := by
  have known : ∀ m', some m = some m' → m'.index < s.projects.items.length := by
    rintro m' ⟨⟩
    exact h
  unfold Work.newProject
  simp only [Option.isSome_some, if_true, ends_bind, Work.ends_newRegistry, ends_pure, ends_get,
    dif_pos known, ends_set]
  exact hP

/-- No library is made for a project that was not made. -/
theorem Work.ends_newLibrary_unmade {m : ProjectId} {s : Store}
    (h : ¬m.index < s.projects.items.length) (name : String) (baseDir : Files.Path)
    (packages : PackageMapId) (package : Option Package) {P : ProjectId → Store → Prop}
    {F : Fault → Store → Prop}
    (hF : F (.notLibrary name) { s with registries := s.registries ++ [.empty] }) :
    Ends (Work.newProject name baseDir packages (some m) package) s P F := by
  have unknown : ¬∀ m', some m = some m' → m'.index < s.projects.items.length :=
    fun known => h (known m rfl)
  unfold Work.newProject
  simp only [Option.isSome_some, if_true, ends_bind, Work.ends_newRegistry, ends_pure, ends_get,
    dif_neg unknown, ends_throw]
  exact hF

/-- The state with one more project of its own. -/
def Store.withMain (s : Store) (name : String) (baseDir : Files.Path) (packages : PackageMapId)
    (package : Option Package) : Store :=
  { s with
    registries := s.registries ++ [.standard]
    typekits := s.typekits ++ [.newVirtual frameworkTypekit ⟨s.registries.length⟩ .standard]
    projects := s.projects.push
      { name, baseDir, packages, package, registry := ⟨s.registries.length⟩,
        usedTypekits := [⟨s.typekits.length⟩] }
      (by simp) }

/-- A project after a project of its own was made. -/
theorem Store.project_withMain (s : Store) (name : String) (baseDir : Files.Path)
    (packages : PackageMapId) (package : Option Package) (q : ProjectId) :
    (s.withMain name baseDir packages package).project q =
      if q = s.projects.next then
        { name, baseDir, packages, package, registry := ⟨s.registries.length⟩,
          usedTypekits := [⟨s.typekits.length⟩] }
      else s.project q :=
  Projects.get_push s.projects _ (by simp) q

/-- A project of its own starts with the standard types. -/
theorem Store.registryOf_withMain (s : Store) (name : String) (baseDir : Files.Path)
    (packages : PackageMapId) (package : Option Package) :
    (s.withMain name baseDir packages package).registryOf s.projects.next = .standard := by
  have project :=
    (s.project_withMain name baseDir packages package s.projects.next).trans (if_pos rfl)
  have scope : (s.withMain name baseDir packages package).projects.scope s.projects.next =
      s.projects.next :=
    Store.scope_of_own (by rw [project])
  rw [registryOf, Store.scope, scope, project, Store.registry_of_append (s := s) rfl, if_pos rfl]

/-- A project of its own is made. -/
theorem Work.ends_newMain (s : Store) (name : String) (baseDir : Files.Path)
    (packages : PackageMapId) (package : Option Package) {P : ProjectId → Store → Prop}
    {F : Fault → Store → Prop} (hP : P s.projects.next (s.withMain name baseDir packages package)) :
    Ends (Work.newProject name baseDir packages none package) s P F := by
  have known : ∀ m : ProjectId, none = some m → m.index < s.projects.items.length := by simp
  unfold Work.newProject
  simp only [Option.isSome_none, Bool.false_eq_true, if_false, ends_bind, Work.ends_newRegistry,
    Work.ends_newTypekit, ends_pure, ends_get, dif_pos known, ends_set]
  exact hP

section NewLibrary

variable {m : ProjectId} {name : String} {baseDir : Files.Path} {packages : PackageMapId}
  {package : Option Package} {s : Store}

/-- A project after a library was made for a scope. -/
theorem Store.project_withLibrary (h : m.index < s.projects.items.length) (q : ProjectId) :
    (m.withLibrary name baseDir packages package s h).project q =
      if q = s.projects.next then
        { name, baseDir, packages, main := some m, package, registry := ⟨s.registries.length⟩ }
      else s.project q :=
  Projects.get_push s.projects _ (by simpa using h) q

/-- A project that was made before is not the next one. -/
theorem Projects.ne_next {ps : Projects} {q : ProjectId} (hq : q.index < ps.items.length) :
    q ≠ ps.next := by
  rintro rfl
  exact absurd hq (Nat.lt_irrefl _)

/-- A library that was just made is not loaded. -/
theorem Store.libraryState_withLibrary (h : m.index < s.projects.items.length) :
    (m.withLibrary name baseDir packages package s h).libraryState m = s.libraryState m := by
  have scope : (m.withLibrary name baseDir packages package s h).project m = s.project m := by
    rw [Store.project_withLibrary, if_neg (Projects.ne_next h)]
  have loaded : (m.withLibrary name baseDir packages package s h).Loaded m = s.Loaded m := by
    funext n l
    rw [Loaded, Store.project_withLibrary]
    by_cases hl : l = s.projects.next
    · subst hl
      have absent : s.project s.projects.next = default := by
        simp [project, Projects.get, Projects.next]
      simp [Loaded, absent]
    · rw [if_neg hl, Loaded]
  have imports :
      (m.withLibrary name baseDir packages package s h).ImportsLibrary m = s.ImportsLibrary m := by
    unfold ImportsLibrary Describes
    rw [scope]
    rfl
  unfold libraryState
  rw [scope, loaded, imports]

/-- A library is made in a sound scope. -/
theorem SoundScope.withLibrary {stack : List String} (h : SoundScope m stack s) :
    SoundScope m stack (m.withLibrary name baseDir packages package s h.made) := by
  refine ⟨⟨Nat.lt_of_lt_of_le h.made (by simp [ProjectId.withLibrary, Projects.push]), ?_,
    fun q n => ?_, fun q => ?_⟩, ?_⟩
  · rw [Store.project_withLibrary, if_neg (Projects.ne_next h.made)]
    exact h.isMain
  · rw [Store.project_withLibrary]
    split
    · simp [Project.slotOf]
    · exact h.settled.1 q n
  · rw [Store.project_withLibrary]
    split
    · simp
    · exact h.settled.2 q
  · rw [Store.libraryState_withLibrary]
    exact h.sound

/-- A library is made in an advance. -/
theorem Advances.withLibrary (h : m.index < s.projects.items.length) :
    Advances m s (m.withLibrary name baseDir packages package s h) where
  length := by
    change _ ≤ (s.projects.items ++ [_]).length
    rw [List.length_append]
    exact Nat.le_add_right ..
  others q hq hlt := by rw [Store.project_withLibrary, if_neg (Projects.ne_next hlt)]
  packages := by rw [Store.project_withLibrary, if_neg (Projects.ne_next h)]
  packageMaps := rfl
  files := rfl
  resolved n l hn := by
    rw [Store.libraryState_withLibrary]
    exact hn

end NewLibrary

/-- Where there is no project, no import is under way. -/
theorem settled_of_empty {s : Store} (h : s.projects = .empty) : declaring.holds s := by
  have project (q : ProjectId) : s.project q = default := by
    rw [Store.project, h]
    rfl
  refine ⟨fun q n => ?_, fun q => ?_⟩
  · rw [project]
    change Slot.unresolved ≠ .resolving
    simp
  · rw [project]
    change Slot.unresolved ≠ .resolving
    simp

end Componentry
