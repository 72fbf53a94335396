import Componentry.Proofs.ScopeLookups
import Componentry.Proofs.Upholding

/-!
# Libraries of scopes

A run may make several projects, load them from files and import libraries into any of them.
Whatever it does, the libraries that a project uses are its own: an import hands over a library that
was loaded for the project, now or when the name was imported first. So every project that is not
imported is the main project of a scope.
-/

namespace Componentry

open Declares

/-- Whether the libraries that each project has imported, and those that it uses, were made for
it. -/
def Store.OwnLibraries (s : Store) : Prop :=
  ∀ m l, (∃ name, Project.slotOf (s.project m).librarySlots name = .resolved l) ∨
    l ∈ (s.project m).usedLibraries → (s.project l).main = some m

namespace Store.OwnLibraries

variable {s t : Store}

/-- Along steps that bring in no libraries but those that were made for the project. -/
theorem of_evolves (h : s.OwnLibraries) (steps : Evolves s t)
    (slots : ∀ m name l, Project.slotOf (t.project m).librarySlots name = .resolved l →
      Project.slotOf (s.project m).librarySlots name = .resolved l ∨ (s.project l).main = some m)
    (used : ∀ m, ∀ l ∈ (t.project m).usedLibraries, l ∈ (s.project m).usedLibraries ∨
        (s.project l).main = some m) :
    t.OwnLibraries := by
  intro m l brought
  apply steps.main_of_main
  rcases brought with ⟨name, slot⟩ | mem
  · rcases slots m name l slot with old | own
    · exact h m l (.inl ⟨name, old⟩)
    · exact own
  · rcases used m l mem with old | own
    · exact h m l (.inr old)
    · exact own

/-- Declarations import no libraries. -/
theorem of_frame (h : s.OwnLibraries) (steps : Evolves s t) (frame : Frame s t) :
    t.OwnLibraries := by
  apply h.of_evolves steps
  · intro m name l slot
    rw [Project.congr_outline (frame.outline m) (·.librarySlots) fun _ => rfl] at slot
    exact .inl slot
  · intro m l mem
    rw [Project.congr_outline (frame.outline m) (·.usedLibraries) fun _ => rfl] at mem
    exact .inl mem

/-- A project is changed, but not in its imports of libraries. -/
theorem modify (h : s.OwnLibraries) (steps : Evolves s t) (p : ProjectId) {f : Project → Project}
    (projects : t.projects = s.projects.modify p f)
    (slots : ∀ q, (f q).librarySlots = q.librarySlots)
    (used : ∀ q, (f q).usedLibraries = q.usedLibraries) : t.OwnLibraries := by
  apply h.of_evolves steps
  · intro m name l slot
    rw [Store.project, projects, Projects.apply_modify (·.librarySlots) slots] at slot
    exact .inl slot
  · intro m l mem
    rw [Store.project, projects, Projects.apply_modify (·.usedLibraries) used] at mem
    exact .inl mem

/-- A project is made, which has imported nothing. -/
theorem push (h : s.OwnLibraries) (steps : Evolves s t) {made : Project}
    (project : ∀ q, t.project q = if q = s.projects.next then made else s.project q)
    (slots : made.librarySlots = []) (used : made.usedLibraries = []) : t.OwnLibraries := by
  apply h.of_evolves steps
  · intro m name l slot
    rw [project] at slot
    split at slot
    · rw [slots] at slot
      cases slot
    · exact .inl slot
  · intro m l mem
    rw [project] at mem
    split at mem
    · rw [used] at mem
      cases mem
    · exact .inl mem

/-- A library is noted as imported by its name. -/
theorem withLibrarySlot (h : s.OwnLibraries) {m : ProjectId} {name : String} {slot : Slot ProjectId}
    (own : ∀ l, slot = .resolved l → (s.project l).main = some m) :
    (m.withLibrarySlot name slot s).OwnLibraries := by
  apply h.of_evolves (.single (.importLibrary m name slot))
  · intro q name' l noted
    simp only [ProjectId.withLibrarySlot, Store.project, Projects.get_modify] at noted
    split at noted
    · rename_i here
      rw [Project.slotOf_setSlot] at noted
      split at noted
      · exact .inr (here.1 ▸ own l noted)
      · exact .inl noted
    · exact .inl noted
  · intro q l mem
    change l ∈ ((s.projects.modify m _).get q).usedLibraries at mem
    rw [Projects.apply_modify (·.usedLibraries) fun _ => by rfl] at mem
    exact .inl mem

/-- A library comes into use. -/
theorem withUsedLibrary (h : s.OwnLibraries) {m l : ProjectId} (own : (s.project l).main = some m) :
    (m.withUsedLibrary l s).OwnLibraries := by
  apply h.of_evolves (.single (.useLibrary m l))
  · intro q name l' slot
    change Project.slotOf ((s.projects.modify m _).get q).librarySlots name = _ at slot
    rw [Projects.apply_modify (·.librarySlots) fun _ => by rfl] at slot
    exact .inl slot
  · intro q l' mem
    simp only [ProjectId.withUsedLibrary, Store.project, Projects.get_modify] at mem
    split at mem
    · rename_i here
      rcases List.mem_append.1 mem with old | new
      · exact .inl old
      · rw [List.mem_singleton.1 new, here.1]
        exact .inr own
    · exact .inl mem

end Store.OwnLibraries

/-- Whether no import of a typekit is under way, and the libraries of each project are its own. -/
def Store.SettledLibraries (s : Store) : Prop :=
  declaring.holds s ∧ s.OwnLibraries

namespace Store.SettledLibraries

variable {R : Fault → Prop}

/-- Declarations keep the libraries of all projects. -/
theorem keeps_of_declaring {α : Type} {x : Work α} (h : declaring.Covers x) :
    Keeps SettledLibraries R x fun _ _ => True := by
  rintro s ⟨settled, own⟩
  refine (h s settled).mono ?_ ?_
  · exact fun _ t ⟨ht, steps⟩ => ⟨⟨ht, own.of_frame steps.evolves steps.frame⟩, trivial⟩
  · exact fun _ t ⟨ht, steps, _⟩ _ => ⟨ht, own.of_frame steps.evolves steps.frame⟩

/-- A project is made while no library is under way. -/
theorem keeps_newProject (name : String) (baseDir : Files.Path) (packages : PackageMapId)
    (main : Option ProjectId) (package : Option Package) :
    Keeps SettledLibraries R (Work.newProject name baseDir packages main package)
      fun _ _ => True := by
  rintro s ⟨settled, own⟩
  suffices Ends (Work.newProject name baseDir packages main package) s
      (fun _ t => Evolves s t → t.OwnLibraries) fun _ t => Evolves s t → t.OwnLibraries by
    refine ((Work.evolving_newProject name baseDir packages main package s settled).and this).mono
      ?_ ?_
    · exact fun _ t ⟨⟨ht, steps⟩, h⟩ => ⟨⟨ht, h steps⟩, trivial⟩
    · exact fun _ t ⟨⟨ht, steps, _⟩, h⟩ _ => ⟨ht, h steps⟩
  cases main with
  | none =>
    refine Work.ends_newMain s name baseDir packages package fun steps => ?_
    exact own.push steps (s.project_withMain name baseDir packages package) rfl rfl
  | some m =>
    by_cases made : m.index < s.projects.items.length
    · refine Work.ends_newLibrary made name baseDir packages package fun steps => ?_
      exact own.push steps (Store.project_withLibrary made) rfl rfl
    · refine Work.ends_newLibrary_unmade made name baseDir packages package fun steps => ?_
      exact own.of_evolves steps (fun _ _ _ h => .inl h) fun _ _ h => .inl h

/-- Loads of libraries bring libraries into use that were made for the scope. -/
theorem importable : Importable SettledLibraries R (fun _ _ => True) fun _ _ => True where
  settled _ h := h.1
  placed_persists _ _ _ _ h := h
  answers_persists _ _ _ _ h := h
  scope _ _ h := h
  log _ _ h := h
  library s m name baseDir packages package h _ :=
    keeps_newProject name baseDir packages (some m) package s h
  typekit s p name h _ := by
    have declares : declaring.Covers (do discard (p.usingTypekit (← p.importTypekit name))) :=
      (Declaration.usingTypekitNamed p name).covers_run
    exact (keeps_of_declaring declares s h).mono (fun _ _ h => h.1) fun _ _ h => h
  component s p d h _ :=
    (keeps_of_declaring (p.declaring_replayComponent d) s h).mono (fun _ _ h => h.1) fun _ _ h => h
  slot s m name slot h own :=
    ⟨Declares.settled_modify h.1 m (fun _ => rfl) fun _ => rfl, h.2.withLibrarySlot own⟩
  used s m l h own := by
    refine ⟨Declares.settled_modify h.1 m (fun _ => rfl) fun _ => rfl, h.2.withUsedLibrary ?_⟩
    rcases own with own | imported
    · exact own
    · exact h.2 m l (.inl imported)
  freeze p s h := by
    have frozen : SettledLibraries (p.withFrozen s) :=
      ⟨Declares.settled_modify h.1 p (fun _ => rfl) fun _ => rfl,
        h.2.modify (.single (.freeze p)) p rfl (fun _ => rfl) fun _ => rfl⟩
    exact p.ends_freeze_of (fun _ => ⟨frozen, trivial⟩) fun id _ _ => ⟨frozen, trivial⟩

/-- The first project of a run has no libraries when it is made. -/
theorem withMain_of_empty (files : Files.Tree) (packageMaps : List PackageMap) (name : String)
    (baseDir : Files.Path) (packages : PackageMapId) :
    (Store.withMain { files, packageMaps } name baseDir packages none).SettledLibraries := by
  let start : Store := { files, packageMaps }
  have none : start.OwnLibraries := by
    rintro m l (⟨name, slot⟩ | mem)
    · cases slot
    · cases mem
  have project := start.project_withMain name baseDir packages Option.none
  exact ⟨Work.settled_push (settled_of_empty (s := start) rfl) project rfl rfl,
    none.push (.single (.newMain name baseDir packages Option.none)) project rfl rfl⟩

/-- Along every run the libraries of each project are its own. -/
theorem runAll {s : Store} (h : s.SettledLibraries) (calls : List Call) :
    (Call.runAll calls s).SettledLibraries := by
  induction calls using List.reverseRecOn with
  | nil => exact h
  | append_singleton calls call ih =>
    rw [Call.runAll_append]
    have kept : Keeps SettledLibraries (fun _ => True) call.run fun _ _ => True := by
      apply importable.keeps_call
      · exact fun _ _ _ _ => keeps_newProject _ _ _ none _
      · exact fun p t _ => keeps_of_declaring (p.declaring_replayTypekit t _)
      · exact fun d _ => keeps_of_declaring d.covers_run
    exact Work.after_of_ends ((kept _ ih).mono (fun _ _ h => h.1) fun _ _ h => h trivial)

/-- A project that was made and is not imported is the main project of a scope. -/
theorem libraryScope {s : Store} (h : s.SettledLibraries) {m : ProjectId}
    (made : m.index < s.projects.items.length) (isMain : (s.project m).isImported = false) :
    LibraryScope m s where
  made := made
  isMain := by simpa [Project.isImported] using isMain
  settled := h.1
  libraries l mem := h.2 m l (.inr mem)

end Store.SettledLibraries

end Componentry
