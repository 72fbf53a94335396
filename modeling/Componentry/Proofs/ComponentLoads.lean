import Componentry.Proofs.Upholding

/-!
# Components while projects are loaded

Loads of projects change components only where a component of a description is replayed, and of all
calls only loads and declarations change components. So a property of the components that replays
and declarations keep is kept by all calls.
-/

namespace Componentry

open Declares

namespace Work

/-- An operation that leaves the components as they are keeps what holds of them. -/
theorem keeps_of_evolving {α : Type} {R : Fault → Prop} {x : Work α} (evolves : evolving.Covers x)
    (same : ∀ s, Ends x s (fun _ t => t.components = s.components)
      fun _ t => t.components = s.components)
    (P : Components → Prop) : Keeps (Store.SettledWith P) R x fun _ _ => True := by
  rintro s ⟨settled, hP⟩
  refine ((evolves s settled).and (same s)).mono ?_ ?_
  · exact fun _ t ⟨⟨ht, _⟩, h⟩ => ⟨⟨ht, h ▸ hP⟩, trivial⟩
  · exact fun _ t ⟨⟨ht, _⟩, h⟩ _ => ⟨ht, h ▸ hP⟩

/-- A project is made without components. -/
theorem keeps_newProject {R : Fault → Prop} (P : Components → Prop) (name : String)
    (baseDir : Files.Path) (packages : PackageMapId) (main : Option ProjectId)
    (package : Option Package) :
    Keeps (Store.SettledWith P) R (newProject name baseDir packages main package)
      fun _ _ => True := by
  refine keeps_of_evolving (evolving_newProject name baseDir packages main package) (fun s => ?_) P
  have pushed (made : Project) (t : Store) (same : t.components = s.components) : Ends (do
      let s ← get
      let id := s.projects.next
      if h : ∀ m, made.main = some m → m.index < s.projects.items.length then
        set { s with projects := s.projects.push made h }
        return id
      else throw (.notLibrary name) : Work ProjectId) t (fun _ t => t.components = s.components)
        fun _ t => t.components = s.components := by
    refine ends_bind.2 ?_
    simp only [ends_get]
    split <;> exact same
  refine ends_bind.2 (ends_newRegistry.2 (ends_ite.2 ⟨fun _ => ?_, fun _ => ?_⟩))
  · exact pushed _ _ rfl
  · exact ends_bind.2 (ends_newTypekit.2 (pushed _ _ rfl))

end Work

/-- Freezing a project changes no component. -/
theorem ProjectId.keeps_freeze {R : Fault → Prop} (P : Components → Prop) (p : ProjectId) :
    Keeps (Store.SettledWith P) R p.freeze fun _ _ => True := by
  refine Work.keeps_of_evolving p.evolving_freeze (fun s => ?_) P
  exact p.ends_freeze_of (fun _ => rfl) fun _ _ _ => rfl

/-- A component is looked up without a change, so what held before it holds after it. -/
theorem ProjectId.keeps_findComponent {I : Store → Prop} {R : Fault → Prop} (p : ProjectId)
    (name : String) : Keeps I R (p.findComponent name) fun _ _ => True := by
  refine fun s hs => (p.ends_findComponent name s).mono ?_ ?_
  · rintro _ _ rfl
    exact ⟨hs, trivial⟩
  · rintro _ _ ⟨rfl, -⟩ -
    exact hs

section Replays

variable {P : Components → Prop}
  (replays : ∀ (p : ProjectId) d, Keeps (Store.SettledWith P) (fun _ => True) (p.replayComponent d)
    fun _ _ => True)

include replays

/-- A property of the components is kept by loads if replays of components keep it. -/
theorem importable_of_replays :
    Importable (Store.SettledWith P) (fun _ => True) (fun _ _ => True) fun _ _ => True where
  settled _ hs := hs.1
  placed_persists _ _ _ _ h := h
  answers_persists _ _ _ _ h := h
  scope _ _ h := h
  log _ _ hs := hs
  library s m name baseDir packages package hs _ :=
    Work.keeps_newProject P name baseDir packages (some m) package s hs
  typekit s p name hs _ := by
    have typing : typing.Covers (do discard (p.usingTypekit (← p.importTypekit name))) :=
      Declaration.typing_run (d := .usingTypekitNamed p name) rfl
    exact (Work.keeps_of_typing typing P s hs).mono (fun _ _ h => h.1) fun _ _ h => h
  component s p d hs _ := (replays p d s hs).mono (fun _ _ h => h.1) fun _ _ h => h
  slot _ m _ _ hs _ := ⟨Declares.settled_modify hs.1 m (fun _ => rfl) fun _ => rfl, hs.2⟩
  used _ m _ hs _ := ⟨Declares.settled_modify hs.1 m (fun _ => rfl) fun _ => rfl, hs.2⟩
  freeze p := p.keeps_freeze P

/-- A property of the components is kept by a call if it is kept by replays of components and, if
the call is a declaration, by that. -/
theorem Call.keeps_of_replays {call : Call} (declares : ∀ d, call = .declare d →
    Keeps (Store.SettledWith P) (fun _ => True) d.run fun _ _ => True) :
    Keeps (Store.SettledWith P) (fun _ => True) call.run fun _ _ => True :=
  (importable_of_replays replays).keeps_call (fun _ _ _ _ => Work.keeps_newProject P _ _ _ _ _)
    (fun p t _ => Work.keeps_of_typing (p.typing_replayTypekit t _) P) declares

end Replays

end Componentry
