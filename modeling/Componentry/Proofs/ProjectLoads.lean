import Componentry.Proofs.DefinitionPermanence
import Componentry.Proofs.Keeping
import Componentry.Proofs.LibraryImports

/-!
# What loads of projects uphold

A project that is loaded imports typekits and libraries and then declares what its description says.
An invariant that these parts keep is kept by the whole, however libraries import each other. The
induction is on the number of names that may still be loaded, as in the definitions.
-/

namespace Componentry

open Declares

/-- What an invariant has to satisfy if imports of libraries are to keep it. What else is known of a
project that the parts of a load work on, and of the one that answers for it, is never lost. -/
structure Importable (I : Store → Prop) (R : Fault → Prop)
    (placed answers : ProjectId → Store → Prop) : Prop where
  settled : ∀ s, I s → declaring.holds s
  placed_persists : ∀ (p : ProjectId) (s t : Store), Evolves s t → placed p s → placed p t
  answers_persists : ∀ (m : ProjectId) (s t : Store), Evolves s t → answers m s → answers m t
  scope : ∀ (p : ProjectId) (s : Store), placed p s → answers (s.projects.scope p) s
  log : ∀ (s : Store) lines, I s → I { s with log := lines }
  library : ∀ s m name baseDir packages package, I s → answers m s →
    Ends (Work.newProject name baseDir packages (some m) package) s (fun p t => I t ∧ placed p t)
      fun fault t => R fault → I t
  typekit : ∀ s (p : ProjectId) name, I s → placed p s →
    Ends (do discard (p.usingTypekit (← p.importTypekit name))) s (fun _ t => I t)
      fun fault t => R fault → I t
  component : ∀ s (p : ProjectId) d, I s → placed p s →
    Ends (p.replayComponent d) s (fun _ t => I t) fun fault t => R fault → I t
  slot : ∀ (s : Store) (m : ProjectId) name slot, I s →
    (∀ l, slot = .resolved l → (s.project l).main = some m) → I (m.withLibrarySlot name slot s)
  used : ∀ (s : Store) (m l : ProjectId), I s →
    (s.project l).main = some m ∨
    (∃ name, Project.slotOf (s.project m).librarySlots name = .resolved l) →
    I (m.withUsedLibrary l s)
  freeze : ∀ p : ProjectId, Keeps I R p.freeze fun _ _ => True

/-- A library stays a library of the project that it was made for. -/
theorem Evolves.main_of_main {s t : Store} (steps : Evolves s t) {m l : ProjectId}
    (h : (s.project l).main = some m) :
    (t.project l).main = some m := by
  have imported : (s.project l).isImported = true := by
    rw [Project.isImported, h]
    rfl
  exact (steps.grows.2.2 l (Store.made_of_isImported imported)).main.trans h

/-- A project is made for the one that it is given. -/
theorem Work.ends_newProject_main (m : ProjectId) (name : String) (baseDir : Files.Path)
    (packages : PackageMapId) (package : Option Package) (s : Store) :
    Ends (Work.newProject name baseDir packages (some m) package) s
      (fun l t => (t.project l).main = some m) fun _ _ => True := by
  by_cases made : m.index < s.projects.items.length
  · refine Work.ends_newLibrary made name baseDir packages package ?_
    rw [Store.project_withLibrary made, if_pos rfl]
  · exact Work.ends_newLibrary_unmade made name baseDir packages package trivial

namespace Importable

variable {I : Store → Prop} {R : Fault → Prop} {placed answers : ProjectId → Store → Prop}
  (h : Importable I R placed answers)

include h

/-- What is known of a project besides the invariant is known after every operation. -/
theorem keeps {α : Type} {p : ProjectId} {K : ProjectId → Store → Prop}
    (persists : ∀ s t, Evolves s t → K p s → K p t) {x : Work α} (evolves : evolving.Covers x)
    (hx : ∀ s, I s → placed p s → Ends x s (fun _ t => I t) fun fault t => R fault → I t) :
    Keeps (fun s => I s ∧ placed p s ∧ K p s) R x fun _ _ => True := by
  rintro s ⟨hs, hp, hk⟩
  refine ((evolves s (h.settled s hs)).and (hx s hs hp)).mono ?_ ?_
  · rintro a t ⟨⟨-, steps⟩, ht⟩
    exact ⟨⟨ht, h.placed_persists p s t steps hp, persists s t steps hk⟩, trivial⟩
  · rintro fault t ⟨⟨-, steps, -⟩, ht⟩ recovered
    exact ⟨ht recovered, h.placed_persists p s t steps hp, persists s t steps hk⟩

/-- A description is replayed in the project that was made for it. What is known of the project
stays so. -/
theorem ends_loadWithin {available : List String} {K : ProjectId → Store → Prop}
    (persists : ∀ p s t, Evolves s t → K p s → K p t)
    (libraries : ∀ p name s, I s → placed p s →
      Ends (p.usingLibraryWithin available name) s (fun _ t => I t) fun fault t => R fault → I t)
    (d : Description.Project) {origin : Origin} (label : String) {s : Store}
    (made : Ends (Work.newProject d.name origin.baseDir origin.packages origin.main origin.package)
      s (fun p t => I t ∧ placed p t ∧ K p t) fun fault t => R fault → I t)
    (typekit : origin.main = none → ∀ p t s, I s → placed p s →
        Ends (p.replayTypekit t origin.baseDir) s (fun _ t => I t) fun fault t => R fault → I t) :
    Ends (Work.loadWithin available d origin label) s (fun p t => I t ∧ placed p t ∧ K p t)
      fun fault t => R fault → I t := by
  unfold Work.loadWithin
  refine ends_bind.2 (made.mono ?_ fun _ _ h => h)
  rintro p t ht
  have inside {x : Work ProjectId} (hx : Keeps (fun s => I s ∧ placed p s ∧ K p s) R x
      fun q _ => q = p) :
      Ends x t (fun p t => I t ∧ placed p t ∧ K p t) fun fault t => R fault → I t :=
    (hx t ht).mono (fun q u ⟨hu, same⟩ => same ▸ hu) fun _ _ recovered hR => (recovered hR).1
  have components : Keeps (fun s => I s ∧ placed p s ∧ K p s) R
      (d.components.forM p.replayComponent >>= fun _ => pure p) fun q _ => q = p := by
    refine (keeps_forM fun c _ => ?_).bind fun _ => keeps_pure fun _ _ => rfl
    exact h.keeps (persists p) (Work.evolving_of_declaring (p.declaring_replayComponent c))
      fun s => h.component s p c
  refine inside (Keeps.bind
    (h.keeps (persists p) (Work.evolving_of_offline (Work.offline_log _ _ _)) ?_) fun _ => ?_)
  · exact fun s hs _ => h.log s _ hs
  refine (keeps_forM fun name _ => ?_).bind fun _ => (keeps_forM fun name _ => ?_).bind fun _ => ?_
  · refine h.keeps (persists p) (Work.evolving_of_declaring ?_) fun s => h.typekit s p name
    refine Work.declaring_of_typing
      (Work.typing_of_importing ((p.importing_importTypekit name).bind fun id => ?_))
    exact (Work.importing_of_offline (p.offline_usingTypekit id)).map
  · have imports := LibraryImport.evolving_usingLibraryWithin available p name
    exact (h.keeps (persists p) imports (libraries p name)).map fun _ _ _ => trivial
  · cases d.typekit with
    | none => exact components
    | some typekit' =>
      refine Keeps.ite (fun own => ?_) fun _ => components
      have replayed :=
        h.keeps (persists p) (Work.evolving_of_declaring (p.declaring_replayTypekit typekit' _))
        (typekit (Option.isNone_iff_eq_none.1 own) p typekit')
      exact replayed.bind fun _ => components

/-- A library is loaded, given that others may be imported meanwhile. -/
theorem ends_loadLibraryWithin {available : List String}
    (libraries : ∀ name ∈ available, ∀ p other s, I s → placed p s → Ends (p.usingLibraryWithin
      (available.erase name) other) s (fun _ t => I t) fun fault t => R fault → I t)
    {m : ProjectId} {s : Store} (hs : I s) (hm : answers m s) (name : String) :
    Ends (m.loadLibraryWithin available name) s (fun l t => I t ∧ (t.project l).main = some m)
      fun fault t => R fault → I t := by
  have unchanged {t : Store} {fault : Fault} (same : t = s ∧ fault.isCycle = false) (_ : R fault) :
    I t := same.1 ▸ hs
  unfold ProjectId.loadLibraryWithin
  refine ends_bind.2 (ends_get.2 (ends_bind.2 ?_))
  refine (Work.ends_onFiles_of_reading (PackageMap.covers_find _ name) s).mono ?_
    fun _ _ => unchanged
  rintro package t ⟨rfl, -⟩
  refine ends_bind.2 ((Work.ends_onFiles_of_reading (Files.Change.covers_isFile _) t).mono ?_
    fun _ _ => unchanged)
  rintro present u ⟨rfl, -⟩
  refine ends_ite.2 ⟨fun _ _ => hs, fun _ => ends_bind.2 ?_⟩
  let v : Store := { u with log := u.log ++ [⟨.info, ProjectId.logName,
    s!"loading component library {name} from {package.path.toText}"⟩] }
  have hv : I v := h.log u _ hs
  have hmv : answers m v := h.answers_persists m u v (.single (.declared (.log _))) hm
  change Ends (if _h : name ∈ available then _ else _) v _ _
  split
  · rename_i mayLoad
    refine ends_bind.2 ((Work.ends_readProjectFile package.projectFile v).mono ?_
      fun _ t ⟨same, _⟩ _ => same ▸ hv)
    rintro text w ⟨rfl, -⟩
    refine ends_bind.2 (Work.ends_ofExcept.2 ⟨fun d _ => ends_bind.2 ?_, fun _ _ _ => hv⟩)
    refine (h.ends_loadWithin (K := fun l t => (t.project l).main = some m)
      (fun _ _ _ steps => steps.main_of_main)
      (libraries name mayLoad) d _ ?_ (fun none => by cases none)).mono ?_ fun _ _ h => h
    · exact ((h.library v m _ _ _ _ hv hmv).and (Work.ends_newProject_main m _ _ _ _ v)).mono
        (fun _ _ ⟨⟨ht, placed⟩, mine⟩ => ⟨ht, placed, mine⟩) fun _ _ h => h.1
    · rintro library x ⟨hx, -, mine⟩
      have frozen := (library.evolving_freeze x (h.settled x hx)).and (h.freeze library x hx)
      refine ends_bind.2 (frozen.mono ?_ fun _ _ h => h.2)
      exact fun _ _ ⟨⟨_, steps⟩, ht, _⟩ => ⟨ht, steps.main_of_main mine⟩
  · exact fun _ => hv

/-- A library is imported, given that it can be loaded. -/
theorem ends_usingLibraryWithin_of_load {available : List String}
    (load : ∀ m name s, I s → answers m s →
      Ends (m.loadLibraryWithin available name) s (fun l t => I t ∧ (t.project l).main = some m)
        fun fault t => R fault → I t)
    {p : ProjectId} {s : Store} (hs : I s) (hp : placed p s) (name : String) :
    Ends (p.usingLibraryWithin available name) s (fun _ t => I t) fun fault t => R fault → I t := by
  unfold ProjectId.usingLibraryWithin
  refine ends_bind.2 ?_
  change Ends (Work.resolveSlot (s.projects.scope p) _ _ name _ >>= _) s _ _
  have hm : answers (s.projects.scope p) s := h.scope p s hp
  generalize s.projects.scope p = m at hm
  have use {l : ProjectId} {t : Store} (ht : I t) (known : (t.project l).main = some m ∨
      ∃ name, Project.slotOf (t.project m).librarySlots name = .resolved l) : Ends (do
        if l ∉ ((← get).project m).usedLibraries then
          Work.modifyProject m fun q => { q with usedLibraries := q.usedLibraries ++ [l] }
        return l) t (fun _ u => I u) fun fault u => R fault → I u :=
    ends_bind.2 (ends_get.2 (ends_ite.2 ⟨fun _ => h.used t m l ht known, fun _ => ht⟩))
  refine ends_bind.2 ?_
  cases slot : Project.slotOf (s.project m).librarySlots name with
  | resolved l => exact Slot.ends_resolve_of_resolved slot (use hs (.inr ⟨name, slot⟩))
  | resolving => exact Slot.ends_resolve_of_resolving slot fun _ => hs
  | unresolved =>
    have begun : I (m.withLibrarySlot name .resolving s) := h.slot s m name _ hs nofun
    have hm' := h.answers_persists m s _ (.single (.importLibrary m name .resolving)) hm
    refine Slot.ends_resolve_of_unresolved slot ((load m name _ begun hm').mono ?_ ?_)
    · rintro l t ⟨ht, mine⟩
      have noted : I (m.withLibrarySlot name (.resolved l) t) :=
          h.slot t m name _ ht fun _ same => by
        cases same
        exact mine
      have steps : Evolves t (m.withLibrarySlot name (.resolved l) t) :=
        .single (.importLibrary m name (.resolved l))
      exact use noted (.inl (steps.main_of_main mine))
    · exact fun fault t ht recovered => h.slot t m name _ (ht recovered) nofun

/-- Libraries are imported from any packages. -/
theorem ends_usingLibraryWithin (available : List String) {p : ProjectId} {s : Store} (hs : I s)
    (hp : placed p s) (name : String) :
    Ends (p.usingLibraryWithin available name) s (fun _ t => I t) fun fault t => R fault → I t := by
  induction hn : available.length using Nat.strongRecOn generalizing available p name s with
  | ind n ih =>
    refine h.ends_usingLibraryWithin_of_load (fun m name s hs hm => ?_) hs hp name
    refine h.ends_loadLibraryWithin
      (fun name hname p other s hs hp => ih _ ?_ _ hs hp other rfl) hs hm name
    have := List.length_erase_of_mem hname
    have := List.length_pos_of_mem hname
    omega

/-- An invariant is kept when a library is used. -/
theorem ends_usingLibrary {p : ProjectId} {s : Store} (hs : I s) (hp : placed p s) (name : String) :
    Ends (p.usingLibrary name) s (fun _ t => I t) fun fault t => R fault → I t :=
  ends_bind.2 (ends_get.2 (h.ends_usingLibraryWithin _ hs hp name))

end Importable

end Componentry
