import Componentry.Proofs.Declarations
import Componentry.Proofs.LibraryScope

/-!
# What a run can do

Besides declarations, a run makes projects, freezes them, and imports libraries. `Evolved` lists
these steps with those of declarations, and every call on projects and their components takes only
such steps, whichever of them fails and wherever it does. Imports of libraries call each other; the
induction is on the number of names that may still be loaded, as in the definitions.
-/

namespace Componentry

open Declares

/-- One step of a run. -/
inductive Evolved (s : Store) : Store → Prop where
  | declared {t : Store} (h : Declared s t) : Evolved s t
  /-- A project that cannot be made leaves its registry behind. -/
  | newRegistry (r : Registry) : Evolved s { s with registries := s.registries ++ [r] }
  | newMain (name : String) (baseDir : Files.Path) (packages : PackageMapId)
      (package : Option Package) :
      Evolved s (s.withMain name baseDir packages package)
  | newLibrary (m : ProjectId) (name : String) (baseDir : Files.Path) (packages : PackageMapId)
      (package : Option Package) (h : m.index < s.projects.items.length) :
      Evolved s (m.withLibrary name baseDir packages package s h)
  | freeze (p : ProjectId) : Evolved s (p.withFrozen s)
  | completeTypekit (id : TypekitId) : Evolved s (id.withFrozen s)
  | importLibrary (m : ProjectId) (name : String) (slot : Slot ProjectId) :
    Evolved s (m.withLibrarySlot name slot s)
  | useLibrary (m l : ProjectId) : Evolved s (m.withUsedLibrary l s)

/-- Any number of steps of a run. -/
def Evolves : Store → Store → Prop :=
  Relation.ReflTransGen Evolved

/-- Declarations are steps. -/
theorem Declares.evolves {s t : Store} (h : Declares s t) : Evolves s t :=
  Relation.ReflTransGen.mono (fun _ _ h => Evolved.declared h) s t h

/-- What calls may do. -/
def evolving : Effect Fault Store where
  holds := declaring.holds
  change := Evolves
  fault _ := True
  refl _ := .refl
  trans := .trans

namespace Work

variable {α : Type} {x : Work α}

/-- What declares lets the state evolve. -/
theorem evolving_of_declaring (h : declaring.Covers x) : evolving.Covers x := by
  intro s hs
  refine (h s hs).mono ?_ ?_
  · exact fun a t ⟨ht, hst⟩ => ⟨ht, hst.evolves⟩
  · exact fun fault t ⟨ht, hst, _⟩ => ⟨ht, hst.evolves, trivial⟩

/-- What imports nothing lets the state evolve. -/
theorem evolving_of_offline (h : offline.Covers x) : evolving.Covers x :=
  evolving_of_declaring (declaring_of_typing (typing_of_offline h))

/-- A computation without a state lets it be. -/
theorem evolving_ofExcept (x : Except Fault α) : evolving.Covers (Work.ofExcept x) := by
  cases x with
  | ok a => exact Effect.covers_pure a
  | error fault => exact Effect.covers_throw trivial

/-- A step that leaves no import of a typekit under way. -/
theorem evolving_step {s t : Store} (h : Evolved s t) (settled : declaring.holds t) :
    evolving.holds t ∧ evolving.change s t :=
  ⟨settled, .single h⟩

/-- A project that has no imports under way is added. -/
theorem settled_push {s t : Store} (hs : declaring.holds s) {made : Project}
    (project : ∀ q, t.project q = if q = s.projects.next then made else s.project q)
    (slots : made.typekitSlots = []) (own : made.ownTypekitSlot = .unresolved) :
    declaring.holds t := by
  refine ⟨fun q name => ?_, fun q => ?_⟩
  · rw [project]
    split
    · rw [slots]
      simp [Project.slotOf]
    · exact hs.1 q name
  · rw [project]
    split
    · rw [own]
      simp
    · exact hs.2 q

/-- A project is made in a step. -/
theorem evolving_newProject (name : String) (baseDir : Files.Path) (packages : PackageMapId)
    (main : Option ProjectId) (package : Option Package) :
    evolving.Covers (Work.newProject name baseDir packages main package) := by
  intro s hs
  cases main with
  | none =>
    refine Work.ends_newMain s name baseDir packages package (evolving_step (.newMain ..) ?_)
    exact settled_push hs (s.project_withMain name baseDir packages package) rfl rfl
  | some m =>
    by_cases made : m.index < s.projects.items.length
    · refine Work.ends_newLibrary made name baseDir packages package
        (evolving_step (.newLibrary ..) ?_)
      exact settled_push hs (Store.project_withLibrary made) rfl rfl
    · exact Work.ends_newLibrary_unmade made name baseDir packages package
        ⟨hs, .single (.newRegistry _), trivial⟩

end Work

namespace ProjectId

/-- The end of declarations reaches the typekit that a project builds. -/
theorem evolving_freeze (p : ProjectId) : evolving.Covers p.freeze := by
  intro s hs
  have frozen : evolving.holds (p.withFrozen s) ∧ evolving.change s (p.withFrozen s) :=
    Work.evolving_step (.freeze p) (Declares.settled_modify hs p (fun _ => rfl) fun _ => rfl)
  exact ProjectId.ends_freeze_of (fun _ => frozen) fun id _ _ =>
    ⟨frozen.1, frozen.2.tail (.completeTypekit id)⟩

/-- The scope of a project is found without a step. -/
theorem evolving_scope (p : ProjectId) : evolving.Covers p.scope :=
  Work.evolving_of_offline p.offline_scope

end ProjectId

namespace LibraryImport

/-- A description is replayed in a project, given that libraries may be imported. -/
theorem evolving_loadWithin {available : List String}
    (h : ∀ (p : ProjectId) (name : String), evolving.Covers (p.usingLibraryWithin available name))
    (d : Description.Project) (origin : Origin) (label : String) :
    evolving.Covers (Work.loadWithin available d origin label) := by
  unfold Work.loadWithin
  refine (Work.evolving_newProject _ _ _ _ _).bind fun p => ?_
  refine (Work.evolving_of_offline (Work.offline_log _ _ _)).bind fun _ => ?_
  refine (Effect.covers_forM fun name _ => ?_).bind fun _ => ?_
  · refine Work.evolving_of_declaring (Work.declaring_of_typing (Work.typing_of_importing ?_))
    refine (p.importing_importTypekit name).bind fun id => ?_
    exact (Work.importing_of_offline (p.offline_usingTypekit id)).map
  · refine (Effect.covers_forM fun name _ => (h p name).map).bind fun _ => ?_
    have components : evolving.Covers (d.components.forM p.replayComponent >>= fun _ => pure p) :=
      (Effect.covers_forM
          fun c _ => Work.evolving_of_declaring (p.declaring_replayComponent c)).bind fun _ =>
        Effect.covers_pure p
    cases d.typekit with
    | none => exact components
    | some typekit =>
      refine Effect.Covers.ite (fun _ => ?_) fun _ => components
      exact (Work.evolving_of_declaring (p.declaring_replayTypekit typekit _)).bind
        fun _ => components

/-- A library is loaded, given that others may be imported meanwhile. -/
theorem evolving_loadLibraryWithin {available : List String}
    (h : ∀ name ∈ available, ∀ (p : ProjectId) (other : String),
      evolving.Covers (p.usingLibraryWithin (available.erase name) other))
    (m : ProjectId) (name : String) : evolving.Covers (m.loadLibraryWithin available name) := by
  unfold ProjectId.loadLibraryWithin
  refine Effect.covers_get.bind fun s => ?_
  refine (Work.evolving_of_offline (Work.offline_onFiles (PackageMap.covers_find _ name))).bind
    fun package => ?_
  refine (Work.evolving_of_offline (Work.offline_onFiles (Files.Change.covers_isFile _))).bind
    fun present => ?_
  refine Effect.Covers.ite (fun _ => (Effect.covers_throw trivial).bind fun _ => ?_) fun _ => ?_
  all_goals
    refine (Work.evolving_of_offline (Work.offline_log _ _ _)).bind fun _ => ?_
    split
    · rename_i mayLoad
      refine (Work.evolving_of_offline (Work.offline_readProjectFile _)).bind fun text => ?_
      refine (Work.evolving_ofExcept _).bind fun d => ?_
      refine (evolving_loadWithin (h name mayLoad) d _ _).bind fun library => ?_
      exact (ProjectId.evolving_freeze library).bind fun _ => Effect.covers_pure library
    · exact Effect.covers_throw trivial

/-- A library is imported, given that it can be loaded. -/
theorem evolving_usingLibraryWithin_of_load {available : List String}
    (h : ∀ (m : ProjectId) (name : String), evolving.Covers (m.loadLibraryWithin available name))
    (p : ProjectId) (name : String) : evolving.Covers (p.usingLibraryWithin available name) := by
  unfold ProjectId.usingLibraryWithin
  refine (ProjectId.evolving_scope p).bind fun m => ?_
  refine (Slot.covers_resolve (fun slot s hs => ?_) (h m name) trivial).bind fun l => ?_
  · exact Work.evolving_step (.importLibrary m name slot)
      (Declares.settled_modify hs m (fun _ => rfl) fun _ => rfl)
  · refine Effect.covers_get.bind fun s =>
      Effect.Covers.ite (fun _ => ?_) fun _ => Effect.covers_pure l
    refine Effect.Covers.bind (fun s hs => ?_) fun _ => Effect.covers_pure l
    exact Work.evolving_step (.useLibrary m l)
      (Declares.settled_modify hs m (fun _ => rfl) fun _ => rfl)

/-- Libraries are imported from any packages. -/
theorem evolving_usingLibraryWithin (available : List String) (p : ProjectId) (name : String) :
    evolving.Covers (p.usingLibraryWithin available name) := by
  induction hn : available.length using Nat.strongRecOn generalizing available p name with
  | ind n ih =>
    refine evolving_usingLibraryWithin_of_load (fun m name => ?_) p name
    refine evolving_loadLibraryWithin (fun name hname p other => ih _ ?_ _ p other rfl) m name
    have := List.length_erase_of_mem hname
    have := List.length_pos_of_mem hname
    omega

end LibraryImport

/-- A library is used in steps. -/
theorem ProjectId.evolving_usingLibrary (p : ProjectId) (name : String) :
    evolving.Covers (p.usingLibrary name) :=
  Effect.covers_get.bind fun _ => LibraryImport.evolving_usingLibraryWithin _ p name

/-- A description is loaded in steps. -/
theorem Work.evolving_load (text label : String) (origin : Origin) :
    evolving.Covers (Work.load text label origin) := by
  refine (Work.evolving_ofExcept _).bind fun d => Effect.covers_get.bind fun s => ?_
  exact LibraryImport.evolving_loadWithin (LibraryImport.evolving_usingLibraryWithin _) d _ label

/-- The description in a file is loaded in steps. -/
theorem Work.evolving_loadFile (path : Files.Path) (origin : Origin) :
    evolving.Covers (Work.loadFile path origin) :=
  (Work.evolving_of_offline (Work.offline_readProjectFile path)).bind fun _ =>
    Work.evolving_load _ _ _

/-- A call on projects, libraries and their components. -/
inductive Call where
  | declare (d : Declaration)
  | newProject (name : String) (baseDir : Files.Path) (packages : PackageMapId)
      (main : Option ProjectId) (package : Option Package)
  | load (text label : String) (origin : Origin)
  | loadFile (path : Files.Path) (origin : Origin)
  | useLibrary (p : ProjectId) (name : String)
  | freeze (p : ProjectId)

namespace Call

/-- Makes a call. -/
def run : Call → Work Unit
  | declare d => d.run
  | newProject name baseDir packages main package =>
    discard (Work.newProject name baseDir packages main package)
  | load text label origin => discard (Work.load text label origin)
  | loadFile path origin => discard (Work.loadFile path origin)
  | useLibrary p name => discard (p.usingLibrary name)
  | freeze p => p.freeze

/-- The state after calls, each made after the one before has given a value or failed. -/
def runAll (calls : List Call) (s : Store) : Store :=
  calls.foldl (fun s call => call.run.after s) s

/-- Every call takes steps of a run, whether it gives a value or fails. -/
theorem covers_run (call : Call) : evolving.Covers call.run := by
  cases call with
  | declare d => exact Work.evolving_of_declaring d.covers_run
  | newProject name baseDir packages main package => exact (Work.evolving_newProject _ _ _ _ _).map
  | load text label origin => exact (Work.evolving_load _ _ _).map
  | loadFile path origin => exact (Work.evolving_loadFile _ _).map
  | useLibrary p name => exact (p.evolving_usingLibrary name).map
  | freeze p => exact p.evolving_freeze

/-- Calls take steps of a run. -/
theorem evolves_runAll {s : Store} (hs : declaring.holds s) (calls : List Call) :
    declaring.holds (runAll calls s) ∧ Evolves s (runAll calls s) :=
  Effect.after_each covers_run calls hs

/-- What holds at first holds all along a run exactly if each of its calls keeps it. -/
theorem forall_prefix_iff {P : Store → Prop} {Q : Call → Store → Prop}
    (step : ∀ call s, P s → (P (call.run.after s) ↔ Q call s)) {s : Store} (hs : P s)
    (calls : List Call) :
    (∀ before, before <+: calls → P (runAll before s)) ↔
      ∀ before call after, calls = before ++ call :: after → Q call (runAll before s) := by
  induction calls generalizing s with
  | nil =>
    refine iff_of_true (fun before hbefore => ?_) fun before call after split => ?_
    · rw [List.prefix_nil.1 hbefore]
      exact hs
    · simp at split
  | cons first calls ih =>
    constructor
    · intro h
      have kept : P (first.run.after s) := h [first] (List.prefix_append [first] calls)
      have later := (ih kept).1 fun before hbefore =>
        h (first :: before) (List.prefix_cons_inj first |>.2 hbefore)
      intro before call after split
      cases before with
      | nil =>
        obtain ⟨rfl, -⟩ := List.cons.inj split
        exact (step first s hs).1 kept
      | cons _ before =>
        obtain ⟨rfl, rest⟩ := List.cons.inj split
        exact later before call after rest
    · intro h
      have kept := (step first s hs).2 (h [] first calls rfl)
      have later := (ih kept).2 fun before call after split =>
        h (first :: before) call after (by rw [split]; rfl)
      intro before hbefore
      cases before with
      | nil => exact hs
      | cons _ before =>
        obtain ⟨rfl, hrest⟩ := List.cons_prefix_cons.1 hbefore
        exact later before hrest

/-- Calls after calls. -/
theorem runAll_append (calls more : List Call) (s : Store) :
    runAll (calls ++ more) s = runAll more (runAll calls s) :=
  List.foldl_append

end Call

end Componentry
