import Componentry.Proofs.LibraryScope

/-!
# Importing libraries

A library that is imported into a scope is loaded from its package, and while it is loaded it
imports others. The names under way form a stack, from each of which the name that is asked for is
reached by imports; so to ask for a name on the stack closes a cycle. The names that may still be
loaded hold every package that is not on the stack, so no load is refused for want of them. The
induction is on the number of names that may still be loaded.
-/

namespace Componentry

open Declares

/-- Files are looked at without a change of the state. -/
theorem Work.ends_onFiles_of_reading {α : Type} {x : Files.Change α} (h : Files.reading.Covers x)
    (s : Store) :
    Ends (Work.onFiles x) s (fun a t => t = s ∧ x s.files = .ok a s.files)
      fun fault t => t = s ∧ fault.isCycle = false := by
  refine Work.ends_onFiles.2 (ends_iff.2 ⟨fun a files hx => ?_, fun fault files hx => ?_⟩)
  · obtain ⟨-, rfl⟩ := (h s.files trivial).of_ok hx
    exact ⟨rfl, hx⟩
  · obtain ⟨-, rfl, hf⟩ := (h s.files trivial).of_error hx
    exact ⟨rfl, hf⟩

/-- A file of a project is read without a change, and fails as no import cycle. -/
theorem Work.ends_readProjectFile (path : Files.Path) (s : Store) :
    Ends (Work.readProjectFile path) s
      (fun text t => t = s ∧ Files.Change.readText path s.files = .ok text s.files)
      fun fault t => t = s ∧ fault.isCycle = false := by
  refine ends_tryCatch.2
    ((Work.ends_onFiles_of_reading (Files.Change.covers_readText path) s).mono (fun _ _ h => h) ?_)
  rintro fault t ⟨rfl, hf⟩
  split
  · exact ⟨rfl, rfl⟩
  · exact ⟨rfl, rfl⟩
  · exact ⟨rfl, hf⟩

/-- A package that is found is one of the map, under its own name. -/
theorem PackageMap.of_find {map : PackageMap} {name : String} {package : Package}
    {files files' : Files.Tree} (h : map.find name files = .ok package files') :
    name ∈ map.names ∧ package.name = name := by
  unfold PackageMap.find at h
  cases hlookup : map.entries.lookup name with
  | none =>
    rw [hlookup] at h
    cases h
  | some path =>
    rw [hlookup] at h
    have found : Ends (do
        if ← Files.Change.isDirectory path then return Package.atPath name path
        else throw (.packageDirectoryMissing name path.toText)) files
          (fun package _ => package.name = name)
        fun _ _ => True :=
      ends_bind.2 ((Files.Change.covers_isDirectory path files trivial).mono
        (fun _ _ _ => ends_ite.2 ⟨fun _ => rfl, fun _ => trivial⟩) fun _ _ _ => trivial)
    have known : (map.entries.lookup name).isSome := by rw [hlookup]; rfl
    obtain ⟨entry, hmem, hname⟩ := List.lookup_isSome_iff.1 known
    refine ⟨List.mem_map.2 ⟨entry, hmem, ?_⟩, found.of_ok h⟩
    exact (beq_iff_eq.1 hname).symm

/-- A library has one description at most. -/
theorem Store.Describes.unique {s : Store} {m : ProjectId} {name : String}
    {d d' : Description.Project} (h : s.Describes m name d) (h' : s.Describes m name d') :
    d = d' := by
  obtain ⟨package, text, hfind, -, hread, hparse⟩ := h
  obtain ⟨package', text', hfind', -, hread', hparse'⟩ := h'
  rw [hfind] at hfind'
  cases hfind'
  rw [hread] at hread'
  cases hread'
  rw [hparse] at hparse'
  cases hparse'
  rfl

/-- Declarations end in a library, which builds no typekit of its own. -/
theorem ProjectId.ends_freeze_of_imported {l m : ProjectId} {s : Store} {P : PUnit → Store → Prop}
    {F : Fault → Store → Prop} (main : (s.project l).main = some m) (h : P ⟨⟩ (l.withFrozen s)) :
    Ends l.freeze s P F := by
  refine ProjectId.ends_freeze_of (fun _ => h) fun id _ own => ?_
  rw [Project.isImported, main] at own
  cases own

/-- Whether a cycle of imports can be reached from a library. -/
def Store.ReachesCycle (s : Store) (m : ProjectId) (name : String) : Prop :=
  ∃ other, Relation.ReflTransGen (s.ImportsLibrary m) name other ∧
    Relation.TransGen (s.ImportsLibrary m) other other

/-- A library that imports one that reaches a cycle reaches it too. -/
theorem Store.ReachesCycle.head {s : Store} {m : ProjectId} {name other : String}
    (h : s.ReachesCycle m other) (himports : s.ImportsLibrary m name other) :
    s.ReachesCycle m name := by
  obtain ⟨k, hreach, hcycle⟩ := h
  exact ⟨k, hreach.head himports, hcycle⟩

/-- Advances leave the libraries that reach a cycle as they are. -/
theorem Advances.reachesCycle {m : ProjectId} {s t : Store} (h : Advances m s t) (name : String) :
    t.ReachesCycle m name ↔ s.ReachesCycle m name := by
  unfold Store.ReachesCycle
  rw [h.imports]

/-- A library of a scope that is being loaded. -/
structure OpenLibrary (m : ProjectId) (package : Package) (l : ProjectId) (s : Store) : Prop where
  made : l.index < s.projects.items.length
  main : (s.project l).main = some m
  isOpen : (s.project l).frozen = false
  package : (s.project l).package = some package

/-- A library that is open stays so in an advance. -/
theorem OpenLibrary.advances {m l : ProjectId} {package : Package} {s t : Store}
    (h : OpenLibrary m package l s) (isMain : (s.project m).main = none) (hst : Advances m s t) :
    OpenLibrary m package l t := by
  have other : l ≠ m := by
    rintro rfl
    cases isMain.symm.trans h.main
  have outline := hst.others l other h.made
  refine ⟨Nat.lt_of_lt_of_le h.made hst.length, ?_, ?_, ?_⟩
  · rw [Project.congr_outline outline (·.main) fun _ => rfl]
    exact h.main
  · rw [Project.congr_outline outline (·.frozen) fun _ => rfl]
    exact h.isOpen
  · rw [Project.congr_outline outline (·.package) fun _ => rfl]
    exact h.package

/-- What may be done since a state while the names on a stack are imported into a scope. A cycle of
imports is reported only if the cause holds. -/
def importingLibraries (m : ProjectId) (stack : List String) (since : Store)
    (cause : Prop) : Effect Fault Store where
  holds s := SoundScope m stack s ∧ Advances m since s
  change := Advances m
  fault fault := fault.isCycle = true → cause
  refl := .refl m
  trans := .trans

section Effect

variable {m : ProjectId} {stack : List String} {since : Store} {cause : Prop} {α : Type}
  {x : Work α}

/-- What declares may be done while libraries are imported. -/
theorem importingLibraries_of_declaring (h : declaring.Covers x) :
    (importingLibraries m stack since cause).Covers x := by
  rintro s ⟨hs, hsince⟩
  refine (h s hs.settled).mono ?_ ?_
  · rintro a t ⟨ht, hst⟩
    have advances := Advances.of_frame hst.frame m
    exact ⟨⟨hs.of_frame hst.frame ht, hsince.trans advances⟩, advances⟩
  · rintro fault t ⟨ht, hst, hf⟩
    have advances := Advances.of_frame hst.frame m
    exact ⟨⟨hs.of_frame hst.frame ht, hsince.trans advances⟩, advances,
      fun hcycle => Bool.noConfusion (hcycle.symm.trans hf)⟩

end Effect

namespace LibraryImport

/-- The packages that may still be loaded hold every package that a scope finds, but those that are
being loaded. -/
def Suffices (m : ProjectId) (stack available : List String) (s : Store) : Prop :=
  ∀ n ∈ (s.packageMap (s.project m).packages).names, n ∉ stack → n ∈ available

/-- How the import of a library ends: it is complete, or the scope is as it was but for other
libraries. -/
def EndsWell (available : List String) : Prop :=
  ∀ (m p : ProjectId) (stack : List String) (name : String) (s : Store), SoundScope m stack s →
    s.projects.scope p = m → Suffices m stack available s →
    (∀ k ∈ stack, Relation.TransGen (s.ImportsLibrary m) k name) →
    Ends (p.usingLibraryWithin available name) s
      (fun l t => SoundScope m stack t ∧ Advances m s t ∧
        (t.libraryState m).slot name = .resolved l)
      fun fault t => SoundScope m stack t ∧ Advances m s t ∧
        (fault.isCycle = true → s.ReachesCycle m name)

/-- How the load of a library ends: it is described completely, and only the end of its declarations
is to come. -/
def LoadsWell (available : List String) : Prop :=
  ∀ (m : ProjectId) (stack : List String) (name : String) (s : Store),
    SoundScope m (name :: stack) s →
    Suffices m stack available s → (∀ k ∈ stack, Relation.TransGen (s.ImportsLibrary m) k name) →
      name ∉ stack →
    Ends (m.loadLibraryWithin available name) s
      (fun l t => ∃ u package, t = l.withFrozen u ∧ SoundScope m (name :: stack) u ∧
        Advances m s u ∧
        s.projects.items.length ≤ l.index ∧ OpenLibrary m package l u ∧ package.name = name ∧
        ∀ other, s.ImportsLibrary m name other → ∃ l', (u.libraryState m).slot other = .resolved l')
      fun fault t => SoundScope m (name :: stack) t ∧ Advances m s t ∧
        (fault.isCycle = true → s.ReachesCycle m name)

/-- The names that are available suffice after an advance too. -/
theorem Suffices.advances {m : ProjectId} {stack available : List String} {s t : Store}
    (h : Suffices m stack available s) (hst : Advances m s t) : Suffices m stack available t := by
  unfold Suffices Store.packageMap at h ⊢
  rw [hst.packages, hst.packageMaps]
  exact h

/-- When the load of a library begins, it is no longer among the packages that may be loaded. -/
theorem Suffices.erase {m : ProjectId} {stack available : List String} {s : Store}
    (h : Suffices m stack available s) (name : String) :
    Suffices m (name :: stack) (available.erase name) s := by
  intro n hn hnot
  rw [List.mem_cons, not_or] at hnot
  exact (List.mem_erase_of_ne hnot.1).2 (h n hn hnot.2)

/-- What a library uses is reached by imports from each name under way. -/
theorem reached_of_describes {m : ProjectId} {stack : List String} {name : String} {s t : Store}
    (hst : Advances m s t) {d : Description.Project} (describes : s.Describes m name d)
    (hstack : ∀ k ∈ stack, Relation.TransGen (s.ImportsLibrary m) k name) :
    ∀ other ∈ d.usedLibraries,
      ∀ k ∈ name :: stack, Relation.TransGen (t.ImportsLibrary m) k other := by
  intro other hother k hk
  have imports : s.ImportsLibrary m name other := ⟨d, describes, hother⟩
  rw [hst.imports]
  rcases List.mem_cons.1 hk with rfl | hk
  · exact .single imports
  · exact (hstack k hk).tail imports

/-- Libraries are imported one after the other, and each of them stays imported. -/
theorem ends_usingLibraries {available : List String} (h : EndsWell available) {m p : ProjectId}
    {stack : List String} {s t : Store} (hst : Advances m s t)
    (hsuffices : Suffices m stack available s) {names : List String}
    (hstack : ∀ other ∈ names, ∀ k ∈ stack, Relation.TransGen (s.ImportsLibrary m) k other) :
    let E := importingLibraries m stack t (∃ other ∈ names, s.ReachesCycle m other)
    (∀ u, E.holds u → u.projects.scope p = m) → ∀ u, E.holds u →
      Ends (names.forM fun other => discard (p.usingLibraryWithin available other)) u
        (fun _ v => E.holds v ∧ E.change u v ∧
          ∀ other ∈ names, ∃ l, (v.libraryState m).slot other = .resolved l)
        fun fault v => E.holds v ∧ E.change u v ∧ E.fault fault := by
  intro E hscope u hu
  refine Effect.ends_forM (fun other v w hvw => ?_) (fun other hother v hv => ?_) hu
  · exact Exists.imp (hvw.resolved other)
  · have hsv := hst.trans hv.2
    have reached : ∀ k ∈ stack, Relation.TransGen (v.ImportsLibrary m) k other := by
      rw [hsv.imports]
      exact hstack other hother
    refine ends_map.2
      ((h m p stack other v hv.1 (hscope v hv) (hsuffices.advances hsv) reached).mono ?_ ?_)
    · rintro l w ⟨hw, hvw, hl⟩
      exact ⟨⟨hw, hv.2.trans hvw⟩, hvw, l, hl⟩
    · rintro fault w ⟨hw, hvw, hcycle⟩
      exact ⟨⟨hw, hv.2.trans hvw⟩, hvw,
        fun hf => ⟨other, hother, (hsv.reachesCycle other).1 (hcycle hf)⟩⟩

/-- A library is described in a scope that imports what it uses on the way. -/
theorem ends_loadWithin {available : List String} (h : EndsWell available) {m : ProjectId}
    {stack : List String} {name : String} {s : Store} (hs : SoundScope m (name :: stack) s)
    (hsuffices : Suffices m (name :: stack) available s) {d : Description.Project}
    {package : Package} (label : String)
    (hstack : ∀ other ∈ d.usedLibraries,
        ∀ k ∈ name :: stack, Relation.TransGen (s.ImportsLibrary m) k other) :
    Ends (Work.loadWithin available d (.ofLibrary s m package) label) s
      (fun l u => SoundScope m (name :: stack) u ∧ Advances m s u ∧
        s.projects.items.length ≤ l.index ∧
        OpenLibrary m package l u ∧
          ∀ other ∈ d.usedLibraries, ∃ l', (u.libraryState m).slot other = .resolved l')
      fun fault t => SoundScope m (name :: stack) t ∧ Advances m s t ∧
        (fault.isCycle = true → ∃ other ∈ d.usedLibraries, s.ReachesCycle m other) := by
  let p := s.projects.next
  let t :=
    m.withLibrary d.name package.projectFile.parent (s.project m).packages (some package) s hs.made
  let cause := ∃ other ∈ d.usedLibraries, s.ReachesCycle m other
  let E := importingLibraries m (name :: stack) t cause
  have hst : Advances m s t := .withLibrary hs.made
  have isOpen : OpenLibrary m package p t := by
    have project : t.project p = _ := (Store.project_withLibrary hs.made p).trans (if_pos rfl)
    have made : p.index < t.projects.items.length := by
      simp [t, p, ProjectId.withLibrary, Projects.push, Projects.next]
    exact ⟨made, by rw [project], by rw [project], by rw [project]⟩
  have opened (u : Store) (hu : E.holds u) : OpenLibrary m package p u :=
    isOpen.advances hs.withLibrary.isMain hu.2
  have typekits : E.Covers (d.usedTypekits.forM
      fun k => do discard (p.usingTypekit (← p.importTypekit k))) := by
    refine Effect.covers_forM fun k _ =>
      importingLibraries_of_declaring (Work.declaring_of_typing ?_)
    refine Work.typing_of_importing ((p.importing_importTypekit k).bind fun id => ?_)
    exact (Work.importing_of_offline (p.offline_usingTypekit id)).map
  have scope (u : Store) (hu : E.holds u) : u.projects.scope p = m :=
    Store.scope_of_imported (opened u hu).main
  have libraries := ends_usingLibraries h hst hsuffices hstack scope
  have components : E.Covers (d.components.forM p.replayComponent) :=
    Effect.covers_forM fun c _ => importingLibraries_of_declaring (p.declaring_replayComponent c)
  have failed (fault : Fault) (u : Store) (hu : E.holds u) (htu : E.change t u)
      (hf : E.fault fault) :
      SoundScope m (name :: stack) u ∧ Advances m s u ∧ (fault.isCycle = true → cause) :=
    ⟨hu.1, hst.trans htu, hf⟩
  have log :
      E.Covers (Work.log .debug Work.loaderLogName s!"loading project {d.name} from {label}") :=
    importingLibraries_of_declaring
      (Work.declaring_of_typing (Work.typing_of_offline (Work.offline_log _ _ _)))
  unfold Work.loadWithin
  refine ends_bind.2 (Work.ends_newLibrary hs.made _ _ _ _ ?_)
  refine (log t ⟨hs.withLibrary, .refl m t⟩).ends_bind failed fun _ u hu htu => ?_
  refine (typekits u hu).ends_bind (fun fault v hv huv => failed fault v hv (htu.trans huv))
    fun _ v hv huv => ?_
  have htv := htu.trans huv
  refine ends_bind.2 ((libraries v hv).mono ?_ ?_)
  · rintro - w ⟨hw, hvw, resolved⟩
    have htw := htv.trans hvw
    -- The typekit that is described is left to the project of its own.
    have finish : Ends (d.components.forM p.replayComponent >>= fun _ => pure p) w
        (fun l u => SoundScope m (name :: stack) u ∧ Advances m s u ∧
          s.projects.items.length ≤ l.index ∧
          OpenLibrary m package l u ∧
            ∀ other ∈ d.usedLibraries, ∃ l', (u.libraryState m).slot other = .resolved l')
        fun fault u => SoundScope m (name :: stack) u ∧ Advances m s u ∧
          (fault.isCycle = true → cause) := by
      refine (components w hw).ends_bind (fun fault x hx hwx => failed fault x hx (htw.trans hwx))
        fun _ x hx hwx => ?_
      refine ⟨hx.1, hst.trans (htw.trans hwx), Nat.le_refl _, opened x hx, fun other hother => ?_⟩
      obtain ⟨l', hl'⟩ := resolved other hother
      exact ⟨l', hwx.resolved other l' hl'⟩
    cases d.typekit with
    | none => exact finish
    | some typekit => exact finish
  · rintro fault w ⟨hw, hvw, hf⟩
    exact failed fault w hw (htv.trans hvw) hf

/-- A library whose description was read is loaded if the libraries that it uses can be imported. -/
theorem ends_described {available : List String} {m : ProjectId} {stack : List String}
    {name : String} {s t : Store} (h : EndsWell (available.erase name)) (hst : Advances m s t)
    (projects : t.projects = s.projects) (ht : SoundScope m (name :: stack) t)
    (hsuffices : Suffices m stack available s)
    (hstack : ∀ k ∈ stack, Relation.TransGen (s.ImportsLibrary m) k name) {d : Description.Project}
    (describes : s.Describes m name d) {package : Package} (hpackage : package.name = name)
    (label : String) :
    Ends (do
        let l ← Work.loadWithin (available.erase name) d (.ofLibrary t m package) label
        l.freeze
        return l) t
      (fun l v => ∃ u package, v = l.withFrozen u ∧ SoundScope m (name :: stack) u ∧
        Advances m s u ∧
        s.projects.items.length ≤ l.index ∧ OpenLibrary m package l u ∧ package.name = name ∧
        ∀ other, s.ImportsLibrary m name other → ∃ l', (u.libraryState m).slot other = .resolved l')
      fun fault u => SoundScope m (name :: stack) u ∧ Advances m s u ∧
        (fault.isCycle = true → s.ReachesCycle m name) := by
  have reached := reached_of_describes hst describes hstack
  refine ends_bind.2
    ((ends_loadWithin h ht ((hsuffices.advances hst).erase name) label reached).mono ?_ ?_)
  · rintro l u ⟨hu, htu, new, isOpen, resolved⟩
    rw [projects] at new
    refine ends_bind.2 (ProjectId.ends_freeze_of_imported isOpen.main ?_)
    refine ⟨u, package, rfl, hu, hst.trans htu, new, isOpen, hpackage, ?_⟩
    rintro other ⟨d', describes', hother⟩
    rw [describes'.unique describes] at hother
    exact resolved other hother
  · rintro fault u ⟨hu, htu, hcycle⟩
    refine ⟨hu, hst.trans htu, fun hf => ?_⟩
    obtain ⟨other, hother, reaches⟩ := hcycle hf
    exact ((hst.reachesCycle other).1 reaches).head ⟨d, describes, hother⟩

/-- A library is loaded if the libraries that it uses can be imported. -/
theorem loadsWell {available : List String}
    (h : ∀ name ∈ available, EndsWell (available.erase name)) :
    LoadsWell available := by
  intro m stack name s hs hsuffices hstack hname
  have unchanged {fault : Fault} (hf : fault.isCycle = false) :
      SoundScope m (name :: stack) s ∧ Advances m s s ∧
      (fault.isCycle = true → s.ReachesCycle m name) :=
    ⟨hs, .refl m s, fun hcycle => Bool.noConfusion (hcycle.symm.trans hf)⟩
  unfold ProjectId.loadLibraryWithin
  refine ends_bind.2 (ends_get.2 (ends_bind.2 ?_))
  refine (Work.ends_onFiles_of_reading (PackageMap.covers_find _ name) s).mono ?_ ?_
  · rintro package t ⟨rfl, hfind⟩
    obtain ⟨known, hpackage⟩ := PackageMap.of_find hfind
    have mayLoad : name ∈ available := hsuffices name known hname
    refine ends_bind.2 ((Work.ends_onFiles_of_reading (Files.Change.covers_isFile _) t).mono ?_ ?_)
    · rintro present u ⟨rfl, hpresent⟩
      refine ends_ite.2 ⟨fun _ => unchanged rfl, fun isPresent => ends_bind.2 ?_⟩
      let v : Store := { u with log := u.log ++ [⟨.info, ProjectId.logName,
        s!"loading component library {name} from {package.path.toText}"⟩] }
      have frame : Declares.Frame u v := (Declared.log _).frame
      have huv : Advances m u v := .of_frame frame m
      have hv : SoundScope m (name :: stack) v := hs.of_frame frame hs.settled
      have failed {fault : Fault} (hf : fault.isCycle = false) :
          SoundScope m (name :: stack) v ∧ Advances m u v ∧
          (fault.isCycle = true → u.ReachesCycle m name) :=
        ⟨hv, huv, fun hcycle => Bool.noConfusion (hcycle.symm.trans hf)⟩
      change Ends (if _h : name ∈ available then _ else _) v _ _
      rw [dif_pos mayLoad]
      refine ends_bind.2 ((Work.ends_readProjectFile package.projectFile v).mono ?_ ?_)
      · rintro text w ⟨rfl, hread⟩
        refine ends_bind.2 (Work.ends_ofExcept.2 ⟨fun d hparse => ?_, fun fault hparse => ?_⟩)
        · have isLibrary : package.hasLibrary u.files = .ok true u.files := by
            rw [Package.hasLibrary, hpresent]
            simpa using isPresent
          have describes : u.Describes m name d := ⟨package, text, hfind, isLibrary, hread, hparse⟩
          exact ends_described (h name mayLoad) huv rfl hv hsuffices hstack describes hpackage _
        · exact failed (Description.Project.cycleFree_parse _ text fault hparse)
      · rintro fault w ⟨rfl, hf⟩
        exact failed hf
    · rintro fault u ⟨rfl, hf⟩
      exact unchanged hf
  · rintro fault t ⟨rfl, hf⟩
    exact unchanged hf

/-- A library that was loaded is complete once it is used. -/
theorem ends_use {m l : ProjectId} {package : Package} {stack : List String} {name : String}
    {s u : Store} (hname : name ∉ stack) (hsu : Advances m s u)
    (hu : SoundScope m (name :: stack) u) (new : s.projects.items.length ≤ l.index)
    (isOpen : OpenLibrary m package l u) (hpackage : package.name = name)
    (imported : ∀ other, u.ImportsLibrary m name other →
      ∃ l', (u.libraryState m).slot other = .resolved l')
    {F : Fault → Store → Prop} :
    Ends (do
        if l ∉ ((← get).project m).usedLibraries then
          Work.modifyProject m fun q => { q with usedLibraries := q.usedLibraries ++ [l] }
        return l) (m.withLibrarySlot name (.resolved l) (l.withFrozen u))
      (fun l t => SoundScope m stack t ∧ Advances m s t ∧
        (t.libraryState m).slot name = .resolved l) F := by
  have hpackage' : (u.project l).package.map (·.name) = some name := by
    rw [isOpen.package]
    exact congrArg some hpackage
  have frozen := Store.libraryState_withFrozen isOpen.made isOpen.main hpackage'
  have made : m.index < (l.withFrozen u).projects.items.length := by
    rw [ProjectId.withFrozen, Projects.length_modify]
    exact hu.made
  have resolved := Store.libraryState_withLibrarySlot made name (.resolved l)
  have resolving : (u.libraryState m).slot name = .resolving :=
    (hu.sound.underWay name).2 List.mem_cons_self
  have unused :
      l ∉ ((m.withLibrarySlot name (.resolved l) (l.withFrozen u)).project m).usedLibraries := by
    change l ∉ ((m.withLibrarySlot name (.resolved l) (l.withFrozen u)).libraryState m).used
    rw [resolved, frozen]
    intro hl
    obtain ⟨n, hn⟩ := (hu.sound.used l).1 hl
    have isFrozen : (u.project l).frozen = true := ((hu.sound.loaded n l).1 hn).2.1
    exact Bool.noConfusion (isFrozen.symm.trans isOpen.isOpen)
  refine ends_ite.2 ⟨fun _ => ?_, fun used => absurd unused used⟩
  have made' :
      m.index < (m.withLibrarySlot name (.resolved l) (l.withFrozen u)).projects.items.length := by
    rw [ProjectId.withLibrarySlot, Projects.length_modify]
    exact made
  refine ⟨hu.finish hname isOpen.made isOpen.main isOpen.isOpen hpackage' imported, ?_, ?_⟩
  · have idle : ∀ l', ((l.withFrozen u).libraryState m).slot name ≠ .resolved l' := by
      rw [frozen]
      simp [resolving]
    exact ((hsu.withFrozen new).trans (.withLibrarySlot made idle)).trans (.withUsedLibrary made' l)
  · change ((m.withUsedLibrary l _).libraryState m).slot name = _
    rw [Store.libraryState_withUsedLibrary made', resolved]
    exact Function.update_self ..

/-- A library is imported if it can be loaded. -/
theorem endsWell {available : List String} (h : LoadsWell available) : EndsWell available := by
  intro m p stack name s hs hscope hsuffices hstack
  unfold ProjectId.usingLibraryWithin
  refine ends_bind.2 ?_
  change Ends (Work.resolveSlot (s.projects.scope p) _ _ name _ >>= _) s _ _
  rw [hscope]
  refine ends_bind.2 ?_
  cases hslot : (s.libraryState m).slot name with
  | resolved l =>
    refine Slot.ends_resolve_of_resolved hslot ?_
    have used : l ∈ (s.project m).usedLibraries := (hs.sound.used l).2 ⟨name, hslot⟩
    exact ends_ite.2 ⟨fun unused => absurd used unused, fun _ => ⟨hs, .refl m s, hslot⟩⟩
  | resolving =>
    refine Slot.ends_resolve_of_resolving hslot ⟨hs, .refl m s, fun _ => ?_⟩
    exact ⟨name, .refl, hstack name ((hs.sound.underWay name).1 hslot)⟩
  | unresolved =>
    have hname := hs.notMem_of_unresolved hslot
    let t := m.withLibrarySlot name .resolving s
    have hst : Advances m s t := .withLibrarySlot hs.made (by simp [hslot])
    have reached : ∀ k ∈ stack, Relation.TransGen (t.ImportsLibrary m) k name := by
      rw [hst.imports]
      exact hstack
    refine Slot.ends_resolve_of_unresolved hslot ?_
    refine (h m stack name t (hs.begin hslot) (hsuffices.advances hst) reached hname).mono ?_ ?_
    · rintro l - ⟨u, package, rfl, hu, htu, new, isOpen, hpackage, imported⟩
      exact ends_use hname (hst.trans htu) hu (Nat.le_trans hst.length new) isOpen hpackage
          fun other himports =>
        imported other (by rwa [← htu.imports])
    · rintro fault u ⟨hu, htu, hcycle⟩
      have resolving : (u.libraryState m).slot name = .resolving :=
        (hu.sound.underWay name).2 List.mem_cons_self
      refine ⟨hu.abandon hname,
        hst.trans (htu.trans (.withLibrarySlot hu.made (by simp [resolving]))), fun hf => ?_⟩
      exact (hst.reachesCycle name).1 (hcycle hf)

/-- A library is imported by a scope whatever its packages import, as no package is missing at the
start. -/
theorem endsWell_all (available : List String) : EndsWell available := by
  induction hn : available.length using Nat.strongRecOn generalizing available with
  | ind n ih =>
    refine endsWell (loadsWell fun name hname => ih _ ?_ _ rfl)
    have := List.length_erase_of_mem hname
    have := List.length_pos_of_mem hname
    omega

end LibraryImport

end Componentry
