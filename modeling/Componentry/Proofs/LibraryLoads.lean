import Componentry.Proofs.LibraryImports

/-!
# Libraries that can be loaded

What the import of a library asks of the packages that it comes to load: each is found, is a
library, is read and parsed, and makes its declarations without a failure. Nothing is asked of how
imports end that are under way or complete, nor of how the packages use each other. Then an import
gives the library or fails as a cycle, by induction on the packages that it comes to load.
-/

namespace Componentry

open Declares

/-- The state in which the library of a package is about to be made. -/
def ProjectId.atLoad (m : ProjectId) (name : String) (package : Package) (s : Store) : Store :=
  { m.withLibrarySlot name .resolving s with
    log := s.log ++ [⟨.info, ProjectId.logName,
      s!"loading component library {name} from {package.path.toText}"⟩] }

/-- The load of a library that is described, as far as the given ones of the libraries that it uses:
its project is made, its typekits and these libraries are used, and no component is declared yet. -/
def ProjectId.loadUpTo (m : ProjectId) (available : List String) (name : String) (package : Package)
    (d : Description.Project) (libraries : List String) : Work ProjectId := fun s =>
  let t := m.atLoad name package s
  Work.loadWithin (available.erase name) { d with usedLibraries := libraries, components := [] }
    (.ofLibrary t m package) package.projectFile.toText t

/-- When the load of a library begins, its scope is sound. -/
theorem SoundScope.atLoad {m : ProjectId} {stack : List String} {name : String} {s : Store}
    (hs : SoundScope m stack s) (idle : (s.libraryState m).slot name = .unresolved)
    (package : Package) :
    SoundScope m (name :: stack) (m.atLoad name package s) ∧
      Advances m s (m.atLoad name package s) := by
  have logged : Declares.Frame (m.withLibrarySlot name .resolving s) (m.atLoad name package s) :=
    (Declared.log _).frame
  refine ⟨(hs.begin idle).of_frame logged (hs.begin idle).settled, ?_⟩
  exact .trans (.withLibrarySlot hs.made (by simp [idle])) (.of_frame logged m)

namespace LibraryImport

/-- Whether every package that the import of a library into a scope comes to load is found, is a
library, is read and parsed, and declares what it describes: it can use its typekits, each of its
libraries is asked for where the same is true of the packages that are then loaded, and when all of
them are used, it can declare its components. -/
inductive Loadable (m : ProjectId) : List String → String → Store → Prop where
  /-- The library is complete, or its import is under way. -/
  | begun {available : List String} {name : String} {s : Store}
      (slot : (s.libraryState m).slot name ≠ .unresolved) :
      Loadable m available name s
  | load {available : List String} {name : String} {s : Store} {d : Description.Project}
      {package : Package} {text : String}
      (found : (s.packageMap (s.project m).packages).find name s.files = .ok package s.files)
      (isLibrary : package.hasLibrary s.files = .ok true s.files)
      (read : Files.Change.readText package.projectFile s.files = .ok text s.files)
      (parsed : Description.Project.parse package.projectFile.toText text = .ok d)
      (typekits : Ends (m.loadUpTo available name package d []) s (fun _ _ => True)
        fun _ _ => False)
      (libraries : ∀ before other after p t, d.usedLibraries = before ++ other :: after →
        m.loadUpTo available name package d before s = .ok p t →
          Loadable m (available.erase name) other t)
      (components : ∀ p t, m.loadUpTo available name package d d.usedLibraries s = .ok p t →
        Ends (d.components.forM p.replayComponent) t (fun _ _ => True) fun _ _ => False) :
      Loadable m available name s

section Parts

variable {available : List String} {d : Description.Project} {origin : Origin} {label : String}
  {s : Store} {P : ProjectId → Store → Prop} {F : Fault → Store → Prop}

/-- The components of a library are declared last. -/
theorem ends_loadWithin_components (imported : origin.main.isSome = true) :
    Ends (Work.loadWithin available d origin label) s P F ↔
      Ends (Work.loadWithin available { d with components := [] } origin label) s
        (fun p t => Ends (d.components.forM p.replayComponent) t (fun _ u => P p u) F) F := by
  have own : origin.main.isNone = false := by simpa using imported
  unfold Work.loadWithin
  cases d.typekit <;> simp [own]

/-- The libraries that a library uses are imported one after the other. -/
theorem ends_loadWithin_library (imported : origin.main.isSome = true) (before : List String)
    (other : String) :
    Ends (Work.loadWithin available
      { d with usedLibraries := before ++ [other], components := [] } origin label) s P F ↔
      Ends (Work.loadWithin available
        { d with usedLibraries := before, components := [] } origin label) s
        (fun p t => Ends (p.usingLibraryWithin available other) t (fun _ u => P p u) F) F := by
  have own : origin.main.isNone = false := by simpa using imported
  have discarded (p : ProjectId) (t : Store) {Q : PUnit → Store → Prop} :
      Ends (discard (p.usingLibraryWithin available other)) t Q F ↔
        Ends (p.usingLibraryWithin available other) t (fun _ u => Q ⟨⟩ u) F := ends_map
  unfold Work.loadWithin
  cases d.typekit <;> simp [own, List.forM_append, discarded]

end Parts

section Loading

variable {m p : ProjectId} {stack available : List String} {name : String} {s : Store}

/-- An import gives a library or fails as a cycle if the load does that it may have to begin. -/
theorem ends_usingLibraryWithin_of_load (scope : s.projects.scope p = m)
    (load : (s.libraryState m).slot name = .unresolved → Ends (m.loadLibraryWithin available name)
        (m.withLibrarySlot name .resolving s) (fun _ _ => True)
        fun fault _ => fault.isCycle = true) :
    Ends (p.usingLibraryWithin available name) s (fun _ _ => True) fun fault _ =>
      fault.isCycle = true := by
  have used (l : ProjectId) (t : Store) : Ends (do
      if l ∉ ((← get).project m).usedLibraries then
        Work.modifyProject m fun q => { q with usedLibraries := q.usedLibraries ++ [l] }
      return l) t (fun _ _ => True) fun fault _ => fault.isCycle = true :=
    ends_ite.2 ⟨fun _ => trivial, fun _ => trivial⟩
  unfold ProjectId.usingLibraryWithin
  refine ends_bind.2 ?_
  change Ends (Work.resolveSlot (s.projects.scope p) _ _ name _ >>= _) s _ _
  rw [scope]
  refine ends_bind.2 ?_
  cases hslot : (s.libraryState m).slot name with
  | resolved l => exact Slot.ends_resolve_of_resolved hslot (used l s)
  | resolving => exact Slot.ends_resolve_of_resolving hslot rfl
  | unresolved =>
    exact Slot.ends_resolve_of_unresolved hslot
      ((load hslot).mono (fun l _ _ => used l _) fun _ _ h => h)

/-- The load of a library gives it or fails as a cycle if the making of its declarations does. -/
theorem ends_loadLibraryWithin_of_parsed {d : Description.Project} {package : Package}
    {text : String} (mayLoad : name ∈ available)
    (found : (s.packageMap (s.project m).packages).find name s.files = .ok package s.files)
    (isLibrary : package.hasLibrary s.files = .ok true s.files)
    (read : Files.Change.readText package.projectFile s.files = .ok text s.files)
    (parsed : Description.Project.parse package.projectFile.toText text = .ok d)
    (declares : Ends (Work.loadWithin (available.erase name) d
        (.ofLibrary (m.atLoad name package s) m package) package.projectFile.toText) (m.atLoad name
        package s) (fun l t => (t.project l).main = some m) fun fault _ => fault.isCycle = true) :
    Ends (m.loadLibraryWithin available name) (m.withLibrarySlot name .resolving s)
      (fun _ _ => True) fun fault _ => fault.isCycle = true := by
  have packages :
      ((m.withLibrarySlot name .resolving s).project m).packages = (s.project m).packages :=
    Projects.apply_modify (·.packages) (fun _ => by rfl) s.projects m m
  have readFile : Ends (Work.readProjectFile package.projectFile) (m.atLoad name package s)
      (fun text' t => text' = text ∧ t = m.atLoad name package s) fun _ _ => False :=
    ends_tryCatch.2 (Work.ends_onFiles.2 (ends_of_eq_ok read ⟨rfl, rfl⟩))
  unfold ProjectId.loadLibraryWithin
  refine ends_bind.2 (ends_get.2 ?_)
  rw [packages]
  refine ends_bind.2 (Work.ends_onFiles.2 (ends_of_eq_ok found ?_))
  refine ends_bind.2 (Work.ends_onFiles.2 (ends_of_eq_ok isLibrary ?_))
  change Ends (if _h : name ∈ available then _ else _) (m.atLoad name package s) _ _
  rw [dif_pos mayLoad]
  refine ends_bind.2 (readFile.mono ?_ fun _ _ h => h.elim)
  rintro _ _ ⟨rfl, rfl⟩
  refine ends_bind.2 (Work.ends_ofExcept.2 ⟨fun d' parsed' => ?_, fun fault failed => ?_⟩)
  · obtain rfl : d = d' := Except.ok.inj (parsed.symm.trans parsed')
    refine ends_bind.2 (declares.mono (fun l t main => ?_) fun _ _ h => h)
    exact ends_bind.2 (ProjectId.ends_freeze_of_imported main trivial)
  · rw [parsed] at failed
    cases failed

/-- As far as the load of a library comes, its scope stays sound and the library is open. -/
theorem ends_loadUpTo_sound (d : Description.Project) {package : Package}
    (hs : SoundScope m (name :: stack) (m.atLoad name package s))
    (hsuffices : Suffices m (name :: stack) (available.erase name) (m.atLoad name package s))
    (libraries : List String)
    (reached : ∀ other ∈ libraries, ∀ k ∈ name :: stack,
        Relation.TransGen ((m.atLoad name package s).ImportsLibrary m) k other) :
    Ends (m.loadUpTo available name package d libraries) s
      (fun l t => SoundScope m (name :: stack) t ∧ Advances m (m.atLoad name package s) t ∧
        OpenLibrary m package l t)
      fun _ _ => True := by
  refine (ends_loadWithin (endsWell_all _) hs hsuffices
    (d := { d with usedLibraries := libraries, components := [] })
    package.projectFile.toText reached).mono ?_ fun _ _ _ => trivial
  rintro l t ⟨ht, hst, -, isOpen, -⟩
  exact ⟨ht, hst, isOpen⟩

end Loading

/-- An import that finds all that it asks for gives a library or fails as a cycle. -/
theorem ends_usingLibraryWithin_of_loadable {m : ProjectId} {available : List String}
    {name : String} {s : Store} (h : Loadable m available name s) {p : ProjectId}
    {stack : List String} (hs : SoundScope m stack s) (scope : s.projects.scope p = m)
    (hsuffices : Suffices m stack available s)
    (hstack : ∀ k ∈ stack, Relation.TransGen (s.ImportsLibrary m) k name) :
    Ends (p.usingLibraryWithin available name) s (fun _ _ => True) fun fault _ =>
      fault.isCycle = true := by
  induction h generalizing p stack with
  | begun slot => exact ends_usingLibraryWithin_of_load scope fun idle => absurd idle slot
  | @load available name s d package text found isLibrary read parsed typekits libraries
      components ih =>
    refine ends_usingLibraryWithin_of_load scope fun idle => ?_
    have mayLoad : name ∈ available :=
      hsuffices name (PackageMap.of_find found).1 (hs.notMem_of_unresolved idle)
    obtain ⟨begun, hst⟩ := hs.atLoad idle package
    have hsuffices' := (hsuffices.advances hst).erase name
    have reached := reached_of_describes hst ⟨package, text, found, isLibrary, read, parsed⟩ hstack
    -- The libraries are imported in their order, each in the state that those before it leave.
    have upTo (before after : List String) (split : d.usedLibraries = before ++ after) :
        Ends (m.loadUpTo available name package d before) s (fun _ _ => True) fun fault _ =>
          fault.isCycle = true := by
      induction before using List.reverseRecOn generalizing after with
      | nil => exact typekits.mono (fun _ _ h => h) fun _ _ h => h.elim
      | append_singleton before other ihBefore =>
        rw [List.append_assoc] at split
        refine (ends_loadWithin_library rfl before other).2
          (ends_iff.2 ⟨fun l t run => ?_, fun fault t run => ?_⟩)
        · have sound := ends_loadUpTo_sound d begun hsuffices' before fun other hother =>
            reached other (split ▸ List.mem_append_left _ hother)
          obtain ⟨ht, hst', isOpen⟩ := sound.of_ok run
          have used : other ∈ d.usedLibraries := split ▸ List.mem_append_right _ List.mem_cons_self
          refine ih before other after l t split run ht (Store.scope_of_imported isOpen.main)
            (hsuffices'.advances hst') fun k hk => ?_
          rw [hst'.imports]
          exact reached other used k hk
        · exact (ihBefore _ split).of_error run
    refine ends_loadLibraryWithin_of_parsed mayLoad found isLibrary read parsed ?_
    refine (ends_loadWithin_components rfl).2
      (ends_iff.2 ⟨fun l t run => ?_, fun fault t run => ?_⟩)
    · have sound := ends_loadUpTo_sound d begun hsuffices' d.usedLibraries reached
      obtain ⟨ht, hst', isOpen⟩ := sound.of_ok run
      have declared : declaring.Covers (d.components.forM l.replayComponent) :=
        Effect.covers_forM fun c _ => l.declaring_replayComponent c
      refine ((components l t run).and (declared t ht.settled)).mono (fun _ u h => ?_)
        fun _ _ h => h.1.elim
      rw [Project.congr_outline (h.2.2.frame.outline l) (·.main) fun _ => rfl]
      exact isOpen.main
    · exact (upTo d.usedLibraries [] (List.append_nil _).symm).of_error run

/-- Whether the declarations of a library cannot fail: it uses no typekits, and it declares no
components, or uses no libraries and declares one component of which no more than the name is
told. -/
def IsPlain (d : Description.Project) : Prop :=
  d.usedTypekits = [] ∧
    (d.components = [] ∨ d.usedLibraries = [] ∧ ∃ name, d.components = [{ name }])

/-- A component of which no more than the name is told is declared in an open project that has
none. -/
theorem ends_replayComponent_bare {p : ProjectId} {t : Store}
    (isOpen : (t.project p).frozen = false) (empty : (t.project p).components = [])
    (name : String) :
    Ends (p.replayComponent { name }) t (fun _ _ => True) fun _ _ => False := by
  have unknown : ¬((t.project p).components.any fun c =>
      (t.interface c).name == (t.project p).qualify name) = true := by
    simp [empty]
  refine ends_bind.2 (ends_bind.2 (p.ends_checkMutable.2 ⟨fun _ => ?_, fun frozen => ?_⟩))
  · exact ends_bind.2 (ends_get.2 (ends_ite_of_not unknown trivial))
  · rw [isOpen] at frozen
    cases frozen

/-- A library that uses no typekits is made as an open project that has no components. -/
theorem ends_loadUpTo_nil {m : ProjectId} {available : List String} {name : String} {s : Store}
    (d : Description.Project) (package : Package) (made : m.index < s.projects.items.length)
    (noTypekits : d.usedTypekits = []) :
    Ends (m.loadUpTo available name package d []) s
      (fun l t => (t.project l).frozen = false ∧ (t.project l).components = [])
      fun _ _ => False := by
  have made' : m.index < (m.atLoad name package s).projects.items.length := by
    rw [ProjectId.atLoad, ProjectId.withLibrarySlot, Projects.length_modify]
    exact made
  unfold ProjectId.loadUpTo Work.loadWithin
  rw [noTypekits]
  refine ends_bind.2 (Work.ends_newLibrary made' _ _ _ _ ?_)
  have fresh : ((m.withLibrary d.name package.projectFile.parent
      ((m.atLoad name package s).project m).packages
      (some package) (m.atLoad name package s) made').project
        (m.atLoad name package s).projects.next) = _ :=
    (Store.project_withLibrary made' _).trans (if_pos rfl)
  cases d.typekit
  · exact ⟨congrArg Project.frozen fresh, congrArg Project.components fresh⟩
  · exact ⟨congrArg Project.frozen fresh, congrArg Project.components fresh⟩

/-- A library can be loaded if it and all libraries that can be reached from it are described and
plain. -/
theorem loadable_of_plain {m : ProjectId} {stack available : List String} {name : String}
    {s : Store} (hs : SoundScope m stack s) (hsuffices : Suffices m stack available s)
    (hstack : ∀ k ∈ stack, Relation.TransGen (s.ImportsLibrary m) k name)
    (plain : ∀ other, Relation.ReflTransGen (s.ImportsLibrary m) name other →
        ∃ d, s.Describes m other d ∧ IsPlain d) :
    Loadable m available name s := by
  induction hn : available.length using Nat.strongRecOn generalizing stack available name s with
  | ind n ih =>
    by_cases idle : (s.libraryState m).slot name = .unresolved
    · obtain ⟨d, describes, noTypekits, components⟩ := plain name .refl
      obtain ⟨package, text, found, isLibrary, read, parsed⟩ := describes
      have describes : s.Describes m name d := ⟨package, text, found, isLibrary, read, parsed⟩
      have mayLoad : name ∈ available :=
        hsuffices name (PackageMap.of_find found).1 (hs.notMem_of_unresolved idle)
      obtain ⟨begun, hst⟩ := hs.atLoad idle package
      have hsuffices' := (hsuffices.advances hst).erase name
      have reached := reached_of_describes hst describes hstack
      have bare : Ends (m.loadUpTo available name package d []) s
          (fun l t => (t.project l).frozen = false ∧ (t.project l).components = [])
          fun _ _ => False :=
        ends_loadUpTo_nil d package hs.made noTypekits
      refine .load found isLibrary read parsed
        (bare.mono (fun _ _ _ => trivial) fun _ _ h => h) ?_ ?_
      · intro before other after p t split run
        have used : other ∈ d.usedLibraries := split ▸ List.mem_append_right _ List.mem_cons_self
        have sound := ends_loadUpTo_sound d begun hsuffices' before fun other hother =>
          reached other (split ▸ List.mem_append_left _ hother)
        obtain ⟨ht, hst', -⟩ := sound.of_ok run
        have shorter : (available.erase name).length < n := by
          rw [List.length_erase_of_mem mayLoad, hn]
          exact Nat.sub_lt (hn ▸ List.length_pos_of_mem mayLoad) Nat.one_pos
        refine ih _ shorter ht (hsuffices'.advances hst') ?_ ?_ rfl
        · rw [hst'.imports]
          exact reached other used
        · rw [hst'.imports, hst.imports, hst'.describes, hst.describes]
          exact fun k hk => plain k (hk.head ⟨d, describes, used⟩)
      · intro p t run
        rcases components with none | ⟨noLibraries, leaf, one⟩
        · rw [none]
          trivial
        · rw [noLibraries] at run
          obtain ⟨isOpen, empty⟩ := bare.of_ok run
          rw [one]
          exact ends_bind.2 ((ends_replayComponent_bare isOpen empty leaf).mono
            (fun _ _ _ => trivial) fun _ _ h => h)
    · exact .begun idle

end LibraryImport

/-- Whether the packages which the import of a library into a scope comes to load can be loaded,
when all packages that the scope finds may be. -/
def Store.LibraryLoadable (s : Store) (m : ProjectId) (name : String) : Prop :=
  LibraryImport.Loadable m (s.packageMap (s.project m).packages).names name s

end Componentry
