import Componentry.Proofs.Declarations
import Componentry.Proofs.InstalledPackages
import Componentry.Proofs.LibraryLoads
import Componentry.Proofs.WrittenDescriptions
import Mathlib.Tactic.FinCases

/-!
# Cycles of library imports

An import of a library fails as a cycle exactly when a cycle of imports can be reached from the
library, whatever the packages import and whatever was declared and imported before. When it gives
the library, each one that can be reached from it was loaded once, is complete, and is used after
those that it imports.
-/

namespace Componentry

open Declares

/-- A project of its own into which no library was imported so far. -/
structure NoLibraries (m : ProjectId) (s : Store) : Prop extends OwnScope m s where
  slots : (s.project m).librarySlots = []
  used : (s.project m).usedLibraries = []
  none : ∀ l, (s.project l).main ≠ some m

/-- A scope without libraries is sound. -/
theorem NoLibraries.sound {m : ProjectId} {s : Store} (h : NoLibraries m s) :
    SoundScope m [] s := by
  have slot (name : String) : (s.libraryState m).slot name = .unresolved := by
    change Project.slotOf (s.project m).librarySlots name = _
    rw [h.slots]
    rfl
  have used : (s.libraryState m).used = [] := h.used
  refine ⟨h.toOwnScope,
    ⟨fun name => ?_, fun name l => ?_, fun l => ?_, ?_, fun name l other hname => ?_⟩⟩
  · simp [slot]
  · rw [slot]
    exact iff_of_false (by simp) fun loaded => h.none l loaded.1
  · simp [slot, used]
  · rw [used]
    exact List.nodup_nil
  · rw [slot] at hname
    cases hname

/-- A call on a scope and its libraries. -/
inductive ScopeCall where
  | declare (d : Declaration)
  | useLibrary (name : String)

namespace ScopeCall

/-- Makes a call. -/
def run (m : ProjectId) : ScopeCall → Work Unit
  | declare d => d.run
  | useLibrary name => discard (m.usingLibrary name)

/-- The state after calls, each made after the one before has given a value or failed. -/
def runAll (m : ProjectId) (calls : List ScopeCall) (s : Store) : Store :=
  calls.foldl (fun s call => (call.run m).after s) s

end ScopeCall

/-- Of the packages that a scope finds, none is left out at the start of an import. -/
theorem LibraryImport.suffices_names (m : ProjectId) (s : Store) :
    Suffices m [] (s.packageMap (s.project m).packages).names s :=
  fun _ hn _ => hn

/-- How the import of a library into a scope ends. -/
theorem ends_usingLibrary {m : ProjectId} {s : Store} (hs : SoundScope m [] s) (name : String) :
    Ends (m.usingLibrary name) s
      (fun l t => SoundScope m [] t ∧ Advances m s t ∧ (t.libraryState m).slot name = .resolved l)
      fun fault t => SoundScope m [] t ∧ Advances m s t ∧
        (fault.isCycle = true → s.ReachesCycle m name) := by
  unfold ProjectId.usingLibrary Store.scope
  refine ends_bind.2 (ends_get.2 ?_)
  rw [(Store.scope_of_own hs.isMain)]
  exact LibraryImport.endsWell_all _ m m [] name s hs (Store.scope_of_own hs.isMain)
    (LibraryImport.suffices_names m s) (by simp)

/-- If the packages that it comes to load can be loaded, the import of a library fails in no other
way than as a cycle. -/
theorem ends_usingLibrary_of_loadable {m : ProjectId} {s : Store} (hs : SoundScope m [] s)
    {name : String} (loadable : s.LibraryLoadable m name) :
    Ends (m.usingLibrary name) s (fun _ _ => True) fun fault _ => fault.isCycle = true := by
  unfold ProjectId.usingLibrary Store.scope
  refine ends_bind.2 (ends_get.2 ?_)
  rw [(Store.scope_of_own hs.isMain)]
  exact LibraryImport.ends_usingLibraryWithin_of_loadable loadable hs (Store.scope_of_own hs.isMain)
    (LibraryImport.suffices_names m s) (by simp)

/-- After every call, no import of a library is under way. -/
theorem SoundScope.runAll {m : ProjectId} {s : Store} (hs : SoundScope m [] s)
    (calls : List ScopeCall) :
    SoundScope m [] (ScopeCall.runAll m calls s) := by
  induction calls generalizing s with
  | nil => exact hs
  | cons call calls ih =>
    refine ih (Work.after_of_ends (Q := SoundScope m []) ?_)
    cases call with
    | declare d =>
      refine (d.covers_run s hs.settled).mono ?_ ?_
      · exact fun _ t ⟨ht, hst⟩ => hs.of_frame hst.frame ht
      · exact fun _ t ⟨ht, hst, _⟩ => hs.of_frame hst.frame ht
    | useLibrary name =>
      exact ends_map.2 ((ends_usingLibrary hs name).mono (fun _ _ h => h.1) fun _ _ h => h.1)

/-- A library of a scope that was loaded once in the whole run, and is used after those that it
imports. -/
structure LoadedOnce (m : ProjectId) (name : String) (l : ProjectId) (s : Store) : Prop where
  loaded : s.Loaded m name l
  unique : ∀ l', s.Loaded m name l' → l' = l
  scope : s.projects.scope l = m
  used : (s.project m).usedLibraries.count l = 1
  afterImports : ∀ other, s.ImportsLibrary m name other →
    ∃ l', s.Loaded m other l' ∧
      (s.project m).usedLibraries.idxOf l' < (s.project m).usedLibraries.idxOf l

/-- A library whose import is complete was loaded once. -/
theorem SoundScope.loadedOnce {m : ProjectId} {s : Store} (hs : SoundScope m [] s) {name : String}
    {l : ProjectId} (h : (s.libraryState m).slot name = .resolved l) : LoadedOnce m name l s := by
  have loaded : s.Loaded m name l := (hs.sound.loaded name l).1 h
  refine ⟨loaded, fun l' hl' => ?_, ?_, ?_, fun other himports => ?_⟩
  · have same := (hs.sound.loaded name l').2 hl'
    rw [h] at same
    cases same
    rfl
  · exact Store.scope_of_imported loaded.1
  · exact List.count_eq_one_of_mem hs.sound.nodup ((hs.sound.used l).2 ⟨name, h⟩)
  · obtain ⟨l', hl', before⟩ := hs.sound.ordered name l other h himports
    exact ⟨l', (hs.sound.loaded other l').1 hl', before⟩

/-- How a scope stands between two calls, and how the import of a library into it ends. -/
structure ImportsExactly (m : ProjectId) (name : String) (s : Store) : Prop where
  /-- No import of a library is under way. -/
  idle : ∀ n, Project.slotOf (s.project m).librarySlots n ≠ .resolving
  complete : ∀ l ∈ (s.project m).usedLibraries, ∃ n, s.Loaded m n l
  /-- If the library is given, each one that can be reached from it was loaded once. -/
  given : ∀ l t, m.usingLibrary name s = .ok l t → ¬s.ReachesCycle m name ∧ LoadedOnce m name l t ∧
    ∀ other, Relation.ReflTransGen (s.ImportsLibrary m) name other → ∃ l', LoadedOnce m other l' t
  /-- If it fails as a cycle, one can be reached. -/
  cycle : ∀ k t, m.usingLibrary name s = .error (.importCycle k) t → s.ReachesCycle m name
  /-- If the packages can be loaded and no cycle can be reached, the library is given. -/
  returns : s.LibraryLoadable m name → ¬s.ReachesCycle m name →
    ∃ l t, m.usingLibrary name s = .ok l t
  /-- If the packages can be loaded and a cycle can be reached, the import fails as a cycle. -/
  fails : s.LibraryLoadable m name → s.ReachesCycle m name →
    ∃ k t, m.usingLibrary name s = .error (.importCycle k) t

/-- After any calls, the import of a library whose packages are found, read and parsed and make
their declarations fails as a cycle if one can be reached. Otherwise it gives a library from which
every library that can be reached was loaded once. -/
theorem usingLibrary_importsExactly {m : ProjectId} {start : Store} (fresh : NoLibraries m start)
    (calls : List ScopeCall) (name : String) :
    ImportsExactly m name (ScopeCall.runAll m calls start) := by
  have hs : SoundScope m [] (ScopeCall.runAll m calls start) := fresh.sound.runAll calls
  generalize ScopeCall.runAll m calls start = s at hs
  have ends := ends_usingLibrary hs name
  have given (l : ProjectId) (t : Store) (h : m.usingLibrary name s = .ok l t) :
      ¬s.ReachesCycle m name ∧ LoadedOnce m name l t ∧
        ∀ other, Relation.ReflTransGen (s.ImportsLibrary m) name other →
          ∃ l', LoadedOnce m other l' t := by
    obtain ⟨ht, hst, hslot⟩ := ends.of_ok h
    have reachable (other : String)
        (hreach : Relation.ReflTransGen (s.ImportsLibrary m) name other) :
        ∃ l', (t.libraryState m).slot other = .resolved l' := by
      rw [← hst.imports] at hreach
      exact ht.sound.resolved_of_reachable hslot hreach
    refine ⟨?_, ht.loadedOnce hslot, fun other hreach => ?_⟩
    · rintro ⟨other, hreach, hcycle⟩
      obtain ⟨l', hl'⟩ := reachable other hreach
      rw [← hst.imports] at hcycle
      exact ht.sound.acyclic hl' hcycle
    · obtain ⟨l', hl'⟩ := reachable other hreach
      exact ⟨l', ht.loadedOnce hl'⟩
  refine ⟨fun n hn => ?_, fun l hl => ?_, given, fun k t h => (ends.of_error h).2.2 rfl,
    fun loadable acyclic => ?_, fun loadable reaches => ?_⟩
  · exact absurd ((hs.sound.underWay n).1 hn) List.not_mem_nil
  · obtain ⟨n, hn⟩ := (hs.sound.used l).1 hl
    exact ⟨n, (hs.sound.loaded n l).1 hn⟩
  · have unfailing :=
      (ends.and (ends_usingLibrary_of_loadable hs loadable)).mono (fun _ _ _ => trivial)
      fun fault t ⟨⟨_, _, reaches⟩, cycle⟩ => acyclic (reaches cycle)
    obtain ⟨l, t, h, -⟩ := unfailing.exists_ok
    exact ⟨l, t, h⟩
  · cases h : m.usingLibrary name s with
    | ok l t => exact absurd reaches (given l t h).1
    | error fault t =>
      obtain ⟨k, rfl⟩ := Fault.of_isCycle ((ends_usingLibrary_of_loadable hs loadable).of_error h)
      exact ⟨k, t, rfl⟩

/-- Into a project of its own that was just made, no library was imported. -/
theorem noLibraries_withMain {s : Store} (hs : declaring.holds s) (name : String)
    (baseDir : Files.Path) (packages : PackageMapId) (package : Option Package) :
    NoLibraries s.projects.next (s.withMain name baseDir packages package) := by
  have project := s.project_withMain name baseDir packages package
  refine ⟨⟨?_, ?_, fun q n => ?_, fun q => ?_⟩, ?_, ?_, fun l hl => ?_⟩
  · simp [Store.withMain, Projects.push, Projects.next]
  · rw [project, if_pos rfl]
  · rw [project]
    split
    · simp [Project.slotOf]
    · exact hs.1 q n
  · rw [project]
    split
    · simp
    · exact hs.2 q
  · rw [project, if_pos rfl]
  · rw [project, if_pos rfl]
  · rw [project] at hl
    split at hl
    · cases hl
    · rw [Store.project, ← Projects.main?_eq] at hl
      have after : s.projects.next.index < l.index := Projects.main?_lt hl
      have absent : s.projects.main? l = none := by
        rw [Projects.main?, List.getElem?_eq_none (Nat.le_of_lt after)]
        rfl
      rw [absent] at hl
      cases hl

/-- A library of which the name, the libraries that it uses and the names of its components are
told. -/
structure BareLibrary where
  name : String
  used : List String
  components : List String

namespace BareLibrary

/-- The description of such a library. -/
def description (b : BareLibrary) : Description.Project :=
  { name := b.name, usedLibraries := b.used, components := b.components.map fun name => { name } }

/-- A document of such a library. -/
def text (b : BareLibrary) : String :=
  let used := ", ".intercalate b.used
  let components :=
    if b.components = [] then " []\n"
      else "\n" ++ String.join (b.components.map fun name => s!"- name: {name}\n")
  s!"name: {b.name}\nusing-task-libraries: [{used}]\ntasks:" ++ components

/-- The token of a name or key. -/
def word (text : String) : Yaml.Token :=
  .scalar text.toList true

/-- The tokens of the document. -/
def tokens (b : BareLibrary) : List Yaml.Token :=
  let used := ((b.used.map fun name => [word name]).intersperse [.flowEntry]).flatten
  let components :=
    if b.components = [] then [.flowSequenceStart, .flowSequenceEnd]
    else b.components.flatMap fun name =>
      [.blockEntry, .blockMappingStart, .key, word "name", .value, word name, .blockEnd]
  [.blockMappingStart, .key, word "name", .value, word b.name,
    .key, word "using-task-libraries", .value, .flowSequenceStart] ++ used ++ [.flowSequenceEnd,
    .key, word "tasks", .value] ++ components ++ [.blockEnd]

/-- The node of a name or key. -/
def leaf (text : String) : Yaml.Node :=
  .scalar .text text.toList

/-- The node of the document. -/
def node (b : BareLibrary) : Yaml.Node :=
  .mapping .mapping none [
    (leaf "name", leaf b.name),
    (leaf "using-task-libraries", .sequence .sequence none (b.used.map leaf)),
    (leaf "tasks", .sequence .sequence none
      (b.components.map fun name => .mapping .mapping none [(leaf "name", leaf name)]))]

/-- The value of the document. -/
def value (b : BareLibrary) : Yaml.Value :=
  .dict [(.text "name", .text b.name), (.text "using-task-libraries", .list (b.used.map .text)),
    (.text "tasks", .list (b.components.map fun name => .dict [(.text "name", .text name)]))]

end BareLibrary

/-- Four libraries: `b` uses no other and is used by `a`; `c` uses `a` and `d`, and `d` uses `c`. -/
def tangledLibraries : List BareLibrary :=
  [⟨"a", ["b"], []⟩, ⟨"b", [], ["Task"]⟩, ⟨"c", ["a", "d"], []⟩, ⟨"d", ["c"], []⟩]

/-- Their documents are parsed. -/
theorem parse_tangledLibraries {b : BareLibrary} (mem : b ∈ tangledLibraries) (label : String) :
    Description.Project.parse label b.text = .ok b.description := by
  have legible : ∀ b ∈ tangledLibraries, b.text.toList.all Yaml.isYamlChar = true := by
    decide +kernel
  have scanned : ∀ b ∈ tangledLibraries,
      Yaml.Scan.runFor 40 { cursor := .start b.text.toList } = some b.tokens.toArray := by
        decide +kernel
  have composed : Yaml.Node.ofTokens b.tokens = .ok (some b.node) := by
    fin_cases mem <;> with_unfolding_all rfl
  have built : (Yaml.Value.ofNode (Yaml.Value.unroll 6 [] b.node)).toExcept = .ok b.value := by
    simp only [BareLibrary.node, Yaml.Value.unroll, Yaml.Value.unrollEntries]
    fin_cases mem <;> simp only [List.map, BareLibrary.leaf, Yaml.Value.unroll,
      Yaml.Value.unrollEntries, Yaml.Value.unrollItems, Yaml.Value.ofNode, Yaml.Value.ofItems,
      Yaml.Value.ofMapping, Yaml.Value.mergesWell, Yaml.Value.ofEntries, Yaml.Value.ofMerged,
      Yaml.Value.ofOwn, Yaml.Value.isCollection] <;> rfl
  rw [Description.Project.parse,
    Yaml.Value.parse_of_tokens (legible b mem) (scanned b mem) composed built]
  fin_cases mem <;> with_unfolding_all rfl

/-- The packages of these libraries. -/
def tangledPackages : Store where
  files := ⟨tangledLibraries.flatMap fun b =>
    [([b.name], .directory), ([b.name, "taskgen.yaml"], .file b.text.toUTF8)]⟩
  packageMaps := [⟨tangledLibraries.map fun b => (b.name, ⟨"/", [b.name]⟩)⟩]

/-- A new project that finds these packages. -/
def tangledScope : Store :=
  tangledPackages.withMain "app" ⟨"/", []⟩ ⟨0⟩ none

/-- The new project finds each of the libraries as it is described. -/
theorem describes_tangledScope {b : BareLibrary} (mem : b ∈ tangledLibraries) :
    tangledScope.Describes ⟨0⟩ b.name b.description := by
  have solid : tangledScope.files.Solid [b.name] := by
    refine (Files.Tree.Solid.root _).down ?_ ?_ ?_ <;> revert b <;> decide +kernel
  have directory : tangledScope.files.LeadsTo ⟨"/", [b.name]⟩ (some .directory) :=
    .directory solid (by clear solid; revert b; decide +kernel)
  have file : tangledScope.files.LeadsTo (Package.atPath b.name ⟨"/", [b.name]⟩).projectFile
      (some (.file b.text.toUTF8)) := by
    refine .inside "taskgen.yaml" solid ?_ ?_ ?_ ?_ ?_ (by simp) (by simp) <;>
      clear solid directory <;> revert b <;> decide +kernel
  have unified : ∀ b ∈ tangledLibraries, Text.unified b.text = b.text := by decide +kernel
  have read := file.readText
  rw [unified b mem] at read
  have entry : ∀ b ∈ tangledLibraries,
      (tangledScope.packageMap (tangledScope.project ⟨0⟩).packages).entries.lookup
      b.name = some ⟨"/", [b.name]⟩ := by decide +kernel
  exact ⟨_, b.text, PackageMap.find_of_leadsTo (entry b mem) directory, file.isFile, read,
    parse_tangledLibraries mem _⟩

/-- What the libraries use is what they import. -/
theorem importsLibrary_tangledScope {b : BareLibrary} (mem : b ∈ tangledLibraries)
    (other : String) :
    tangledScope.ImportsLibrary ⟨0⟩ b.name other ↔ other ∈ b.used := by
  refine ⟨fun ⟨d, describes, used⟩ => ?_,
    fun used => ⟨b.description, describes_tangledScope mem, used⟩⟩
  rw [describes.unique (describes_tangledScope mem)] at used
  exact used

/-- As far as imports into the new project have come, each of the libraries can be loaded. -/
theorem libraryLoadable_tangledScope {s : Store} (hs : SoundScope ⟨0⟩ [] s)
    (hst : Advances ⟨0⟩ tangledScope s) {b : BareLibrary} (mem : b ∈ tangledLibraries) :
    s.LibraryLoadable ⟨0⟩ b.name := by
  refine LibraryImport.loadable_of_plain hs (LibraryImport.suffices_names _ s) (by simp)
    fun other reach => ?_
  rw [hst.imports] at reach
  rw [hst.describes]
  have known : ∃ b ∈ tangledLibraries, b.name = other := by
    induction reach with
    | refl => exact ⟨b, mem, rfl⟩
    | tail _ imports ih =>
      obtain ⟨b, mem, rfl⟩ := ih
      have closed :
          ∀ b ∈ tangledLibraries, ∀ other ∈ b.used, ∃ b ∈ tangledLibraries, b.name = other := by
        decide
      exact closed b mem _ ((importsLibrary_tangledScope mem _).1 imports)
  obtain ⟨b, mem, rfl⟩ := known
  refine ⟨b.description, describes_tangledScope mem, rfl, ?_⟩
  fin_cases mem
  · exact .inl rfl
  · exact .inr ⟨rfl, "Task", rfl⟩
  · exact .inl rfl
  · exact .inl rfl

/-- The library `a` reaches no cycle: it imports `b` only, which imports nothing. -/
theorem not_reachesCycle_tangledScope : ¬tangledScope.ReachesCycle ⟨0⟩ "a" := by
  have ofA (other : String) (step : tangledScope.ImportsLibrary ⟨0⟩ "a" other) : other = "b" := by
    have used := (importsLibrary_tangledScope (b := ⟨"a", ["b"], []⟩)
      (by simp [tangledLibraries]) other).1 step
    exact List.mem_singleton.1 used
  have ofB (other : String) : ¬tangledScope.ImportsLibrary ⟨0⟩ "b" other := by
    intro step
    have used := (importsLibrary_tangledScope (b := ⟨"b", [], ["Task"]⟩)
      (by simp [tangledLibraries]) other).1 step
    cases used
  have alone {other : String}
      (reach : Relation.ReflTransGen (tangledScope.ImportsLibrary ⟨0⟩) "b" other) :
      other = "b" := by
    rcases reach.cases_head with same | ⟨_, step, -⟩
    · exact same.symm
    · exact absurd step (ofB _)
  rintro ⟨other, reach, cycle⟩
  obtain ⟨next, step, back⟩ := Relation.TransGen.head'_iff.1 cycle
  rcases reach.cases_head with rfl | ⟨_, first, reach⟩
  · obtain rfl := ofA next step
    exact absurd (alone back) (by decide)
  · obtain rfl := ofA _ first
    obtain rfl := alone reach
    exact ofB next step

/-- The library `c` imports itself through `d`. -/
theorem reachesCycle_tangledScope : tangledScope.ReachesCycle ⟨0⟩ "c" := by
  have toD : tangledScope.ImportsLibrary ⟨0⟩ "c" "d" :=
    (importsLibrary_tangledScope (b := ⟨"c", ["a", "d"], []⟩) (by simp [tangledLibraries]) "d").2
      (by simp)
  have toC : tangledScope.ImportsLibrary ⟨0⟩ "d" "c" :=
    (importsLibrary_tangledScope (b := ⟨"d", ["c"], []⟩) (by simp [tangledLibraries]) "c").2
      (by simp)
  exact ⟨"c", .refl, .tail (.single toD) toC⟩

/-- The import of `a` gives a library, and loads `b`. After it, the import of `c` fails as a
cycle. -/
theorem importsExactly_tangledScope :
    NoLibraries ⟨0⟩ tangledScope ∧
      ∃ l t, ProjectId.usingLibrary ⟨0⟩ "a" tangledScope = .ok l t ∧ LoadedOnce ⟨0⟩ "a" l t ∧
        (∃ l', LoadedOnce ⟨0⟩ "b" l' t) ∧
        ∃ k u, ProjectId.usingLibrary ⟨0⟩ "c" t = .error (.importCycle k) u := by
  have fresh : NoLibraries ⟨0⟩ tangledScope :=
    noLibraries_withMain (s := tangledPackages) (settled_of_empty rfl) "app" ⟨"/", []⟩ ⟨0⟩ none
  have imports : tangledScope.ImportsLibrary ⟨0⟩ "a" "b" :=
    (importsLibrary_tangledScope (b := ⟨"a", ["b"], []⟩) (by simp [tangledLibraries]) "b").2
      (by simp)
  have first := usingLibrary_importsExactly fresh [] "a"
  obtain ⟨l, t, run⟩ := first.returns
    (libraryLoadable_tangledScope (b := ⟨"a", ["b"], []⟩) fresh.sound (.refl _ _)
      (by simp [tangledLibraries])) not_reachesCycle_tangledScope
  obtain ⟨-, once, others⟩ := first.given l t run
  obtain ⟨ht, hst, -⟩ := (ends_usingLibrary fresh.sound "a").of_ok run
  have after : ScopeCall.runAll ⟨0⟩ [.useLibrary "a"] tangledScope = t :=
    Work.after_of_ends (Q := (· = t)) (ends_map.2 (ends_of_eq_ok run rfl))
  have second := usingLibrary_importsExactly fresh [.useLibrary "a"] "c"
  rw [after] at second
  have loadable :=
    libraryLoadable_tangledScope (b := ⟨"c", ["a", "d"], []⟩) ht hst (by simp [tangledLibraries])
  refine ⟨fresh, l, t, run, once, others "b" (.single imports), second.fails loadable ?_⟩
  rw [hst.reachesCycle]
  exact reachesCycle_tangledScope

end Componentry
