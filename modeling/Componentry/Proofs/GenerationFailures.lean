import Componentry.Proofs.Collecting
import Componentry.Proofs.GeneratedFiles
import Componentry.Proofs.OwnTypekits
import Componentry.Proofs.UserFiles

/-!
# Failed generations

All that the files of a component are made of is computed before the first of them is written: what
extensions, handlers and deferred code contribute, and all checks. After that only operations on
files can fail. So a generation that fails for any other reason has left the files as they were. A
typekit is written in between of its computations, but none of these fails for a project that is not
imported, since its typekit is consistent in every state that is reached. States are reached by
calls, by generations, which may fail as well, and by changes of files from outside.
-/

namespace Componentry

open Files (Path Tree)

/-- Faults of operations on files are none of the model. -/
theorem Fault.isModelFault_of_isFileFault {fault : Fault} (h : fault.isFileFault) :
    fault.isModelFault = false := by
  cases fault <;> first | rfl | cases h

namespace Files

/-- Operations on files, which may change any of them. -/
def operating : Effect Fault Tree where
  holds _ := True
  change _ _ := True
  fault fault := fault.isFileFault = true
  refl _ := trivial
  trans _ _ := trivial

namespace Change

/-- An operation on files may fail as operations on files do. -/
theorem operating_faults (fault : Fault) (h : fault.isFileFault) : operating.fault fault := h

/-- An operation that checks its path, and changes the entry at the place to which the path
leads. -/
theorem operating_entry {p : Path} {f : Tree → Except Reason Place} {g : Tree → Place → Change Unit}
    (h : ∀ t x, operating.Covers (g t x)) : operating.Covers (do
      if p.hasNul then throw .pathWithNul
      let t ← get
      let place ← found p (f t)
      g t place) := by
  refine Effect.Covers.ite (fun _ => Effect.covers_throw_bind rfl _) fun _ => ?_
  exact Effect.covers_get.bind fun t => (within_found operating_faults p _).bind fun x => h t x

/-- Any tree may be left by an operation on files. -/
theorem operating_set (t : Tree) : operating.Covers (set t) :=
  fun _ _ => ⟨trivial, trivial⟩

/-- An entry is made, whatever it is, as an operation on files. -/
theorem operating_makeEntry (p : Path) (entry : Entry) : operating.Covers (makeEntry p entry) := by
  refine operating_entry fun t x => ?_
  split
  · exact within_fail operating_faults _ p
  · exact operating_set _

/-- A removal is an operation on files. -/
theorem operating_remove (p : Path) : operating.Covers (remove p) := by
  refine operating_entry fun t x => ?_
  split
  · exact within_fail operating_faults _ p
  · exact within_fail operating_faults _ p
  · exact operating_set _

/-- The directories above a path are made by operations on files. -/
theorem operating_ensureDirectories (p : Path) : operating.Covers (ensureDirectories p) :=
  covers_ensureDirectories (fun _ => True) (fun _ => id)
    (fun p _ => operating_makeEntry p .directory)
    (fun p _ => within_isDirectory operating_faults p) trivial

/-- Bytes are written by an operation on files. -/
theorem operating_writeBytes (p : Path) (content : ByteArray) :
    operating.Covers (writeBytes p content) := by
  refine Effect.Covers.ite (fun _ => Effect.covers_throw_bind rfl _) fun _ => ?_
  refine Effect.covers_get.bind fun t => (within_found operating_faults p _).bind fun found => ?_
  split
  · exact within_fail operating_faults _ p
  · exact fun _ _ => ⟨trivial, trivial⟩

/-- A file is put in place by operations on files. -/
theorem operating_place (p : Path) (content : ByteArray) : operating.Covers (place p content) :=
  (operating_ensureDirectories p.parent).bind fun _ => operating_writeBytes p content

/-- A path is resolved by an operation on files. -/
theorem operating_resolve (p : Path) : operating.Covers (resolve p) := by
  refine Effect.Covers.ite (fun _ => Effect.covers_throw_bind rfl _) fun _ =>
    Effect.covers_get.bind fun t => ?_
  split
  · exact Effect.covers_pure _
  · exact Effect.covers_throw rfl

/-- A link is put into a directory by operations on files. -/
theorem operating_linkInto (directory target : Path) :
    operating.Covers (FileWriter.linkInto directory target) := by
  have makes : operating.Covers (do
      makeLink (directory.join target.name) (← resolve target)
      return directory.join target.name) :=
    (operating_resolve target).bind fun _ =>
      (operating_makeEntry _ _).bind fun _ => Effect.covers_pure _
  refine (within_isLink operating_faults _).bind fun isLink => ?_
  refine (within_isPresent operating_faults _).bind fun isPresent => ?_
  exact Effect.Covers.ite (fun _ => (operating_remove _).bind fun _ => makes) fun _ => makes

end Change

end Files

/-- Two states that differ in files, in the log and in the pages that were rendered only. -/
def Store.SameModel (s t : Store) : Prop :=
  ∃ files log rendered, t = { s with files, log, rendered }

/-- What is done to write files: it fails only as operations on files fail, and leaves the model as
it is. -/
def writing : Effect Fault Store where
  holds _ := True
  change := Store.SameModel
  fault fault := fault.isFileFault = true
  refl s := ⟨s.files, s.log, s.rendered, rfl⟩
  trans := by
    rintro s _ _ ⟨_, _, _, rfl⟩ ⟨files, log, rendered, rfl⟩
    exact ⟨files, log, rendered, rfl⟩

namespace Work

/-- A message in the log writes no more than the log. -/
theorem writing_log (severity : Severity) (origin text : String) :
    writing.Covers (Work.log severity origin text) :=
  fun s _ => ⟨trivial, s.files, _, s.rendered, rfl⟩

/-- An operation on files writes no more than the files. -/
theorem writing_onFiles {α : Type} {x : Files.Change α} (h : Files.operating.Covers x) :
    writing.Covers (Work.onFiles x) :=
  fun s _ => ends_onFiles.2
    ((h s.files trivial).mono (fun _ files _ => ⟨trivial, files, s.log, s.rendered, rfl⟩)
    fun _ files ⟨_, _, ofFiles⟩ => ⟨trivial, ⟨files, s.log, s.rendered, rfl⟩, ofFiles⟩)

end Work

open Files.Change

namespace FileWriter

/-- A file is written together with a message in the log. -/
theorem writing_writeFile (path : Path) (content : String) :
    writing.Covers (writeFile path content) :=
  Work.writing_onFiles (operating_place path _)

/-- A file of the automatic area is written to the files and to the log. -/
theorem writing_saveAutomatic (w : FileWriter) (parts : List String) (content : String) :
    writing.Covers (w.saveAutomatic parts content) :=
  (writing_writeFile _ _).bind fun _ => (Work.writing_log _ _ _).bind fun _ => Effect.covers_pure _

/-- Whether a file is up to date is found without a change. -/
theorem writing_isUpToDate (path : Path) (content : String) :
    writing.Covers (isUpToDate path content) := by
  refine Work.writing_onFiles ((within_isFile operating_faults path).bind fun present => ?_)
  refine Effect.Covers.ite (fun _ => ?_) fun _ => Effect.covers_pure _
  exact (within_readText operating_faults path).bind fun _ => Effect.covers_pure _

/-- A file that has changed is written to the files and to the log. -/
theorem writing_writeIfChanged (path : Path) (content : String) :
    writing.Covers (writeIfChanged path content) := by
  refine (writing_isUpToDate path content).bind fun upToDate => ?_
  refine Effect.Covers.ite (fun _ => Work.writing_log _ _ _) fun _ => ?_
  exact (writing_writeFile _ _).bind fun _ => Work.writing_log _ _ _

/-- A file of the user area and its template are written to the files and to the log. -/
theorem writing_saveUser (w : FileWriter) (parts : List String) (content : String) :
    writing.Covers (w.saveUser parts content) := by
  refine (writing_writeIfChanged _ _).bind fun _ => ?_
  refine (Work.writing_onFiles (within_isPresent operating_faults _)).bind fun present => ?_
  refine Effect.Covers.ite (fun _ => (Work.writing_log _ _ _).bind fun _ => Effect.covers_pure _)
    fun _ => ?_
  exact (writing_writeFile _ _).bind fun _ =>
    (Work.writing_log _ _ _).bind fun _ => Effect.covers_pure _

/-- Links that stand for an installation are written to the files and to the log. -/
theorem writing_fakeInstall (w : FileWriter) (name : String) (targets : List Path) :
    writing.Covers (w.fakeInstall name targets) := by
  refine Effect.Covers.ite (fun _ => Effect.covers_pure _) fun _ => Work.writing_onFiles ?_
  exact (operating_ensureDirectories _).bind fun _ =>
    Effect.covers_mapM fun target _ => operating_linkInto _ target

end FileWriter

namespace Generation

/-- A page that is rendered is added to those rendered before. -/
theorem writing_render (renderer : Renderer) (page : Page) :
    writing.Covers (render renderer page) :=
  Effect.Covers.bind (fun s _ => ⟨trivial, s.files, s.log, _, rfl⟩) fun _ => Effect.covers_pure _

/-- Warnings about constructors are written to the log. -/
theorem writing_constructorWarnings (c : ComponentId) (path : Path) :
    writing.Covers (Validation.constructorWarnings c path) := by
  refine Effect.covers_get.bind fun s =>
    Effect.Covers.ite (fun _ => Effect.covers_pure _) fun _ => ?_
  refine (Work.writing_onFiles (within_isFile operating_faults path)).bind fun present => ?_
  refine Effect.Covers.ite (fun _ => Effect.covers_pure _) fun _ => ?_
  exact (Work.writing_onFiles (within_readText operating_faults path)).bind
    fun _ => Effect.covers_pure _

/-- While the files of a component are written, only operations on files fail. -/
theorem writing_writeComponent (w : FileWriter) (renderer : Renderer) (c : ComponentId)
    (v : ComponentView) :
    writing.Covers (writeComponent w renderer c v) := by
  refine (writing_render _ _).bind fun _ => (w.writing_saveAutomatic _ _).bind fun baseHeader => ?_
  refine (writing_render _ _).bind fun _ => (w.writing_saveAutomatic _ _).bind fun baseSource => ?_
  refine (writing_render _ _).bind fun _ => (w.writing_saveUser _ _).bind fun userHeader => ?_
  refine (writing_render _ _).bind fun _ => (w.writing_saveUser _ _).bind fun userSource => ?_
  refine (writing_constructorWarnings c _).bind fun sourceWarnings => ?_
  refine (writing_constructorWarnings c _).bind fun headerWarnings => ?_
  refine (Effect.covers_forM fun warning _ => Work.writing_log _ _ _).bind fun _ => ?_
  exact (w.writing_fakeInstall _ _).bind fun _ => Effect.covers_pure _

/-- The files with conversions are rendered and written. -/
theorem writing_writeConversions (w : FileWriter) (renderer : Renderer) (v : TypekitView) :
    writing.Covers (writeConversions w renderer v) := by
  refine Effect.Covers.ite (fun _ => Effect.covers_pure _) fun _ => ?_
  refine (writing_render _ _).bind fun _ => (w.writing_saveAutomatic _ _).bind fun header => ?_
  exact (writing_render _ _).bind fun _ =>
    (w.writing_saveAutomatic _ _).bind fun source => Effect.covers_pure _

/-- While the files of a typekit are written, only operations on files fail, if its typelist has a
text. -/
theorem writing_writeTypekit (w : FileWriter) (renderer : Renderer) (k : Typekit) (v : TypekitView)
    {text : String} (serialized : k.types.serialize = .ok text) :
    writing.Covers (writeTypekit w renderer k v) := by
  refine (writing_render _ _).bind fun _ => (w.writing_saveAutomatic _ _).bind fun typesHeader => ?_
  rw [serialized]
  refine (Effect.covers_pure text).bind fun _ =>
    (w.writing_saveAutomatic _ _).bind fun typelist => ?_
  refine (writing_writeConversions w renderer v).bind fun conversions => ?_
  exact (w.writing_fakeInstall _ _).bind fun _ => Effect.covers_pure _

/-- The pages of a typekit can be made if the definitions of its interface types can be had. -/
theorem exists_typekitView {s : Store} {p : ProjectId} {k : Typekit} {types : List TypeDef}
    (interface : k.interfaceTypes (s.registry k.registry) = .ok types) :
    ∃ v, typekitView s p k = .ok v := by
  unfold typekitView
  rw [interface]
  exact ⟨_, rfl⟩

end Generation

/-- The generation of the typekit of a project that is not imported fails only as operations on
files fail. -/
theorem ProjectId.writing_generateTypekit {p : ProjectId} {s : Store}
    (isMain : (s.project p).isImported = false) (typekits : OwnTypekits s)
    (writer : Option FileWriter) (renderer : Generation.Renderer) :
    writing.From s (p.generateTypekit writer renderer) := by
  refine ends_bind.2 (ends_get.2 (ends_ite.2 ⟨fun imported => ?_, fun _ => ?_⟩))
  · rw [isMain] at imported
    cases imported
  · refine ends_bind.2 (ends_of_eq_ok (ProjectId.typekit_of_main isMain) ?_)
    split
    · exact Effect.covers_pure _ s trivial
    · rename_i id own
      obtain ⟨-, -, registry, consistent⟩ := typekits.builds p id own
      rw [← registry] at consistent
      obtain ⟨-, types, interface, -⟩ := consistent.exists_exportedTypes
      obtain ⟨v, shown⟩ := Generation.exists_typekitView (p := p) interface
      have serialized := Typelist.serialize_of_subset consistent.interface
      have viewed : writing.Covers (Work.ofExcept (Generation.typekitView s p (s.typekit id))) := by
        rw [shown]
        exact Effect.covers_pure v
      refine ends_bind.2 (ends_get.2 ?_)
      exact ((Work.writing_log _ _ _).bind fun _ => viewed.bind fun _ =>
        (Generation.writing_writeTypekit _ _ _ _ serialized).map) s trivial

namespace ComponentId

/-- What is computed before the files of a component are written: where they are written, and what
their pages show. Here extensions, handlers and deferred code are run. -/
def prepare (c : ComponentId) (writer : Option FileWriter) :
    Work (FileWriter × Generation.ComponentView) := do
  let i := (← get).interface c
  if i.isExternal then throw (.importedComponent i.name)
  Work.log .info "taskgen.generation.tasks" s!"generating {i.name}"
  c.checkOpaques
  let k ← c.collect
  let s ← get
  let base ← Work.ofExcept (Generation.baseClass s c k)
  let user ← Work.ofExcept (Generation.userClass s c k)
  return (writer.getD (Generation.defaultWriter s i.project),
    Generation.componentView s c base user)

/-- The files of a component are written after all that they are made of has been computed. -/
theorem generate_eq (c : ComponentId) (writer : Option FileWriter)
    (renderer : Generation.Renderer) :
    c.generate writer renderer = c.prepare writer >>= fun (w, v) =>
      Generation.writeComponent w renderer c v := by
  unfold generate prepare
  simp only [bind_assoc]
  congr 1
  funext s
  split
  · rfl
  · simp

/-- Before the files of a component are written, types are looked up at most. -/
theorem consulting_prepare (c : ComponentId) (writer : Option FileWriter) :
    consulting.Covers (c.prepare writer) := by
  refine Effect.covers_get.bind fun s =>
    Effect.Covers.ite (fun _ => Effect.covers_throw_bind trivial _) fun _ => ?_
  refine (Work.consulting_of_typing (Work.typing_of_offline (Work.offline_log _ _ _))).bind
    fun _ => ?_
  refine (Effect.covers_get.bind fun _ => (Work.consulting_ofExcept _).map).bind fun _ => ?_
  refine (Generation.consulting_collect c).bind fun k => Effect.covers_get.bind fun t => ?_
  refine (Work.consulting_ofExcept _).bind fun base =>
    (Work.consulting_ofExcept _).bind fun user => ?_
  exact Effect.covers_pure _

end ComponentId

/-- What events may do: they leave no import of a typekit under way, and the typekits that projects
build consistent. -/
def sound : Effect Fault Store where
  holds s := Declares.declaring.holds s ∧ OwnTypekits s
  change _ _ := True
  fault _ := True
  refl _ := trivial
  trans _ _ := trivial

namespace Work

variable {α : Type} {x : Work α}

/-- What evolves a state takes a sound state to a sound one. -/
theorem sound_of_evolving (h : evolving.Covers x) : sound.Covers x :=
  fun s ⟨settled, typekits⟩ =>
    (h s settled).mono (fun _ _ ⟨ht, steps⟩ => ⟨⟨ht, typekits.evolves steps⟩, trivial⟩)
    fun _ _ ⟨ht, steps, _⟩ => ⟨⟨ht, typekits.evolves steps⟩, trivial, trivial⟩

/-- What consults extensions takes a sound state to a sound one. -/
theorem sound_of_consulting (h : consulting.Covers x) : sound.Covers x :=
  sound_of_evolving fun s hs => (h s hs).mono (fun _ _ ⟨ht, change⟩ => ⟨ht, change.1.evolves⟩)
    fun _ _ ⟨ht, change, _⟩ => ⟨ht, change.1.evolves, trivial⟩

/-- What writes files from a sound state leaves it sound. -/
theorem sound_of_writing_from {s : Store} (hs : sound.holds s) (h : writing.From s x) :
    sound.From s x := by
  have kept {t : Store} (change : s.SameModel t) : sound.holds t := by
    obtain ⟨_, _, _, rfl⟩ := change
    refine ⟨hs.1, hs.2.registries, fun p id own => ?_⟩
    obtain ⟨made, isMain, registry, consistent⟩ := hs.2.builds p id own
    exact ⟨made, isMain, registry, consistent⟩
  exact Ends.mono h (fun _ _ ⟨_, change⟩ => ⟨kept change, trivial⟩) fun _ _ ⟨_, change, _⟩ =>
    ⟨kept change, trivial, trivial⟩

/-- What writes files takes a sound state to a sound one. -/
theorem sound_of_writing (h : writing.Covers x) : sound.Covers x :=
  fun s hs => sound_of_writing_from hs (h s trivial)

end Work

/-- The generation of a component takes a sound state to a sound one, also where it fails. -/
theorem ComponentId.sound_generate (c : ComponentId) (writer : Option FileWriter)
    (renderer : Generation.Renderer) :
    sound.Covers (c.generate writer renderer) := by
  rw [c.generate_eq]
  refine (Work.sound_of_consulting (c.consulting_prepare writer)).bind fun _ => ?_
  exact Work.sound_of_writing (Generation.writing_writeComponent _ _ _ _)

/-- The generation of a typekit takes a sound state to a sound one, also where it fails. -/
theorem ProjectId.sound_generateTypekit (p : ProjectId) (writer : Option FileWriter)
    (renderer : Generation.Renderer) :
    sound.Covers (p.generateTypekit writer renderer) := by
  intro s hs
  cases imported : (s.project p).isImported with
  | true =>
    refine ends_bind.2 (ends_get.2 (ends_ite.2 ⟨fun _ => ?_, fun isMain => absurd imported isMain⟩))
    exact ends_bind.2 ⟨hs, trivial, trivial⟩
  | false =>
    exact Work.sound_of_writing_from hs (p.writing_generateTypekit imported hs.2 writer renderer)

/-- The generation of a project takes a sound state to a sound one, also where it fails. -/
theorem ProjectId.sound_generate (p : ProjectId) (area : String) (links : Bool)
    (renderer : Generation.Renderer) :
    sound.Covers (p.generate area links renderer) := by
  refine (Work.sound_of_evolving p.evolving_freeze).bind fun _ => Effect.covers_get.bind fun s => ?_
  refine (p.sound_generateTypekit _ renderer).bind fun typekit => ?_
  refine (Effect.covers_mapM fun c _ => c.sound_generate _ renderer).bind fun components => ?_
  exact (Work.sound_of_writing (Work.writing_log _ _ _)).bind fun _ => Effect.covers_pure _

/-- What happens in a session: one of its steps, or the generation of a typekit or a component by
itself. -/
inductive Event where
  | step (act : Act)
  | generateTypekit (p : ProjectId) (writer : Option FileWriter) (renderer : Generation.Renderer)
  | generateComponent (c : ComponentId) (writer : Option FileWriter)
    (renderer : Generation.Renderer)

namespace Event

/-- Does what happens. -/
def run : Event → Work Unit
  | step act => act.run
  | generateTypekit p writer renderer => discard (p.generateTypekit writer renderer)
  | generateComponent c writer renderer => discard (c.generate writer renderer)

/-- The state after events, each of which happens after the one before has given a value or
failed. -/
def runAll (events : List Event) (s : Store) : Store :=
  events.foldl (fun s event => event.run.after s) s

/-- An event takes a sound state to a sound one. -/
theorem sound_run (event : Event) : sound.Covers event.run := by
  cases event with
  | step act =>
    cases act with
    | call call => exact Work.sound_of_evolving call.covers_run
    | generate p area links renderer => exact (p.sound_generate area links renderer).map
    | edit files => exact Work.sound_of_writing fun s _ => ⟨trivial, files, s.log, s.rendered, rfl⟩
  | generateTypekit p writer renderer => exact (p.sound_generateTypekit writer renderer).map
  | generateComponent c writer renderer => exact (c.sound_generate writer renderer).map

/-- After any events, no import of a typekit is under way, and the typekits that projects build are
consistent. -/
theorem sound_runAll {s : Store} (hs : sound.holds s) (events : List Event) :
    sound.holds (runAll events s) :=
  (Effect.after_each sound_run events hs).1

end Event

namespace ComponentId

variable {c : ComponentId} {writer : Option FileWriter} {renderer : Generation.Renderer}
  {s t : Store} {fault : Fault}

/-- How a generation of a component fails. Either what its files are made of cannot be computed, and
no file is changed. Or all of it was computed, where no extension and no handler failed, and an
operation on files fails while they are written. -/
inductive GenerationFails (c : ComponentId) (writer : Option FileWriter)
    (renderer : Generation.Renderer) (s : Store) (fault : Fault) (t : Store) : Prop
  | preparing (failed : c.prepare writer s = .error fault t) (untouched : t.files = s.files)
  | writing {w : FileWriter} {v : Generation.ComponentView} {u : Store}
      (prepared : c.prepare writer s = .ok (w, v) u)
      (untouched : u.files = s.files) (plugins : c.PluginsSucceed s)
      (failed : Generation.writeComponent w renderer c v u = .error fault t)
        (ofFiles : fault.isFileFault)

/-- No file is changed before the files of a component are written, and by then its extensions and
handlers have made their contributions. -/
theorem ends_prepare (c : ComponentId) (writer : Option FileWriter) {s : Store}
    (settled : Declares.declaring.holds s) :
    Ends (c.prepare writer) s (fun _ t => t.files = s.files ∧ c.PluginsSucceed s) fun _ t =>
      t.files = s.files := by
  have plugins : Ends (c.prepare writer) s (fun _ _ => c.PluginsSucceed s) fun _ _ => True := by
    refine ends_bind.2 (ends_get.2 (ends_ite.2 ⟨fun _ => ends_bind.2 trivial, fun _ => ?_⟩))
    refine ends_bind.2 (ends_modify.2 (ends_bind.2 (ends_bind.2 (ends_get.2 (ends_map.2 ?_)))))
    refine Work.ends_ofExcept.2 ⟨fun _ _ => ends_bind.2 ?_, fun _ _ => trivial⟩
    refine Ends.mono (ends_collect_of c (s := { s with log := _ }) settled) ?_ fun _ _ _ => trivial
    rintro k t ⟨-, ⟨extensions, handlers⟩, -⟩
    exact (ends_trivial _ t).mono (fun _ _ _ => ⟨extensions, handlers⟩) fun _ _ _ => trivial
  refine ((c.consulting_prepare writer s settled).and plugins).mono ?_ ?_
  · exact fun _ t ⟨⟨_, change⟩, plugins⟩ => ⟨change.1.frame.files, plugins⟩
  · exact fun _ t ⟨⟨_, change, _⟩, _⟩ => change.1.frame.files

/-- How the generation of a component fails, from a settled state. -/
theorem ends_generate (c : ComponentId) (writer : Option FileWriter)
    (renderer : Generation.Renderer) {s : Store} (settled : Declares.declaring.holds s) :
    Ends (c.generate writer renderer) s (fun _ _ => True)
      (c.GenerationFails writer renderer s) := by
  rw [c.generate_eq]
  refine ends_bind.2 (ends_iff.2 ⟨fun (w, v) u prepared => ?_, fun fault t failed => ?_⟩)
  · obtain ⟨untouched, plugins⟩ := (c.ends_prepare writer settled).of_ok prepared
    refine ends_iff.2 ⟨fun _ _ _ => trivial, fun fault t failed => ?_⟩
    have ofFiles :=
      ((Generation.writing_writeComponent w renderer c v u trivial).of_error failed).2.2
    exact .writing prepared untouched plugins failed ofFiles
  · exact .preparing failed ((c.ends_prepare writer settled).of_error failed)

end ComponentId

/-- In every state that is reached, the generation of the typekit of a project that is not imported
fails only as operations on files fail. The generation of a component fails before any file is
changed, or while its files are written, where only operations on files fail. So no fault of the
model, and none of an extension, a handler or a deferred piece of code, leaves a component half
written. -/
theorem generation_failures (s₀ : Store) (noProjects : s₀.projects = .empty) (events : List Event) :
    let s := Event.runAll events s₀
    (∀ p writer renderer, (s.project p).isImported = false →
      Ends (ProjectId.generateTypekit p writer renderer) s
      (fun _ _ => True) fun fault _ => fault.isFileFault ∧ fault.isModelFault = false) ∧
    ∀ c writer renderer, Ends (ComponentId.generate c writer renderer) s (fun _ _ => True)
        fun fault t =>
      c.GenerationFails writer renderer s fault t ∧ (fault.isModelFault → t.files = s.files) := by
  intro s
  obtain ⟨settled, typekits⟩ : sound.holds s :=
    Event.sound_runAll ⟨settled_of_empty noProjects, .of_empty noProjects⟩ events
  refine ⟨fun p writer renderer isMain => ?_, fun c writer renderer => ?_⟩
  · refine Ends.mono (p.writing_generateTypekit isMain typekits writer renderer)
      (fun _ _ _ => trivial) ?_
    exact fun fault _ ⟨_, _, ofFiles⟩ => ⟨ofFiles, Fault.isModelFault_of_isFileFault ofFiles⟩
  · refine (c.ends_generate writer renderer settled).mono (fun _ _ _ => trivial)
      fun fault t fails => ⟨fails, fun ofModel => ?_⟩
    cases fails with
    | preparing _ untouched => exact untouched
    | writing _ _ _ _ ofFiles =>
      rw [Fault.isModelFault_of_isFileFault ofFiles] at ofModel
      cases ofModel

/-- A component has a hidden operation without a body. -/
def bodilessOperation : List Event :=
  [.step (.edit { entries := [(["kept"], .directory)] }),
    .step (.call (.newProject "tasks" ⟨"/", []⟩ ⟨0⟩ none none)),
    .step (.call (.declare (.declareComponent ⟨0⟩ "A" .framework none))),
    .step (.call (.declare (.declareHiddenOperation ⟨0⟩ "Go" none none none))),
    .generateTypekit ⟨0⟩ none fun _ => ""]

/-- The component cannot be generated, and no file is changed when that is tried. -/
theorem generation_failures_bodilessOperation :
    let s := Event.runAll bodilessOperation {}
    ({} : Store).projects = .empty ∧ (s.project ⟨0⟩).isImported = false ∧
      Ends (ProjectId.generateTypekit ⟨0⟩ none
        fun _ => "") s (fun _ _ => True) (fun fault _ => fault.isFileFault) ∧
      ∃ t, ComponentId.generate ⟨0⟩ none (fun _ => "") s = .error (.bodyMissing "tasks::A" "Go") t ∧
        t.files = s.files := by
  intro s
  obtain ⟨typekit, component⟩ := generation_failures {} rfl bodilessOperation
  have isMain : (s.project ⟨0⟩).isImported = false := by decide +kernel
  have fails : Ends (ComponentId.generate ⟨0⟩ none fun _ => "") s (fun _ _ => False)
      fun fault _ => fault = .bodyMissing "tasks::A" "Go" := by
    decide +kernel
  obtain ⟨_, t, failed, rfl⟩ := fails.exists_error
  refine ⟨rfl, isMain, (typekit ⟨0⟩ none _ isMain).mono (fun _ _ h => h) (fun _ _ h => h.1), t,
    failed, ?_⟩
  exact ((component ⟨0⟩ none _).of_error failed).2 rfl

end Componentry
