import Componentry.Generation.Run
import Componentry.Proofs.Evolution
import Componentry.Proofs.FileChanges

/-!
# Files of a generation

A layout lists the paths to which the generation of a project writes: the files of the automatic
area, the templates, the user files, and the links with their directories. Generation makes no other
changes of files than those of its layout, whether it gives a value or fails, and leaves the
components and the names of projects as they are.
-/

namespace Componentry

open Files (Path Plan Tree reading)

namespace FileWriter

/-- The directory into which headers are linked. -/
def installDir (w : FileWriter) (name : String) : Path :=
  w.automaticDir.join name

/-- The paths of the links to headers. -/
def installed (w : FileWriter) (name : String) (targets : List Path) : List Path :=
  targets.map fun target => (w.installDir name).join target.name

end FileWriter

namespace Generation

/-- The paths to which generation writes. -/
structure Layout where
  automatic : List Path := []
  templates : List Path := []
  user : List Path := []
  /-- The directories of the links. -/
  directories : List Path := []
  links : List Path := []

namespace Layout

/-- The paths of two layouts. -/
def append (L M : Layout) : Layout where
  automatic := L.automatic ++ M.automatic
  templates := L.templates ++ M.templates
  user := L.user ++ M.user
  directories := L.directories ++ M.directories
  links := L.links ++ M.links

/-- The paths of several layouts. -/
def concat (Ls : List Layout) : Layout :=
  Ls.foldr append {}

/-- The plan of a layout. -/
def plan (L : Layout) : Plan where
  files := L.automatic ++ L.templates ++ L.user
  directories := L.directories
  links := L.links

/-- No path of a layout leads up, and none passes one of its links. -/
def Plain (L : Layout) : Prop :=
  (∀ p ∈ L.plan.paths ++ L.links.map Path.parent, ".." ∉ p.names) ∧
    ∀ l ∈ L.links, ∀ p ∈ L.plan.paths ++ L.links.map Path.parent, ¬l.names <+: p.names

/-- Whether a layout is plain is decided by going through its paths. -/
instance (L : Layout) : Decidable L.Plain :=
  inferInstanceAs (Decidable (_ ∧ _))

section Plain

variable {L : Layout} {t : Tree}

/-- Where there are no other links than those of a plain layout, its paths meet none. -/
theorem Plain.noLink (plain : L.Plain) (only : ∀ x, t.linkAt x ≠ none → ∃ l ∈ L.links, l.names = x)
    {p : Path} (hp : p ∈ L.plan.paths ++ L.links.map Path.parent) {q : Files.Place}
    (hq : q <+: p.names) : t.linkAt q = none := by
  by_contra linked
  obtain ⟨l, hl, rfl⟩ := only q linked
  exact plain.2 l hl p hp hq

/-- There, its paths are led to the places of their own names. -/
theorem Plain.reach (plain : L.Plain) (only : ∀ x, t.linkAt x ≠ none → ∃ l ∈ L.links, l.names = x)
    {p : Path} (hp : p ∈ L.plan.paths ++ L.links.map Path.parent) :
    t.reach p = some p.names ∧ ∀ x ∈ t.wayOf p, x <+: p.names :=
  Tree.reach_of_plain (plain.1 p hp) fun _ hq => plain.noLink only hp hq

/-- The links of a plain layout are at the places of their own names. -/
theorem Plain.reachLink (plain : L.Plain)
    (only : ∀ x, t.linkAt x ≠ none → ∃ l ∈ L.links, l.names = x) {l : Path} (hl : l ∈ L.links) :
    t.reachLink l = some l.names := by
  have parent : l.parent ∈ L.plan.paths ++ L.links.map Path.parent :=
    List.mem_append_right _ (List.mem_map_of_mem hl)
  have named : l.names ≠ [] := by
    intro empty
    refine plain.2 l hl _ parent ?_
    rw [empty]
    exact List.nil_prefix
  rw [Tree.reachLink, (plain.reach only parent).1, Path.name, List.getLast?_eq_some_getLast named]
  exact congrArg some (List.dropLast_append_getLast named)

/-- The links of a plain layout are on the way of none of its paths. -/
theorem Plain.linksAside (plain : L.Plain)
    (only : ∀ x, t.linkAt x ≠ none → ∃ l ∈ L.links, l.names = x) :
    L.plan.LinksAside t := by
  have clears (p : Path) (hp : p ∈ L.plan.paths ++ L.links.map Path.parent) :
      L.plan.Clears t p := by
    rintro x hx ⟨l, hl, reaches⟩
    rw [plain.reachLink only hl] at reaches
    obtain rfl : l.names = x := Option.some.inj reaches
    exact plain.2 l hl p hp ((plain.reach only hp).2 _ hx)
  exact ⟨fun p hp => clears p (List.mem_append_left _ hp),
    fun l hl => clears _ (List.mem_append_right _ (List.mem_map_of_mem hl))⟩

end Plain

end Layout

/-- The paths of the links to headers, with their directory, unless headers are not linked. -/
def linkLayout (w : FileWriter) (name : String) (targets : List Path) : Layout :=
  if w.links then { directories := [w.installDir name], links := w.installed name targets } else {}

/-- The paths of a component. -/
def componentLayout (w : FileWriter) (project basename : String) : Layout :=
  Layout.append
    { automatic :=
        [w.automaticPath ["tasks", basename ++ "Base.hpp"],
          w.automaticPath ["tasks", basename ++ "Base.cpp"]]
      templates :=
        [w.templatePath ["tasks", basename ++ ".hpp"], w.templatePath ["tasks", basename ++ ".cpp"]]
      user := [w.userPath ["tasks", basename ++ ".hpp"], w.userPath ["tasks", basename ++ ".cpp"]] }
    (linkLayout w (Text.lower project)
      [w.userPath ["tasks", basename ++ ".hpp"], w.automaticPath ["tasks", basename ++ "Base.hpp"]])

/-- The paths of the conversions of opaque types. -/
def conversionPaths (w : FileWriter) (k : Typekit) : List Path :=
  if k.opaques.isEmpty then []
  else [w.automaticPath ["typekit", "OpaqueConvertions.hpp"],
    w.automaticPath ["typekit", "OpaqueConvertions.cpp"]]

/-- The paths of a typekit. -/
def typekitLayout (w : FileWriter) (k : Typekit) : Layout :=
  Layout.append
    { automatic :=
        [w.automaticPath ["typekit", "Types.hpp"],
          w.automaticPath ["typekit", k.name ++ ".typelist"]] ++ conversionPaths w k }
    (linkLayout w (Text.lower k.name)
      (w.automaticPath ["typekit", "Types.hpp"] :: (conversionPaths w k).take 1))

/-- The paths of a project: those of its typekit and of its components. -/
def layout (s : Store) (p : ProjectId) (area : String) (links : Bool) : Layout :=
  let project := s.project p
  let w : FileWriter := { baseDir := project.baseDir, area, links }
  let typekit := project.typekit.toList.map fun id => typekitLayout w (s.typekit id)
  let components := project.components.map fun c =>
    componentLayout w (s.project (s.interface c).project).name (s.interface c).basename
  Layout.concat (typekit ++ components)

end Generation

/-- A header is linked into a directory. The link leads to where the path of the header is led at
the start, if no link is put on its way. -/
theorem Files.Change.ensures_linkInto {start : Tree} {W P : Plan} (aside : W.LinksAside start)
    (within : P.Within W) {directory target : Path} (hl : directory.join target.name ∈ P.links) :
    (altering start W P).Ensures (FileWriter.linkInto directory target) fun l t =>
      l = directory.join target.name ∧ ∃ x f, t.placeOfLink l = .ok x ∧
        t.get? x = some (.link ⟨"/", f⟩) ∧
        (W.Clears start target → start.reach target = some f) := by
  have makes : (altering start W P).Ensures (do
      makeLink (directory.join target.name) (← resolve target)
      return directory.join target.name) fun l t => l = directory.join target.name ∧
        ∃ x f, t.placeOfLink l = .ok x ∧ t.get? x = some (.link ⟨"/", f⟩) ∧
          (W.Clears start target → start.reach target = some f) := by
    intro t ht
    refine ends_bind.2 ((ends_resolve target t).mono ?_ ?_)
    · rintro _ _ ⟨rfl, f, reaches, rfl⟩
      refine ends_bind.2
        (((altering_makeLink aside within hl _ _ ht).and (ends_makeEntry _ _ _)).mono ?_ ?_)
      · rintro - _ ⟨change, x, hx, vacant, rfl⟩
        refine ⟨change, rfl, x, f, Tree.placeOfLink_put hx vacant _, ?_, fun clear => ?_⟩
        · have notRoot : x ≠ [] := by
            rintro rfl
            cases vacant
          rw [Tree.get?_put notRoot, if_pos rfl]
        · rw [← (ht.reach clear).1]
          exact reaches
      · exact fun _ _ h => h.1
    · rintro fault _ rfl
      exact ⟨ht, .refl P start _, trivial⟩
  refine (altering_of_reading (covers_isLink _)).ensures.bind fun isLink s _ hs => ?_
  refine (altering_of_reading (covers_isPresent _)).ensures.bind (fun isPresent s _ hs => ?_) s hs
  refine ends_ite.2 ⟨fun _ => ?_, fun _ => makes s hs⟩
  exact (altering_remove aside within hl).ensures.bind (fun _ t _ ht => makes t ht) s hs

/-- Lookups of types that are part of computations which may fail in any way. -/
def consulting : Effect Fault Store where
  holds := Declares.typing.holds
  change := DeclaresTypes
  fault _ := True
  refl := .refl
  trans := .trans

namespace Work

variable {α : Type}

/-- Declarations of types consult nothing. -/
theorem consulting_of_typing {x : Work α} (h : Declares.typing.Covers x) : consulting.Covers x :=
  fun s hs => (h s hs).mono (fun _ _ h => h) fun _ _ h => ⟨h.1, h.2.1, trivial⟩

/-- A computation without a state consults nothing. -/
theorem consulting_ofExcept (x : Except Fault α) : consulting.Covers (Work.ofExcept x) := by
  cases x with
  | ok a => exact Effect.covers_pure a
  | error fault => exact Effect.covers_throw trivial

end Work

namespace Generation

/-- What a member contributes is made up of lookups. -/
theorem consulting_memberContribution (c : ComponentId) (m : Member) :
    consulting.Covers (c.memberContribution m) := by
  match m with
  | .port p => exact Work.consulting_ofExcept _
  | .property s => exact Work.consulting_ofExcept _
  | .attribute s => exact Work.consulting_ofExcept _
  | .plain .. => exact Effect.covers_pure _
  | .operation o =>
    have numeric : consulting.Covers (c.numericArguments o) := by
      refine Effect.covers_mapM fun a _ => Effect.Covers.bind ?_ fun _ => Effect.covers_pure _
      exact Work.consulting_of_typing (c.typing_findType _)
    exact numeric.bind fun _ => Effect.covers_get.bind fun _ => Work.consulting_ofExcept _

/-- Besides lookups of types, the contributions to a component are computed from what is
declared. -/
theorem consulting_collect (c : ComponentId) : consulting.Covers c.collect := by
  refine Effect.covers_get.bind fun s => (Work.consulting_ofExcept _).bind fun implicit => ?_
  refine (Effect.covers_mapM fun m _ => consulting_memberContribution c m).bind fun members => ?_
  refine Effect.covers_get.bind fun t => ?_
  refine (Effect.covers_mapM fun e _ => Work.consulting_ofExcept _).bind fun extensions => ?_
  refine (Effect.covers_mapM fun h _ => Work.consulting_ofExcept _).bind fun handlers => ?_
  exact (Work.consulting_ofExcept _).bind fun _ => Effect.covers_pure _

end Generation

/-- What operations of a generation may do, given what they may do to files. The state is that in
which the generation starts. -/
def generating (start : Store) (F : Effect Fault Tree) : Effect Fault Store where
  holds s := Declares.typing.holds s ∧ F.holds s.files ∧ s.components = start.components ∧
    ∀ q, (s.project q).outline = (start.project q).outline
  change s t := F.change s.files t.files
  fault _ := True
  refl s := F.refl s.files
  trans := F.trans

/-- An effect on files that allows looking at files, and writing to the paths of a layout. -/
structure Generation.Permits (F : Effect Fault Tree) (L : Layout) : Prop where
  reads : ∀ {α : Type} {x : Files.Change α}, reading.Covers x → F.Covers x
  file : ∀ p ∈ L.automatic ++ L.templates, ∀ content, F.Covers (Files.Change.place p content)
  /-- A user file is written where there is none. -/
  user : ∀ p ∈ L.user, ∀ t, F.holds t → Ends (Files.Change.isPresent p) t
    (fun present _ => present = false → ∀ content, F.From t (Files.Change.place p content))
    fun _ _ => True
  directory : ∀ d ∈ L.directories, F.Covers (Files.Change.ensureDirectories d)
  link : ∀ directory target : Path, directory.join target.name ∈ L.links →
    F.Covers (FileWriter.linkInto directory target)

namespace Generation.Permits

variable {F : Effect Fault Tree} {L M : Layout}

/-- What permits both parts of a layout permits the first. -/
theorem left (h : Permits F (L.append M)) : Permits F L where
  reads := h.reads
  file p hp := by
    refine h.file p ?_
    rcases List.mem_append.1 hp with hp | hp
    · exact List.mem_append_left _ (List.mem_append_left _ hp)
    · exact List.mem_append_right _ (List.mem_append_left _ hp)
  user p hp := h.user p (List.mem_append_left _ hp)
  directory d hd := h.directory d (List.mem_append_left _ hd)
  link directory target hl := h.link directory target (List.mem_append_left _ hl)

/-- What permits both parts of a layout permits the second. -/
theorem right (h : Permits F (L.append M)) : Permits F M where
  reads := h.reads
  file p hp := by
    refine h.file p ?_
    rcases List.mem_append.1 hp with hp | hp
    · exact List.mem_append_left _ (List.mem_append_right _ hp)
    · exact List.mem_append_right _ (List.mem_append_right _ hp)
  user p hp := h.user p (List.mem_append_right _ hp)
  directory d hd := h.directory d (List.mem_append_right _ hd)
  link directory target hl := h.link directory target (List.mem_append_right _ hl)

/-- What permits all layouts of a list permits each. -/
theorem of_mem {Ls : List Layout} (h : Permits F (Layout.concat Ls)) (hL : L ∈ Ls) :
    Permits F L := by
  induction Ls with
  | nil => cases hL
  | cons M Ls ih =>
    rcases List.mem_cons.1 hL with rfl | hL
    · exact h.left
    · exact ih h.right hL

end Generation.Permits

namespace Work

variable {start : Store} {F : Effect Fault Tree} {α : Type}

/-- Lookups of types change no files, whichever faults arise. -/
theorem generating_of_consulting {x : Work α} (h : consulting.Covers x) :
    (generating start F).Covers x := by
  intro s ⟨hs, files, components, outline⟩
  have kept {t : Store} (ht : Declares.typing.holds t) (change : Declares.typing.change s t) :
      (generating start F).holds t ∧ (generating start F).change s t := by
    have frame := change.1.frame
    refine ⟨⟨ht, ?_, change.2.trans components, fun q => (frame.outline q).trans (outline q)⟩, ?_⟩
    · rw [frame.files]
      exact files
    · change F.change s.files t.files
      rw [frame.files]
      exact F.refl s.files
  refine (h s hs).mono ?_ ?_
  · exact fun a t ⟨ht, change⟩ => kept ht change
  · exact fun fault t ⟨ht, change, _⟩ => ⟨(kept ht change).1, (kept ht change).2, trivial⟩

/-- Declarations of types are made while files are generated. -/
theorem generating_of_typing {x : Work α} (h : Declares.typing.Covers x) :
    (generating start F).Covers x :=
  generating_of_consulting (consulting_of_typing h)

/-- A computation without a state is made while files are generated. -/
theorem generating_ofExcept (x : Except Fault α) : (generating start F).Covers (Work.ofExcept x) :=
  generating_of_consulting (consulting_ofExcept x)

/-- A message is logged while files are generated. -/
theorem generating_log (severity : Severity) (origin text : String) :
    (generating start F).Covers (Work.log severity origin text) :=
  generating_of_typing (typing_of_offline (offline_log severity origin text))

/-- An operation on files from one tree. -/
theorem ensures_onFiles_from {x : Files.Change α} {Q : α → Tree → Prop} {s : Store}
    (hs : (generating start F).holds s)
    (h : Ends x s.files (fun a t => (F.holds t ∧ F.change s.files t) ∧ Q a t)
        fun e t => F.holds t ∧ F.change s.files t ∧ F.fault e) :
    Ends (Work.onFiles x) s
      (fun a t => ((generating start F).holds t ∧ (generating start F).change s t) ∧ Q a t.files)
      fun e t => (generating start F).holds t ∧ (generating start F).change s t ∧
        (generating start F).fault e := by
  obtain ⟨settled, files, components, outline⟩ := hs
  refine ends_onFiles.2 (h.mono ?_ ?_)
  · exact fun a files' ⟨⟨hfiles, change⟩, ha⟩ =>
      ⟨⟨⟨settled, hfiles, components, outline⟩, change⟩, ha⟩
  · exact fun fault files' ⟨hfiles, change, _⟩ =>
      ⟨⟨settled, hfiles, components, outline⟩, change, trivial⟩

/-- What an operation on files ensures, it ensures while files are generated. -/
theorem ensures_onFiles {x : Files.Change α} {Q : α → Tree → Prop} (h : F.Ensures x Q) :
    (generating start F).Ensures (Work.onFiles x) fun a s => Q a s.files :=
  fun s hs => ensures_onFiles_from hs (h s.files hs.2.1)

/-- A permitted operation on files is made while files are generated. -/
theorem generating_onFiles {x : Files.Change α} (h : F.Covers x) :
    (generating start F).Covers (Work.onFiles x) :=
  (ensures_onFiles h.ensures).covers

end Work

namespace FileWriter

variable {start : Store} {F : Effect Fault Tree}

/-- What is ensured of a file that is written, is ensured of one of the automatic area. -/
theorem ensures_saveAutomatic (w : FileWriter) {parts : List String} {content : String}
    {Q : Tree → Prop}
    (h : F.Ensures (Files.Change.place (w.automaticPath parts) content.toUTF8) fun _ t => Q t) :
    (generating start F).Ensures (w.saveAutomatic parts content) fun path s =>
      path = w.automaticPath parts ∧ Q s.files := by
  refine (Work.ensures_onFiles h).bind fun _ s written hs => ?_
  exact ⟨⟨hs, F.refl s.files⟩, rfl, written⟩

/-- A file of the automatic area or a template is written where it has changed. -/
theorem generating_writeIfChanged {L : Generation.Layout} (permits : Generation.Permits F L)
    {path : Path} (hpath : path ∈ L.automatic ++ L.templates) (content : String) :
    (generating start F).Covers (writeIfChanged path content) := by
  have looks : (generating start F).Covers (isUpToDate path content) := by
    refine Work.generating_onFiles (permits.reads ?_)
    refine (Files.Change.covers_isFile path).bind fun present =>
      Effect.Covers.ite (fun _ => ?_) fun _ => ?_
    · exact (Files.Change.covers_readText path).bind fun text => Effect.covers_pure _
    · exact Effect.covers_pure _
  refine looks.bind fun upToDate =>
    Effect.Covers.ite (fun _ => Work.generating_log _ _ _) fun _ => ?_
  exact (Work.generating_onFiles (permits.file path hpath _)).bind fun _ =>
    Work.generating_log _ _ _

/-- A file of the user is written where there is none, and its template beside it. -/
theorem ensures_saveUser {L : Generation.Layout} (permits : Generation.Permits F L) (w : FileWriter)
    {parts : List String} (htemplate : w.templatePath parts ∈ L.templates)
    (hpath : w.userPath parts ∈ L.user) (content : String) :
    (generating start F).Ensures (w.saveUser parts content) fun path _ =>
      path = w.userPath parts := by
  have template : (generating start F).Covers (writeIfChanged (w.templatePath parts) content) :=
    generating_writeIfChanged permits (List.mem_append_right _ htemplate) content
  refine template.ensures.bind fun _ s _ hs => ?_
  have looks := (Files.Change.covers_isPresent (w.userPath parts) s.files trivial).and
    (permits.user _ hpath s.files hs.2.1)
  refine ends_bind.2 (Work.ends_onFiles.2 (looks.mono ?_ ?_))
  · rintro present files ⟨⟨-, rfl⟩, writes⟩
    refine ends_ite.2 ⟨fun _ => ?_, fun absent => ?_⟩
    · exact ⟨⟨hs, F.refl s.files⟩, rfl⟩
    · have written : F.From s.files (Files.Change.place (w.userPath parts) content.toUTF8) :=
        writes (by simpa using absent) _
      refine ends_bind.2
        ((Work.ensures_onFiles_from (Q := fun _ _ => True) hs (written.mono ?_ ?_)).mono ?_ ?_)
      · exact fun _ _ h => ⟨h, trivial⟩
      · exact fun _ _ h => h
      · exact fun _ t h => ⟨h.1, rfl⟩
      · exact fun _ _ h => h
  · rintro fault files ⟨⟨-, rfl, -⟩, -⟩
    exact ⟨hs, F.refl s.files, trivial⟩

/-- Headers are linked into a directory. -/
theorem generating_fakeInstall (w : FileWriter) {name : String} {targets : List Path}
    (permits : Generation.Permits F (Generation.linkLayout w name targets)) :
    (generating start F).Covers (w.fakeInstall name targets) := by
  refine Effect.Covers.ite (fun _ => Effect.covers_pure _) fun linked => ?_
  rw [Generation.linkLayout, if_pos (by simpa using linked)] at permits
  refine Work.generating_onFiles ((permits.directory _ List.mem_cons_self).bind fun _ => ?_)
  refine Effect.covers_mapM fun target htarget => ?_
  exact permits.link _ target (List.mem_map_of_mem htarget)

end FileWriter

namespace Generation

variable {start : Store} {F : Effect Fault Tree}

/-- A page is rendered while files are generated. -/
theorem generating_render (renderer : Renderer) (page : Page) :
    (generating start F).Covers (render renderer page) :=
  Effect.Covers.bind (fun s hs => ⟨hs, F.refl s.files⟩) fun _ => Effect.covers_pure _

/-- Warnings about constructors are logged while files are generated. -/
theorem generating_constructorWarnings {L : Layout} (permits : Permits F L) (c : ComponentId)
    (path : Path) :
    (generating start F).Covers (Validation.constructorWarnings c path) := by
  refine Effect.covers_get.bind fun s =>
    Effect.Covers.ite (fun _ => Effect.covers_pure _) fun _ => ?_
  refine (Work.generating_onFiles (permits.reads (Files.Change.covers_isFile path))).bind
    fun present => ?_
  refine Effect.Covers.ite (fun _ => Effect.covers_pure _) fun _ => ?_
  refine (Work.generating_onFiles (permits.reads (Files.Change.covers_readText path))).bind
    fun text => ?_
  exact Effect.covers_pure _

/-- The contributions to a component are collected without a change of files. -/
theorem generating_collect (c : ComponentId) : (generating start F).Covers c.collect :=
  Work.generating_of_consulting (consulting_collect c)

/-- The files of a component are written. -/
theorem generating_writeComponent (w : FileWriter) (renderer : Renderer) (c : ComponentId)
    (v : ComponentView) (permits : Permits F (componentLayout w v.projectName v.basename)) :
    (generating start F).Covers (writeComponent w renderer c v) := by
  have automatic (parts : List String) (hparts : w.automaticPath parts ∈
      [w.automaticPath ["tasks", v.basename ++ "Base.hpp"],
        w.automaticPath ["tasks", v.basename ++ "Base.cpp"]])
      (text : String) : (generating start F).Ensures (w.saveAutomatic parts text) fun path s =>
        path = w.automaticPath parts ∧ True :=
    w.ensures_saveAutomatic (permits.left.file _ (List.mem_append_left _ hparts) _).ensures
  refine (generating_render _ _).bind fun text => (automatic _ (by simp) text).covers_bind ?_
  rintro _ _ ⟨rfl, -⟩
  refine (generating_render _ _).bind fun text => (automatic _ (by simp) text).covers_bind ?_
  rintro _ _ ⟨rfl, -⟩
  refine (generating_render _ _).bind fun text => ?_
  refine (FileWriter.ensures_saveUser permits.left w (by simp) (by simp) text).covers_bind ?_
  rintro _ _ rfl
  refine (generating_render _ _).bind fun text => ?_
  refine (FileWriter.ensures_saveUser permits.left w (by simp) (by simp) text).covers_bind ?_
  rintro _ _ rfl
  refine (generating_constructorWarnings permits c _).bind fun sourceWarnings => ?_
  refine (generating_constructorWarnings permits c _).bind fun headerWarnings => ?_
  refine (Effect.covers_forM fun warning _ => Work.generating_log _ _ _).bind fun _ => ?_
  exact (w.generating_fakeInstall permits.right).bind fun _ => Effect.covers_pure _

end Generation

/-- Two states that differ in which declarations have ended only. -/
structure SameDeclarations (s t : Store) : Prop where
  files : t.files = s.files
  components : t.components = s.components
  project : ∀ q, { t.project q with frozen := false } = { s.project q with frozen := false }
  typekit : ∀ id, { t.typekit id with frozen := false } = { s.typekit id with frozen := false }
  settled : Declares.typing.holds s → Declares.typing.holds t

namespace SameDeclarations

variable {s t : Store}

/-- Freezing a project leaves its declarations. -/
theorem withFrozen (p : ProjectId) (s : Store) : SameDeclarations s (p.withFrozen s) where
  files := rfl
  components := rfl
  project q :=
    Projects.apply_modify (fun r => { r with frozen := false }) (fun _ => by rfl) s.projects p q
  typekit _ := rfl
  settled hs := Declares.settled_modify hs p (fun _ => rfl) fun _ => rfl

/-- Completing a typekit leaves the declarations. -/
theorem completeTypekit (id : TypekitId) (h : SameDeclarations s t) :
    SameDeclarations s (id.withFrozen t) where
  files := h.files
  components := h.components
  project := h.project
  typekit q := by
    rcases id.typekit_withFrozen t q with same | frozen
    · rw [same]
      exact h.typekit q
    · rw [frozen]
      exact h.typekit q
  settled := h.settled

/-- What does not depend on whether declarations have ended in a project. -/
theorem project_congr {β : Type} (h : SameDeclarations s t) (g : Project → β)
    (hg : ∀ q : Project, g { q with frozen := false } = g q) (p : ProjectId) :
    g (t.project p) = g (s.project p) := by
  rw [← hg, h.project, hg]

/-- The layout of a project is the same once declarations have ended. -/
theorem layout_eq (h : SameDeclarations s t) (p : ProjectId) (area : String) (links : Bool) :
    Generation.layout t p area links = Generation.layout s p area links := by
  have typekits (w : FileWriter) (id : TypekitId) :
      Generation.typekitLayout w (t.typekit id) = Generation.typekitLayout w (s.typekit id) := by
    change Generation.typekitLayout w { t.typekit id with frozen := false } = _
    rw [h.typekit]
    rfl
  have baseDir : (t.project p).baseDir = (s.project p).baseDir :=
    h.project_congr (·.baseDir) (fun _ => rfl) p
  have components : (t.project p).components = (s.project p).components :=
    h.project_congr (·.components) (fun _ => rfl) p
  have typekit : (t.project p).typekit = (s.project p).typekit :=
    h.project_congr (·.typekit) (fun _ => rfl) p
  have name (q : ProjectId) : (t.project q).name = (s.project q).name :=
    h.project_congr (·.name) (fun _ => rfl) q
  unfold Generation.layout Store.interface Store.component
  simp only [h.components, typekits, baseDir, components, typekit, name]

end SameDeclarations

/-- The end of declarations. -/
theorem ProjectId.ends_freeze (p : ProjectId) (s : Store) :
    Ends p.freeze s (fun _ t => SameDeclarations s t) fun _ _ => False := by
  have frozen := SameDeclarations.withFrozen p s
  exact p.ends_freeze_of (fun _ => frozen) fun id _ _ => frozen.completeTypekit id

/-- The typekit of a project that is not imported is at hand. -/
theorem ProjectId.typekit_of_main {p : ProjectId} {s : Store}
    (own : (s.project p).isImported = false) :
    p.typekit false s = .ok (s.project p).typekit s := by
  have ends : Ends (p.typekit false) s (fun id? t => id? = (s.project p).typekit ∧ t = s)
      fun _ _ => False := by
    refine ends_bind.2 (ends_get.2 (ends_ite.2 ⟨fun imported => ?_, fun _ => ?_⟩))
    · rw [own] at imported
      cases imported
    · cases (s.project p).typekit <;> exact ⟨rfl, rfl⟩
  obtain ⟨_, _, found, rfl, rfl⟩ := ends.exists_ok
  exact found

namespace Generation

variable {start : Store} {F : Effect Fault Tree}

/-- The pages of a typekit show a conversion for each of its marshalling rules. -/
theorem conversions_of_typekitView {s : Store} {p : ProjectId} {k : Typekit} {v : TypekitView}
    (h : typekitView s p k = .ok v) : v.conversions.isEmpty = k.opaques.isEmpty := by
  unfold typekitView at h
  cases hinterface : k.interfaceTypes (s.registry k.registry) with
  | error fault =>
    rw [hinterface] at h
    cases h
  | ok interface =>
    rw [hinterface] at h
    cases h
    exact List.isEmpty_map

/-- The files of a typekit are written. -/
theorem generating_writeTypekit (w : FileWriter) (renderer : Renderer) (k : Typekit)
    (v : TypekitView) (conversions : v.conversions.isEmpty = k.opaques.isEmpty)
    (permits : Permits F (typekitLayout w k)) :
    (generating start F).Covers (writeTypekit w renderer k v) := by
  have automatic (parts : List String) (hparts : w.automaticPath parts ∈
      [w.automaticPath ["typekit", "Types.hpp"],
        w.automaticPath ["typekit", k.name ++ ".typelist"]] ++
        conversionPaths w k) (text : String) :
      (generating start F).Ensures (w.saveAutomatic parts text) fun path s =>
        path = w.automaticPath parts ∧ True :=
    w.ensures_saveAutomatic (permits.left.file _ (List.mem_append_left _ hparts) _).ensures
  have converts : (generating start F).Ensures (writeConversions w renderer v) fun paths _ =>
      paths = conversionPaths w k := by
    unfold writeConversions
    cases isEmpty : k.opaques.isEmpty with
    | true =>
      rw [conversions, isEmpty, conversionPaths, isEmpty]
      exact fun s hs => ⟨⟨hs, F.refl s.files⟩, rfl⟩
    | false =>
      rw [conversions, isEmpty]
      have paths : conversionPaths w k = [w.automaticPath ["typekit", "OpaqueConvertions.hpp"],
          w.automaticPath ["typekit", "OpaqueConvertions.cpp"]] := by
        rw [conversionPaths, isEmpty]
        rfl
      rw [paths] at automatic ⊢
      refine (generating_render _ _).ensures.bind fun text s _ hs => ?_
      refine (automatic _ (by simp) text).bind (fun header t hheader ht => ?_) s hs
      obtain ⟨rfl, -⟩ := hheader
      refine (generating_render _ _).ensures.bind (fun text u _ hu => ?_) t ht
      refine (automatic _ (by simp) text).bind (fun source v hsource hv => ?_) u hu
      obtain ⟨rfl, -⟩ := hsource
      exact ⟨⟨hv, F.refl v.files⟩, rfl⟩
  refine (generating_render _ _).bind fun text => (automatic _ (by simp) text).covers_bind ?_
  rintro _ _ ⟨rfl, -⟩
  refine (Work.generating_ofExcept _).bind fun typelist =>
    (automatic _ (by simp) typelist).covers_bind ?_
  rintro _ _ ⟨rfl, -⟩
  refine converts.covers_bind ?_
  rintro _ _ rfl
  exact (w.generating_fakeInstall permits.right).bind fun _ => Effect.covers_pure _

end Generation

section Runs

variable {start : Store} {F : Effect Fault Tree}

/-- A component is generated. -/
theorem ComponentId.generating_generate (c : ComponentId) (w : FileWriter)
    (renderer : Generation.Renderer)
    (permits : Generation.Permits F (Generation.componentLayout w
        (start.project (start.interface c).project).name (start.interface c).basename)) :
    (generating start F).Covers (c.generate (some w) renderer) := by
  have interface {s : Store} (hs : (generating start F).holds s) :
      s.interface c = start.interface c := by
    rw [Store.interface, Store.component, hs.2.2.1]
    rfl
  have name {s : Store} (hs : (generating start F).holds s) (q : ProjectId) :
      (s.project q).name = (start.project q).name :=
    Project.congr_outline (hs.2.2.2 q) (·.name) fun _ => rfl
  refine Effect.covers_get.bind fun s =>
    Effect.Covers.ite (fun _ => Effect.covers_throw_bind trivial _) fun _ => ?_
  refine (Work.generating_log _ _ _).bind fun _ => ?_
  refine Effect.Covers.bind ?_ fun _ => (Generation.generating_collect c).bind fun k => ?_
  · exact Effect.covers_get.bind fun _ => (Work.generating_ofExcept _).map
  · refine Effect.covers_get_bind fun t ht => ?_
    refine ((Work.generating_ofExcept _).bind
      fun base => (Work.generating_ofExcept _).bind fun user => ?_) t ht
    refine Generation.generating_writeComponent w renderer c
      (Generation.componentView t c base user) ?_
    simp only [Generation.componentView, interface ht, name ht]
    exact permits

/-- The typekit of a project is generated. -/
theorem ProjectId.generating_generateTypekit (p : ProjectId) (w : FileWriter)
    (renderer : Generation.Renderer) (hs : (generating start F).holds start)
    (permits : ∀ id, (start.project p).typekit = some id →
        Generation.Permits F (Generation.typekitLayout w (start.typekit id))) :
    (generating start F).From start (p.generateTypekit (some w) renderer) := by
  refine ends_bind.2 ?_
  change Ends (if (start.project p).isImported then _ else _) start _ _
  refine ends_ite.2 ⟨fun _ => ⟨hs, F.refl start.files, trivial⟩, fun own => ?_⟩
  rw [Bool.not_eq_true] at own
  refine ends_bind.2 (ends_of_eq_ok (ProjectId.typekit_of_main own) ?_)
  cases htypekit : (start.project p).typekit with
  | none => exact ⟨hs, F.refl start.files⟩
  | some id =>
    refine ends_bind.2 ((Work.generating_log _ _ _).bind (fun _ => ?_) start hs)
    intro t ht
    refine ends_bind.2
      (Work.ends_ofExcept.2 ⟨fun v hv => ?_, fun fault _ => ⟨ht, F.refl t.files, trivial⟩⟩)
    have conversions := Generation.conversions_of_typekitView hv
    exact (Generation.generating_writeTypekit w renderer _ v conversions
      (permits id htypekit)).map t ht

/-- The typekit and the components of a project are generated. All components stay as they are. -/
theorem ProjectId.generating_generate (p : ProjectId) (area : String) (links : Bool)
    (renderer : Generation.Renderer) {s : Store} (settled : Declares.typing.holds s)
    (hs : F.holds s.files) (permits : Generation.Permits F (Generation.layout s p area links)) :
    Ends (p.generate area links renderer) s
      (fun _ t => Declares.typing.holds t ∧ F.holds t.files ∧ t.components = s.components)
      fun _ t => Declares.typing.holds t ∧ F.holds t.files ∧ t.components = s.components := by
  refine ends_bind.2 ((p.ends_freeze s).mono ?_ fun _ _ never => never.elim)
  intro _ start same
  rw [← same.layout_eq p area links] at permits
  have holds : (generating start F).holds start := by
    refine ⟨same.settled settled, ?_, rfl, fun _ => rfl⟩
    rw [same.files]
    exact hs
  have typekit (id : TypekitId) (h : (start.project p).typekit = some id) : Generation.Permits F
      (Generation.typekitLayout { baseDir := (start.project p).baseDir, area, links }
        (start.typekit id)) := by
    refine permits.of_mem (List.mem_append_left _ ?_)
    rw [h]
    exact List.mem_singleton.2 rfl
  have components (c : ComponentId) (hc : c ∈ (start.project p).components) : Generation.Permits F
      (Generation.componentLayout { baseDir := (start.project p).baseDir, area, links }
        (start.project (start.interface c).project).name (start.interface c).basename) :=
    permits.of_mem (List.mem_append_right _ (List.mem_map_of_mem hc))
  refine ends_bind.2 (ends_get.2 (Ends.mono (?_ : (generating start F).From start _) ?_ ?_))
  · refine (p.generating_generateTypekit _ renderer holds typekit).bind fun typekit t ht _ => ?_
    refine Effect.Covers.bind (Effect.covers_mapM fun c hc => ?_) (fun _ => ?_) t ht
    · exact c.generating_generate _ renderer (components c hc)
    · exact (Work.generating_log _ _ _).bind fun _ => Effect.covers_pure _
  · exact fun _ t ht => ⟨ht.1.1, ht.1.2.1, ht.1.2.2.1.trans same.components⟩
  · exact fun _ t ht => ⟨ht.1.1, ht.1.2.1, ht.1.2.2.1.trans same.components⟩

end Runs

end Componentry
