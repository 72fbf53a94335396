import Componentry.Proofs.BaseClassIncludes
import Componentry.Proofs.GeneratedPages
import Componentry.Proofs.Keeping
import Componentry.Proofs.QualifiedNames
import Componentry.Proofs.TypelistLines
import Componentry.Proofs.UserFiles

/-!
# Classes that are derived from

The class of a component is defined in the namespace of its project, by its name after the last
colons, and its header is linked into the directory of that project. A component that derives from
it asks for the class of its full name, and for the header in the directory that the full name
starts with. A component of a plain name is found in this way, and so is one whose name has that of
its project alone in front. With any other name in front the class is not the one that is defined,
and its header can be looked for in another directory than the one in which it is linked.
-/

namespace Componentry

open Files (Path)

/-- Characters without the separator stay together at the end of a text. -/
theorem Text.exists_splitAt_append {separator : Char} (cs : List Char) {ending : List Char}
    (h : separator ∉ ending) :
    ∃ pieces last, splitAt separator (cs ++ ending) = pieces ++ [last ++ ending] := by
  induction cs with
  | nil => exact ⟨[], [], splitAt_of_notMem h⟩
  | cons c cs ih =>
    obtain ⟨pieces, last, same⟩ := ih
    rw [List.cons_append, splitAt, same]
    split
    · exact ⟨[] :: pieces, last, rfl⟩
    · cases pieces with
      | nil => exact ⟨[], c :: last, rfl⟩
      | cons piece pieces => exact ⟨(c :: piece) :: pieces, last, rfl⟩

namespace Files.Path

/-- The names of a path that is written below another one follow those of that one. -/
theorem namesOf_append (above text : String) :
    namesOf (above ++ "/" ++ text) = namesOf above ++ namesOf text := by
  have pieces : (above ++ "/" ++ text).toList = above.toList ++ '/' :: text.toList := by simp
  simp only [namesOf, Text.split, pieces, Text.splitAt_append_cons, List.map_append,
    List.filter_append]

/-- Whether a text is one name, as a path. -/
def IsName (text : String) : Prop :=
  ofText text = ⟨"", [text]⟩

/-- Whether a text is a name is decided by its characters. -/
instance (text : String) : Decidable (IsName text) :=
  inferInstanceAs (Decidable (_ = _))

/-- A name is a relative path of one part. -/
theorem IsName.parts {text : String} (h : IsName text) : rootOf text = "" ∧ namesOf text = [text] :=
  Path.mk.inj h

/-- The names of a path are single names. -/
theorem isName_of_mem {text name : String} (h : name ∈ namesOf text) : IsName name := by
  obtain ⟨piece, kept⟩ := List.mem_filter.1 h
  obtain ⟨cs, mem, rfl⟩ := List.mem_map.1 piece
  have free : '/' ∉ cs := Text.notMem_of_mem_splitAt mem
  have relative : rootOf (String.ofList cs) = "" := by
    rw [rootOf]
    split <;> simp_all
  rw [IsName, ofText, relative, namesOf, Text.split, String.toList_ofList,
    Text.splitAt_of_notMem free]
  simpa using kept

/-- A text that ends in the ending of headers has a last name. -/
theorem namesOf_header_ne_nil (text : String) : namesOf (text ++ ".hpp") ≠ [] := by
  obtain ⟨pieces, last, same⟩ :=
    Text.exists_splitAt_append text.toList (show '/' ∉ ".hpp".toList by decide)
  have long (short : String) (h : short.length < 4) :
      String.ofList (last ++ ".hpp".toList) ≠ short := by
    intro equal
    have lengths : (last ++ ".hpp".toList).length = last.length + 4 := List.length_append
    rw [← equal, String.length_ofList] at h
    omega
  have kept : String.ofList (last ++ ".hpp".toList) ∈ namesOf (text ++ ".hpp") := by
    rw [namesOf, Text.split, String.toList_append, same, List.mem_filter]
    exact ⟨by simp, by rw [bne_iff_ne.2 (long "" (by decide)),
      bne_iff_ne.2 (long "." (by decide))]; rfl⟩
  exact List.ne_nil_of_mem kept

/-- A path to which a text is joined ends with the names of the text. -/
theorem names_join (p : Path) (text : String) :
    ∃ above, (p.join text).names = above ++ namesOf text := by
  rw [join, append]
  split
  · exact ⟨[], rfl⟩
  · exact ⟨p.names, rfl⟩

/-- The last name of a path is that of what is written last. -/
theorem name_join (p : Path) {text : String} (h : namesOf text ≠ []) :
    (p.join text).name = (namesOf text).getLast?.getD "" := by
  obtain ⟨above, same⟩ := names_join p text
  rw [name, same, List.getLast?_append_of_ne_nil _ h]

/-- A name is put behind the names of a path. -/
theorem join_of_isName (p : Path) {name : String} (h : IsName name) :
    p.join name = ⟨p.root, p.names ++ [name]⟩ := by
  rw [join, h, append]
  rfl

/-- A path is found by its last name in the directory in which it is, and in no other. -/
theorem eq_join_name_iff {p directory : Path} (named : p.names ≠ []) (single : IsName p.name) :
    p = directory.join p.name ↔ p.parent = directory := by
  have parts : p = ⟨p.root, p.names.dropLast ++ [p.name]⟩ := by
    rw [name, List.getLast?_eq_some_getLast named, Option.getD_some, List.dropLast_append_getLast]
  rw [join_of_isName directory single]
  constructor
  · intro same
    rw [parent, same]
    simp
  · intro same
    rw [← same]
    exact parts

/-- A text stands for a relative path unless it begins with a slash. -/
theorem rootOf_eq_empty_iff {text : String} : rootOf text = "" ↔ text.toList.head? ≠ some '/' := by
  rw [rootOf]
  split
  · simp_all
  · simp_all
  · simp_all
  · rename_i other
    refine iff_of_true rfl fun slash => ?_
    obtain ⟨rest, same⟩ := List.head?_eq_some_iff.1 slash
    exact other rest same

/-- A path that starts with a single name leads below the directory from which it is seen. -/
theorem join_below (p : Path) {above : String} (single : IsName above) (text : String) :
    p.join (above ++ "/" ++ text) = ⟨p.root, p.names ++ above :: namesOf text⟩ := by
  obtain ⟨relative, names⟩ := single.parts
  have notEmpty : above.toList ≠ [] := by
    intro empty
    obtain rfl : above = "" := String.toList_eq_nil_iff.1 empty
    simp [namesOf, Text.split, Text.splitAt] at names
  have first : (above ++ "/" ++ text).toList.head? = above.toList.head? := by
    simp [List.head?_append_of_ne_nil _ notEmpty]
  have relative : rootOf (above ++ "/" ++ text) = "" := by
    rw [rootOf_eq_empty_iff, first]
    exact rootOf_eq_empty_iff.1 relative
  rw [join, ofText, relative, namesOf_append, names, append]
  rfl

end Files.Path

namespace FileWriter

/-- The link to the header of a class, in the directory of a project. -/
def headerLink (w : FileWriter) (project basename : String) : Path :=
  (w.installDir (Text.lower project)).join (w.userPath ["tasks", basename ++ ".hpp"]).name

end FileWriter

namespace Generation

/-- Whether a text has lines, in this order. -/
def HasLines (text : String) (lines : List String) : Prop :=
  ∃ all, text = ofLines all ∧ lines.Sublist all

/-- Whether a header opens a namespace and defines a class in it. -/
def Defines (text space name : String) : Prop :=
  HasLines text [s!"namespace {space} \x7b", s!"    class {name} : public {name}Base"]

/-- Whether a header includes another one and then derives the base class of a component. -/
def Derives (text name header superclass : String) : Prop :=
  HasLines text [s!"#include <{header}>", s!"    class {name}Base : public {superclass}"]

/-- The header of the user defines the class of the component. -/
theorem ComponentView.defines_userHeader (v : ComponentView) :
    Defines v.userHeader v.projectName v.basename := by
  refine ⟨_, rfl, ?_⟩
  iterate 2 apply List.sublist_append_of_sublist_left
  apply List.sublist_append_of_sublist_right
  iterate 3 apply List.Sublist.cons
  apply List.Sublist.cons_cons
  iterate 6 apply List.Sublist.cons
  exact List.Sublist.cons_cons _ (List.nil_sublist _)

/-- The header of the base class derives it from the class in the header that is included. -/
theorem ComponentView.derives_baseHeader (v : ComponentView) {header : String}
    (included : header ∈ v.base.includes) :
    Derives v.baseHeader v.basename header v.superclassName := by
  have line :
      s!"#include <{header}>" ∈ v.base.includes.map (fun header => s!"#include <{header}>") :=
    List.mem_map_of_mem included
  refine ⟨_, rfl, ?_⟩
  iterate 10 apply List.sublist_append_of_sublist_left
  refine (List.Sublist.append ?_ ?_ : List.Sublist ([_] ++ _) _)
  · iterate 4 apply List.sublist_append_of_sublist_left
    exact List.sublist_append_of_sublist_right (List.singleton_sublist.2 line)
  · exact List.Sublist.cons_cons _ (List.nil_sublist _)

end Generation

section Yields

variable {ε σ α β : Type}

/-- Whether what an operation gives has a property, in whichever state it starts. -/
abbrev Yields (x : EStateM ε σ α) (P : α → Prop) : Prop :=
  Keeps (fun _ => True) (fun _ => False) x fun a _ => P a

/-- Nothing is said of what any operation gives. -/
theorem yields_any (x : EStateM ε σ α) : Yields x fun _ => True :=
  fun s _ => (ends_trivial x s).mono (fun _ _ _ => ⟨trivial, trivial⟩) fun _ _ _ _ => trivial

/-- An operation on files gives the same in a run. -/
theorem Work.yields_onFiles {x : Files.Change α} {P : α → Prop} (h : Yields x P) :
    Yields (Work.onFiles x) P :=
  fun s _ => ends_onFiles.2 (h s.files trivial)

/-- A property that only speaks of what is given needs no state. -/
theorem Yields.ends {x : EStateM ε σ α} {P : α → Prop} (h : Yields x P) (s : σ) :
    Ends x s (fun a _ => P a) fun _ _ => True :=
  (h s trivial).mono (fun _ _ ha => ha.2) fun _ _ _ => trivial

variable {E : Effect ε σ} {R : ε → Prop} {x : EStateM ε σ α}

/-- An operation within an effect keeps its invariant where it gives a value, which it gives from
some state. -/
theorem Effect.Covers.keeps (h : E.Covers x) (never : ∀ e, ¬R e) :
    Keeps E.holds R x fun a t => ∃ s, x s = .ok a t :=
  fun s hs => ends_iff.2 ⟨fun _ _ given => ⟨((h s hs).of_ok given).1, s, given⟩,
    fun e _ _ he => absurd he (never e)⟩

end Yields

namespace FileWriter

variable (w : FileWriter)

/-- A link is made under the name of its target. -/
theorem yields_linkInto (directory target : Path) :
    Yields (linkInto directory target) (· = directory.join target.name) := by
  have makes : Yields (do
      Files.Change.makeLink (directory.join target.name) (← Files.Change.resolve target)
      return directory.join target.name) (· = directory.join target.name) :=
    (yields_any _).bind fun _ => (yields_any _).bind fun _ => keeps_pure fun _ _ => rfl
  refine (yields_any _).bind fun _ => (yields_any _).bind fun _ => ?_
  exact Keeps.ite (fun _ => (yields_any _).bind fun _ => makes) fun _ => makes

/-- What is linked into a directory. -/
theorem yields_fakeInstall (name : String) (targets : List Path) :
    Yields (w.fakeInstall name targets) (· = if w.links then w.installed name targets else []) := by
  unfold fakeInstall
  cases w.links with
  | false => exact keeps_pure fun _ _ => rfl
  | true =>
    have links :
        Yields (targets.mapM (linkInto (w.installDir name))) (· = w.installed name targets) := by
      refine (keeps_mapM fun target _ => yields_linkInto (w.installDir name) target).mono ?_
        fun _ h => h
      intro links _ _ each
      have same : List.Forall₂ Eq links (w.installed name targets) :=
        List.forall₂_map_right_iff.2 each.flip
      rwa [List.forall₂_eq_eq_eq] at same
    exact Work.yields_onFiles ((yields_any _).bind fun _ => links)

/-- A file of the automatic area is written under its path. -/
theorem yields_saveAutomatic (parts : List String) (content : String) :
    Yields (w.saveAutomatic parts content) (· = w.automaticPath parts) :=
  (yields_any _).bind fun _ => (yields_any _).bind fun _ => keeps_pure fun _ _ => rfl

/-- A file of the user is written under its path. -/
theorem yields_saveUser (parts : List String) (content : String) :
    Yields (w.saveUser parts content) (· = w.userPath parts) := by
  have last : Yields (pure (w.userPath parts) : Work Path) (· = w.userPath parts) :=
    keeps_pure fun _ _ => rfl
  refine (yields_any _).bind fun _ =>
    (yields_any _).bind fun _ => Keeps.ite (fun _ => ?_) fun _ => ?_
  · exact (yields_any _).bind fun _ => last
  · exact (yields_any _).bind fun _ => (yields_any _).bind fun _ => last

end FileWriter

section Run

open Generation (Renderer ComponentFiles ComponentView writeComponent)

variable {start : Store} {w : FileWriter} {renderer : Renderer}

/-- The header of a class and that of its base class are linked into the directory of the
project. -/
theorem Generation.yields_writeComponent (c : ComponentId) (v : ComponentView) :
    Yields (writeComponent w renderer c v) fun f => f.links = if w.links then
      w.installed (Text.lower v.projectName) [w.userPath ["tasks", v.basename ++ ".hpp"],
        w.automaticPath ["tasks", v.basename ++ "Base.hpp"]] else [] := by
  refine (yields_any _).bind fun _ => (w.yields_saveAutomatic _ _).bind_of ?_
  rintro _ s - rfl
  refine Keeps.bind (yields_any _) (fun _ => (yields_any _).bind fun _ => ?_) s trivial
  refine (yields_any _).bind fun _ => (w.yields_saveUser _ _).bind_of ?_
  rintro _ s - rfl
  refine Keeps.bind (yields_any _) (fun _ => (yields_any _).bind fun _ => ?_) s trivial
  refine (yields_any _).bind fun _ => (yields_any _).bind fun _ => (yields_any _).bind fun _ => ?_
  exact (w.yields_fakeInstall _ _).bind_of fun links s _ same => ⟨trivial, same⟩

/-- Whether the files of a component are those that are written for pages that show it. -/
def ComponentId.WrittenFor (c : ComponentId) (s : Store) (w : FileWriter) (renderer : Renderer)
    (v : ComponentView) (f : ComponentFiles) : Prop :=
  c.Shows s v ∧ ∃ t u, writeComponent w renderer c v t = .ok f u

/-- A generation that gives files has written them for a view of the component. -/
theorem ComponentId.keeps_generate (start : Store) (w : FileWriter) (renderer : Renderer)
    (c : ComponentId) :
    Keeps (generating start Files.unbounded).holds (fun _ => False) (c.generate (some w) renderer)
      fun f _ => ∃ v, c.WrittenFor start w renderer v f := by
  have checks : (generating start Files.unbounded).Covers c.checkOpaques :=
    Effect.covers_get.bind fun _ => (Work.generating_ofExcept _).map
  refine keeps_get.bind fun _ => Keeps.ite (fun _ => ?_) fun _ => ?_
  · exact (keeps_throw (Q := fun _ _ => False) _).bind_of fun _ _ _ never => never.elim
  refine ((Work.generating_log _ _ _).keeps (fun _ h => h)).bind fun _ =>
    (checks.keeps fun _ h => h).bind fun _ => ?_
  refine ((Generation.generating_collect c).keeps fun _ h => h).bind_of fun k u hu collected => ?_
  obtain ⟨t, collected⟩ := collected
  have pages : Keeps (generating start Files.unbounded).holds (fun _ => False) (do
      let base ← Work.ofExcept (Generation.baseClass u c k)
      let user ← Work.ofExcept (Generation.userClass u c k)
      writeComponent w renderer c (Generation.componentView u c base user)) fun f _ =>
        ∃ v, c.WrittenFor start w renderer v f := by
    refine (Work.keeps_ofExcept (P := (Generation.baseClass u c k = .ok ·)) fun _ h => h).bind_of
      fun base s hs hbase => ?_
    refine ((Work.keeps_ofExcept (P := (Generation.userClass u c k = .ok ·)) fun _ h => h).bind_of
      fun user s hs huser => ?_) s hs
    have writes : (generating start Files.unbounded).Covers (writeComponent w renderer c
        (Generation.componentView u c base user)) :=
        Generation.generating_writeComponent w renderer c _ (Files.permits_unbounded _)
    refine (writes.keeps (fun _ h => h)).mono (fun f _ _ written => ?_) (fun _ h => h) s hs
    exact ⟨_, ⟨t, k, u, base, user, collected, hu.2.2.1, hu.2.2.2, hbase, huser, rfl⟩, written.elim
      fun s h => ⟨s, _, h⟩⟩
  exact ends_bind.2 (ends_get.2 (pages u hu))

/-- The components of a project are generated one after the other, once its declarations have
ended. -/
theorem ProjectId.ends_generate_written (p : ProjectId) (area : String) (links : Bool) {s : Store}
    (settled : Declares.typing.holds s) :
    Ends (p.generate area links renderer) s (fun out _ => ∃ frozen, p.freeze s = .ok () frozen ∧
      List.Forall₂ (fun c f => ∃ v,
        c.WrittenFor frozen { baseDir := (s.project p).baseDir, area, links } renderer v f)
        (s.project p).components out.components) fun _ _ => True := by
  refine ends_bind.2 (ends_iff.2 ⟨fun _ frozen hfrozen => ?_, fun _ _ _ => trivial⟩)
  have same : SameDeclarations s frozen := (p.ends_freeze s).of_ok hfrozen
  have baseDir : (frozen.project p).baseDir = (s.project p).baseDir :=
    same.project_congr (·.baseDir) (fun _ => rfl) p
  have listed : (frozen.project p).components = (s.project p).components :=
    same.project_congr (·.components) (fun _ => rfl) p
  rw [← baseDir, ← listed]
  have holds : (generating frozen Files.unbounded).holds frozen :=
    ⟨same.settled settled, trivial, rfl, fun _ => rfl⟩
  let w : FileWriter := { baseDir := (frozen.project p).baseDir, area, links }
  have typekit := p.generating_generateTypekit w renderer holds fun _ _ => Files.permits_unbounded _
  refine ends_bind.2
    (ends_get.2 (typekit.ends_bind (fun _ _ _ _ _ => trivial) fun typekit t ht _ => ?_))
  have each := keeps_mapM fun c (_ : c ∈ (frozen.project p).components) =>
    c.keeps_generate frozen w renderer
  refine ends_bind.2 ((each t ht).mono ?_ fun _ _ _ => trivial)
  intro out u written
  refine ends_bind.2 ((ends_trivial _ u).mono (fun _ _ _ => ?_) fun _ _ _ => trivial)
  exact ends_pure.2 ⟨frozen, hfrozen, written.2⟩

variable {s : Store} {c d : ComponentId} {v : ComponentView}

/-- The pages of a component show the name of its project and its own. -/
theorem ComponentId.Shows.names (h : c.Shows s v) :
    v.projectName = (s.project (s.interface c).project).name ∧
      v.basename = (s.interface c).basename := by
  obtain ⟨t, k, u, base, user, -, components, outline, -, -, rfl⟩ := h
  have interface : u.interface c = s.interface c := by
    rw [Store.interface, Store.component, components]; rfl
  have name (q : ProjectId) : (u.project q).name = (s.project q).name :=
    Project.congr_outline (outline q) (·.name) fun _ => rfl
  rw [← interface, ← name]
  exact ⟨rfl, rfl⟩

/-- The base class of a component that derives from another includes the header of that one and
derives from the class of its full name. -/
theorem ComponentId.Shows.derives (h : d.Shows s v) (base : s.lineage.superclass? d = some c) :
    Generation.Derives v.baseHeader (s.interface d).basename (s.interface c).header
      (s.interface c).name := by
  obtain ⟨t, k, u, b, user, -, components, -, made, -, rfl⟩ := h
  have interface (e : ComponentId) : u.interface e = s.interface e := by
    rw [Store.interface, Store.component, components]; rfl
  have lineage : u.lineage = s.lineage := by rw [Store.lineage, components]; rfl
  have superclass : s.lineage.interface c = s.interface c := s.components.interface_lineage c
  have included := (Generation.baseClass_includes made).superclass
  rw [lineage, Lineage.superclassHeader, base] at included
  change (s.lineage.interface c).header ∈ b.includes at included
  have derives :=
    Generation.ComponentView.derives_baseHeader (Generation.componentView u d b user) included
  have class_ : (Generation.componentView u d b user).superclassName = (s.interface c).name := by
    change u.lineage.superclassName d = _
    rw [lineage, Lineage.superclassName, base, ← superclass]
  rw [class_, superclass] at derives
  rw [← interface d]
  exact derives

end Run

section Found

variable (i : Interface) (project : Project) (w : FileWriter)

/-- Whether the header that stands for a component is, below the automatic area, the link to the
header of its class. -/
def Interface.HeaderFound : Prop :=
  w.automaticDir.join i.header = w.headerLink project.name i.basename

/-- Whether the class that stands for a component is the one that its header defines in the
namespace of its project. -/
def Interface.ClassFound : Prop :=
  i.name = project.name ++ "::" ++ i.basename

/-- When the header and the class of a component are found by those that derive from it. -/
structure Interface.FoundExactly : Prop where
  /-- The header has the name of the link, so it is found exactly if its directory is. -/
  header : i.HeaderFound project w ↔
    (w.automaticDir.join i.header).parent = w.installDir (Text.lower project.name)
  /-- Where the parts of the name are names of files, the one in front has to be that of the
  project, up to its case. -/
  library : Path.IsName (Text.lower project.name) → Path.IsName (Text.lower i.library) →
    Path.IsName (i.basename ++ ".hpp") →
    (i.HeaderFound project w ↔ Text.lower i.library = Text.lower project.name)
  /-- The class is found exactly if the component is declared by a plain name, or by one with that
  of its project alone in front. -/
  className : ∀ name, i.name = project.qualify name → (i.ClassFound project ↔
    Interface.IsPlain name ∨ ∃ b, Interface.IsPlain b ∧ name = project.name ++ "::" ++ b)
  /-- Both are found under a plain name, in a project whose name has no colons and is that of a
  directory. -/
  plain : ∀ name, i.name = project.qualify name → Interface.IsPlain name →
    Interface.hasColons (project.name.toList ++ [':']) = false →
      Path.IsName (Text.lower project.name) →
    Path.IsName (i.basename ++ ".hpp") → i.HeaderFound project w ∧ i.ClassFound project

variable {i project w}

/-- The header of a component stands in the directory of its library. -/
theorem Interface.header_eq : i.header = Text.lower i.library ++ "/" ++ (i.basename ++ ".hpp") :=
  String.append_assoc

/-- The names of a header are those of its library and of its file. -/
theorem Interface.namesOf_header : Path.namesOf i.header =
    Path.namesOf (Text.lower i.library) ++ Path.namesOf (i.basename ++ ".hpp") := by
  rw [header_eq, Path.namesOf_append]

/-- The path of a header has names. -/
theorem Interface.namesOf_header_ne_nil (i : Interface) : Path.namesOf i.header ≠ [] := by
  simp [namesOf_header, Path.namesOf_header_ne_nil]

/-- The header is asked for by the name under which it is linked. -/
theorem Interface.name_header :
    (w.automaticDir.join i.header).name = (w.userPath ["tasks", i.basename ++ ".hpp"]).name := by
  have last : Path.namesOf (i.basename ++ ".hpp") ≠ [] := Path.namesOf_header_ne_nil _
  rw [FileWriter.userPath, Path.joinAll, List.foldl_cons, List.foldl_cons, List.foldl_nil,
    Path.name_join _ i.namesOf_header_ne_nil, Path.name_join _ last, namesOf_header,
    List.getLast?_append_of_ne_nil _ last]

/-- The name of a header is a single one. -/
theorem Interface.isName_header : Path.IsName (w.automaticDir.join i.header).name := by
  rw [Path.name_join _ i.namesOf_header_ne_nil,
    List.getLast?_eq_some_getLast i.namesOf_header_ne_nil, Option.getD_some]
  exact Path.isName_of_mem (List.getLast_mem _)

/-- A header is found if the directory of its library is the one into which links are put. -/
theorem Interface.headerFound_iff : i.HeaderFound project w ↔
    (w.automaticDir.join i.header).parent = w.installDir (Text.lower project.name) := by
  have named : (w.automaticDir.join i.header).names ≠ [] := by
    obtain ⟨above, same⟩ := Path.names_join w.automaticDir i.header
    rw [same]
    exact List.append_ne_nil_of_right_ne_nil above i.namesOf_header_ne_nil
  rw [HeaderFound, FileWriter.headerLink, ← i.name_header]
  exact Path.eq_join_name_iff named i.isName_header

/-- A header is found if library and project share their name up to case. -/
theorem Interface.headerFound_iff_library (directory : Path.IsName (Text.lower project.name))
    (library : Path.IsName (Text.lower i.library)) (file : Path.IsName (i.basename ++ ".hpp")) :
    i.HeaderFound project w ↔ Text.lower i.library = Text.lower project.name := by
  rw [headerFound_iff, header_eq, Path.join_below _ library, file.parts.2, FileWriter.installDir,
    Path.join_of_isName _ directory]
  simp [Path.parent]

/-- The header and the class of a component are found exactly under these names. -/
theorem Interface.foundExactly (i : Interface) (project : Project) (w : FileWriter) :
    i.FoundExactly project w where
  header := headerFound_iff
  library := headerFound_iff_library
  className _ declared := Project.qualify_eq_iff declared
  plain name declared plain colons directory file := by
    have found : i.ClassFound project := (Project.qualify_eq_iff declared).2 (.inl plain)
    have same : i.library = project.name := library_of_name colons found
    exact ⟨(headerFound_iff_library directory (same ▸ directory) file).2
      (congrArg Text.lower same), found⟩

end Found

/-- A generated component, which is given by its files, and what is generated for those that derive
from it. -/
structure ComponentId.Inherited (c : ComponentId) (s frozen : Store) (w : FileWriter)
    (renderer : Generation.Renderer) (f : Generation.ComponentFiles) : Prop where
  /-- The header that is written for it defines its class in the namespace of its project. -/
  defined : ∃ v, c.WrittenFor frozen w renderer v f ∧
    Generation.Defines v.userHeader (s.project (s.interface c).project).name
      (s.interface c).basename
  /-- The first link is the one to that header. -/
  linked : f.links.head? =
    some (w.headerLink (s.project (s.interface c).project).name (s.interface c).basename)
  /-- The base class of each that derives from it includes the header that stands for it, and
  derives from the class that stands for it. -/
  derived : ∀ d v, s.lineage.superclass? d = some c → d.Shows frozen v →
    Generation.Derives v.baseHeader (s.interface d).basename (s.interface c).header
      (s.interface c).name

/-- At any time of a session, a generation with links defines the class of each component in the
namespace of its project and links its header into the directory of the project, and components that
derive from it ask for the header and the class of its full name. These are the same for a component
of a plain name, and exactly under the conditions of `Interface.FoundExactly` for any other. -/
theorem derivedClasses_found (files : Files.Tree) (packageMaps : List PackageMap) (acts : List Act)
    (p : ProjectId) (area : String) (renderer : Generation.Renderer) :
    let s := Act.runAll acts { files, packageMaps }
    let w : FileWriter := { baseDir := (s.project p).baseDir, area, links := true }
    (∀ c, (s.interface c).FoundExactly (s.project (s.interface c).project) w) ∧
    Ends (p.generate area true renderer) s (fun out _ => ∃ frozen, p.freeze s = .ok () frozen ∧
      List.Forall₂ (fun c f => c.Inherited s frozen w renderer f)
        (s.project p).components out.components)
      fun _ _ => True := by
  intro s w
  have settled : Declares.typing.holds s := Act.settled_runAll (settled_of_empty rfl) acts
  refine ⟨fun c => (s.interface c).foundExactly _ w, ?_⟩
  refine (p.ends_generate_written area true settled).mono ?_ fun _ _ _ => trivial
  intro out _ h
  obtain ⟨frozen, hfrozen, each⟩ := h
  have same : SameDeclarations s frozen := (p.ends_freeze s).of_ok hfrozen
  have interface (c : ComponentId) : frozen.interface c = s.interface c := by
    rw [Store.interface, Store.component, same.components]; rfl
  have name (q : ProjectId) : (frozen.project q).name = (s.project q).name :=
    same.project_congr (·.name) (fun _ => rfl) q
  have lineage : frozen.lineage = s.lineage := by rw [Store.lineage, same.components]; rfl
  refine ⟨frozen, hfrozen, each.imp fun c f written => ?_⟩
  obtain ⟨v, written⟩ := written
  obtain ⟨project, basename⟩ := written.1.names
  rw [interface, name] at project
  rw [interface] at basename
  constructor
  · rw [← project, ← basename]
    exact ⟨v, written, Generation.ComponentView.defines_userHeader v⟩
  · obtain ⟨-, t, u, ran⟩ := written
    have links := ((Generation.yields_writeComponent c v).ends t).of_ok ran
    rw [← project, ← basename, links, if_pos rfl]
    rfl
  · intro d v base shows
    rw [← lineage] at base
    have derives := shows.derives base
    rwa [interface, interface] at derives

/-- A component is declared under a name with another one in front, and a component that derives
from it. -/
def foreignName : List Act := [
  .call (.newProject "app" ⟨"/", ["w"]⟩ ⟨0⟩ none none),
  .call (.declare (.declareComponent ⟨0⟩ "other::A" .framework none)),
  .call (.declare (.declareComponent ⟨0⟩ "B" (.given ⟨0⟩) none))]

/-- Neither the header nor the class of the first component is found, but those of the second are.
The project is generated: the header of the first component is linked in the directory of the
project, and the base class of the second one asks for another header and class. -/
theorem derivedClasses_found_foreignName :
    let s := Act.runAll foreignName {}
    let w : FileWriter := { baseDir := (s.project ⟨0⟩).baseDir, area := ".taskgen", links := true }
    (s.lineage.superclass? ⟨1⟩ = some ⟨0⟩ ∧
      ¬(s.interface ⟨0⟩).HeaderFound (s.project ⟨0⟩) w ∧
        ¬(s.interface ⟨0⟩).ClassFound (s.project ⟨0⟩) ∧
      (s.interface ⟨1⟩).HeaderFound (s.project ⟨0⟩) w ∧
        (s.interface ⟨1⟩).ClassFound (s.project ⟨0⟩)) ∧
    ∃ out t frozen f g v, ProjectId.generate ⟨0⟩ ".taskgen" true Generation.Page.text s =
      .ok out t ∧ out.components = [f, g] ∧ f.links.head? = some (w.headerLink "app" "A") ∧
      ComponentId.WrittenFor ⟨1⟩ frozen w Generation.Page.text v g ∧
      Generation.Derives v.baseHeader "B" "other/A.hpp" "other::A" := by
  intro s w
  obtain ⟨found, generates⟩ :=
    derivedClasses_found {} [] foreignName ⟨0⟩ ".taskgen" Generation.Page.text
  have homes : (s.interface ⟨0⟩).project = ⟨0⟩ ∧ (s.interface ⟨1⟩).project = ⟨0⟩ := by
    decide +kernel
  have base : s.lineage.superclass? ⟨1⟩ = some ⟨0⟩ := by decide +kernel
  have foreign := found ⟨0⟩
  have own := found ⟨1⟩
  rw [homes.1] at foreign
  rw [homes.2] at own
  have directory : Path.IsName (Text.lower (s.project ⟨0⟩).name) := by decide +kernel
  have elsewhere : ¬(s.interface ⟨0⟩).HeaderFound (s.project ⟨0⟩) w := by
    rw [foreign.library directory (by decide +kernel) (by decide +kernel)]
    decide +kernel
  have otherClass : ¬(s.interface ⟨0⟩).ClassFound (s.project ⟨0⟩) := by
    rw [Interface.ClassFound]
    decide +kernel
  refine ⟨⟨base, elsewhere, otherClass, own.plain "B" ?_ ?_ ?_ directory ?_⟩, ?_⟩
  · decide +kernel
  · decide
  · decide +kernel
  · decide +kernel
  have unfailing :
      Ends (ProjectId.generate ⟨0⟩ ".taskgen" true Generation.Page.text) s (fun _ _ => True)
      fun _ _ => False := by
    decide +kernel
  obtain ⟨out, t, run, -, frozen, -, each⟩ :=
    ((unfailing.and generates).mono (fun _ _ h => h) fun _ _ h => h.1).exists_ok
  have components : (s.project ⟨0⟩).components = [⟨0⟩, ⟨1⟩] := by decide +kernel
  have project : (s.project (s.interface ⟨0⟩).project).name = "app" := by decide +kernel
  have parts : (s.interface ⟨0⟩).basename = "A" ∧ (s.interface ⟨0⟩).header = "other/A.hpp" ∧
      (s.interface ⟨0⟩).name = "other::A" ∧ (s.interface ⟨1⟩).basename = "B" := by decide +kernel
  obtain ⟨basename, header, name, derived⟩ := parts
  rw [components] at each
  generalize files : out.components = fs at each
  cases each with
  | @cons _ f _ _ first rest =>
    cases rest with
    | @cons _ g _ _ second last =>
      cases last
      obtain ⟨v, written, -⟩ := second.defined
      have linked := first.linked
      have derives := first.derived ⟨1⟩ v base written.1
      rw [project, basename] at linked
      rw [header, name, derived] at derives
      exact ⟨out, t, frozen, f, g, v, run, files, linked, written, derives⟩

end Componentry
