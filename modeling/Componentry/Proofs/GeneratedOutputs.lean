import Componentry.Proofs.GeneratedPages
import Componentry.Proofs.UserFiles

/-!
# Generated files stay as they are generated

A generation that gives a value leaves each file of which it tells with the text that was made for
it, and each link with the header for which it was made, if the paths of its layout are separate,
the user files are not there when it starts, and its links can be followed. Without this, a link can
come into the place of a generated file, and two components can share one.
-/

namespace Componentry

open Files (Path Place Plan Tree)
open Generation (Layout Renderer ComponentView ComponentFiles TypekitView TypekitFiles ProjectFiles)

namespace Files.Tree

/-- A path and a link that lead to one place. -/
def LeadsAs (t : Tree) (target l : Path) : Prop :=
  ∃ f, t.place target = .ok f ∧ t.place l = .ok f

end Files.Tree

namespace Generation

/-- A layout of which each file and link stays as a generation makes it: the links are on the way of
none of its paths, the paths are separate, the user files are not there, and each link can be
followed after those that lead to it. -/
structure Layout.Disjoint (L : Layout) (t : Tree) : Prop where
  aside : L.plan.LinksAside t
  separate : L.Separate t
  vacant : L.Vacant t t
  toSpare : ∀ l ∈ L.links, t.follow (Tree.mostLinks - 1) [] l.parent.names ≠ none

/-- The files of a project of which a generation tells. -/
def ProjectFiles.paths (f : ProjectFiles) : List Path :=
  f.typekit.toList.flatMap TypekitFiles.paths ++ f.components.flatMap ComponentFiles.paths

/-- The files of a project hold what was made for them, their links lead to the headers, and no two
of them are at one place. -/
structure ProjectFiles.Intact (f : ProjectFiles) (s : Store) (p : ProjectId) (w : FileWriter)
    (renderer : Renderer) (t : Tree) : Prop where
  typekit : List.Forall₂ (fun id f => id.Written p s w renderer Tree.LeadsAs f t)
    (s.project p).typekit.toList f.typekit.toList
  components : List.Forall₂ (fun c f => c.Written s w renderer Tree.LeadsAs f t)
    (s.project p).components f.components
  distinct : f.paths.Pairwise fun p q => t.place p ≠ t.place q

section Ends

variable {start t : Tree} {W : Plan} {L : Layout}

/-- A link that leads to where a header is at the start, leads to the header that is found in the
end. -/
theorem leadsAs_of_linked {target l : Path} {text : String} (aside : W.LinksAside start)
    (frame : W.Frame start start t)
    (toSpare : ∀ l ∈ W.links, start.follow (Tree.mostLinks - 1) [] l.parent.names ≠ none)
    (linked : Run.Linked start W L t target l) (here : t.Has target text) : t.LeadsAs target l := by
  obtain ⟨-, within, clear, x, f, hx, link, leads⟩ := linked
  obtain ⟨g, here⟩ := here
  have reaches := Tree.reach_of_place here.place
  rw [(frame.reach clear).1, leads] at reaches
  obtain rfl : f = g := Option.some.inj reaches
  have settled : t.Settled f := (Tree.walks_of_place here.place).settled (.root t)
  refine ⟨f, here.place, Tree.place_through hx link rfl
    (settled.walks (Tree.linkAt_of_place here.place)) ?_⟩
  rw [(Tree.follow_congr fun y hy => ?_).1]
  · exact toSpare l within
  · exact frame.link y (aside.parents l within y (Tree.way_subset_succ hy))

/-- The files of a component are found. -/
theorem ComponentFiles.Hold.has {f : ComponentFiles} {renderer : Renderer} {v : ComponentView}
    {linked : Bool} {leads : Tree → Path → Path → Prop} (h : f.Hold renderer v linked leads t)
    {p : Path} (hp : p ∈ f.paths) :
    ∃ text, t.Has p text := by
  simp only [ComponentFiles.paths, List.mem_cons, List.not_mem_nil, or_false] at hp
  rcases hp with rfl | rfl | rfl | rfl
  · exact ⟨_, h.baseHeader⟩
  · exact ⟨_, h.baseSource⟩
  · exact ⟨_, h.userHeader⟩
  · exact ⟨_, h.userSource⟩

/-- Files that hold what they should do so for weaker demands on links. -/
theorem ComponentFiles.Hold.mono {f : ComponentFiles} {renderer : Renderer} {v : ComponentView}
    {linked : Bool} {leads leads' : Tree → Path → Path → Prop}
    (h : f.Hold renderer v linked leads t)
    (imp : ∀ target l text, t.Has target text → leads t target l → leads' t target l) :
    f.Hold renderer v linked leads' t := by
  have headers (target : Path)
      (htarget : target ∈ if linked then [f.userHeader, f.baseHeader] else []) :
      ∃ text, t.Has target text := by
    refine h.has ?_
    cases linked with
    | false => cases htarget
    | true =>
      simp only [ComponentFiles.paths, if_true, List.mem_cons, List.not_mem_nil,
        or_false] at htarget ⊢
      tauto
  refine ⟨h.baseHeader, h.baseSource, h.userHeader, h.userSource, ?_⟩
  have links := (List.forall₂_and_left _ _).2 ⟨headers, h.links⟩
  refine links.imp ?_
  rintro target l ⟨⟨text, has⟩, leads⟩
  exact imp target l text has leads

/-- The files of a typekit are found. -/
theorem TypekitFiles.Hold.has {f : TypekitFiles} {renderer : Renderer} {v : TypekitView}
    {typelist : String} {linked : Bool} {leads : Tree → Path → Path → Prop}
    (h : f.Hold renderer v typelist linked leads t) {p : Path} (hp : p ∈ f.paths) :
    ∃ text, t.Has p text := by
  rcases List.mem_cons.1 hp with rfl | hp
  · exact ⟨_, h.typesHeader⟩
  rcases List.mem_cons.1 hp with rfl | hp
  · exact ⟨_, h.typelist⟩
  · have found : List.Forall₂ (fun p _ => (∃ text, t.Has p text) ∧ True) f.conversions _ :=
      h.conversions.imp fun p text has => ⟨⟨text, has⟩, trivial⟩
    exact ((List.forall₂_and_left _ _).1 found).1 p hp

/-- Files of a typekit that hold what they should do so for weaker demands on links. -/
theorem TypekitFiles.Hold.mono {f : TypekitFiles} {renderer : Renderer} {v : TypekitView}
    {typelist : String} {linked : Bool} {leads leads' : Tree → Path → Path → Prop}
    (h : f.Hold renderer v typelist linked leads t)
    (imp : ∀ target l text, t.Has target text → leads t target l → leads' t target l) :
    f.Hold renderer v typelist linked leads' t := by
  have headers (target : Path)
      (htarget : target ∈ if linked then f.typesHeader :: f.conversions.take 1 else []) :
      ∃ text, t.Has target text := by
    refine h.has ?_
    cases linked with
    | false => cases htarget
    | true =>
      rcases List.mem_cons.1 htarget with rfl | htarget
      · exact List.mem_cons_self
      · exact List.mem_cons_of_mem _ (List.mem_cons_of_mem _ (List.mem_of_mem_take htarget))
  refine ⟨h.typesHeader, h.typelist, h.conversions, ?_⟩
  have links := (List.forall₂_and_left _ _).2 ⟨headers, h.links⟩
  refine links.imp ?_
  rintro target l ⟨⟨text, has⟩, leads⟩
  exact imp target l text has leads

/-- Files in the order of what they were made for. -/
theorem paths_of_forall₂ {α β : Type} {S : α → β → Prop} (paths : β → List Path)
    {reported : α → List Path} {as : List α} {bs : List β} (h : List.Forall₂ S as bs)
    (each : ∀ a b, S a b → paths b = reported a ∧ ∀ p ∈ paths b, ∃ text, t.Has p text) :
    bs.flatMap paths = as.flatMap reported ∧ ∀ p ∈ bs.flatMap paths, ∃ text, t.Has p text := by
  induction h with
  | nil => simp
  | cons hab _ ih =>
    obtain ⟨same, has⟩ := each _ _ hab
    rw [List.flatMap_cons, List.flatMap_cons, same, ih.1]
    refine ⟨rfl, fun p hp => ?_⟩
    rcases List.mem_append.1 hp with hp | hp
    · exact has p (same ▸ hp)
    · exact ih.2 p (ih.1 ▸ hp)

/-- The files of a separate layout are found at different places. -/
theorem pairwise_place {paths : List Path} (same : paths.Perm L.reported)
    (separate : L.Separate start) (reach : ∀ p ∈ L.reported, t.reach p = start.reach p)
    (has : ∀ p ∈ paths, ∃ text, t.Has p text) :
    paths.Pairwise fun p q => t.place p ≠ t.place q := by
  have differ : paths.Pairwise start.Differ :=
    (same.pairwise_iff fun h => h.symm).2 separate.reported
  refine differ.imp_of_mem fun {p q} hp hq differ places => ?_
  obtain ⟨text, f, here⟩ := has p hp
  refine differ f ?_ ?_
  · rw [← reach p (same.mem_iff.1 hp)]
    exact Tree.reach_of_place here.place
  · rw [← reach q (same.mem_iff.1 hq)]
    exact Tree.reach_of_place (places ▸ here.place)

end Ends

end Generation

/-- The files of a project stay as they are generated. -/
theorem ProjectId.ends_generate_intact (p : ProjectId) (area : String) (links : Bool)
    (renderer : Renderer) {s : Store} (settled : Declares.typing.holds s)
    (disjoint : (Generation.layout s p area links).Disjoint s.files) :
    Ends (p.generate area links renderer) s (fun out t => ∃ frozen, p.freeze s = .ok () frozen ∧
      out.Intact frozen p { baseDir := (s.project p).baseDir, area, links } renderer t.files)
        fun _ _ => True := by
  refine ends_bind.2 (ends_iff.2 ⟨fun _ frozen hfrozen => ?_, fun _ _ _ => trivial⟩)
  have same : SameDeclarations s frozen := (p.ends_freeze s).of_ok hfrozen
  have baseDir : (frozen.project p).baseDir = (s.project p).baseDir :=
    same.project_congr (·.baseDir) (fun _ => rfl) p
  rw [← baseDir]
  rw [← same.layout_eq p area links] at disjoint
  have holds : (Run.onStore disjoint.aside frozen).holds frozen := by
    refine ⟨same.settled settled, ?_, rfl, fun _ => rfl⟩
    rw [same.files]
    exact .refl _ _ _
  have vacant : (Generation.layout frozen p area links).Vacant s.files frozen.files := by
    rw [same.files]
    exact disjoint.vacant
  have run := Run.delivers_generateFiles disjoint.aside frozen p
    { baseDir := (frozen.project p).baseDir, area, links } renderer
    ⟨disjoint.separate, .refl _⟩ holds vacant
  refine ends_bind.2 (ends_get.2 (run.mono ?_ fun _ _ h => h))
  rintro out t ⟨ht, -, typekit, components⟩
  have frame : Plan.Frame _ s.files s.files t.files := ht.2.1
  have leads (L : Layout) (target l : Path) (text : String) (here : t.files.Has target text)
      (linked : Run.Linked s.files _ L t.files target l) : t.files.LeadsAs target l :=
    Generation.leadsAs_of_linked disjoint.aside frame disjoint.toSpare linked here
  have typekit := typekit.imp fun id f ⟨paths, v, text, hv, htext, hold⟩ =>
    (⟨paths, v, text, hv, htext, hold.mono (leads _)⟩ :
      id.Written p frozen _ renderer Tree.LeadsAs f t.files)
  have components := components.imp fun c f ⟨paths, v, shows, hold⟩ =>
    (⟨paths, v, shows, hold.mono (leads _)⟩ : c.Written frozen _ renderer Tree.LeadsAs f t.files)
  obtain ⟨typekitPaths, typekitHas⟩ := Generation.paths_of_forall₂ TypekitFiles.paths typekit
    fun id f ⟨paths, v, text, hv, htext, hold⟩ => ⟨paths, fun q hq => hold.has hq⟩
  obtain ⟨componentPaths, componentsHave⟩ :=
    Generation.paths_of_forall₂ ComponentFiles.paths components
    fun c f ⟨paths, v, shows, hold⟩ => ⟨paths, fun q hq => hold.has hq⟩
  refine ⟨frozen, hfrozen, typekit, components, ?_⟩
  refine Generation.pairwise_place
    (L := Generation.layout frozen p area links) ?_ disjoint.separate ?_ ?_
  · rw [ProjectFiles.paths, typekitPaths, componentPaths]
    refine List.Perm.trans ?_ (Layout.reported_concat _).symm
    rw [List.flatMap_append, List.flatMap_map, List.flatMap_map]
    exact .refl _
  · exact fun q hq => (frame.reach
      (disjoint.aside.paths q (List.mem_append_left _ (Layout.mem_files.2 (.inl hq))))).1
  · intro q hq
    rcases List.mem_append.1 hq with hq | hq
    · exact typekitHas q hq
    · exact componentsHave q hq

/-- In a plain layout, the files and links stay as they are made if their names are apart, no user
file lies above another path, and there are no user files. -/
theorem Generation.Layout.Disjoint.of_plain {L : Layout} {t : Tree} (plain : L.Plain)
    (only : ∀ x, t.linkAt x ≠ none → ∃ l ∈ L.links, l.names = x)
    (reported : (L.reported.map Path.names).Nodup)
    (templates : ∀ p ∈ L.reported, ∀ q ∈ L.templates, p.names ≠ q.names)
    (user : L.user.Pairwise fun u v => ¬u.names <+: v.names ∧ ¬v.names <+: u.names)
    (others : ∀ u ∈ L.user, ∀ q ∈ L.automatic ++ L.templates ++ L.directories, ¬u.names <+: q.names)
    (links : (L.links.map Path.names).Nodup) (vacant : ∀ u ∈ L.user, t.get? u.names = none) :
    L.Disjoint t := by
  have reach {p : Path} (hp : p ∈ L.plan.paths) := plain.reach only (List.mem_append_left _ hp)
  have inReported {p : Path} (hp : p ∈ L.reported) : p ∈ L.plan.paths :=
    List.mem_append_left _ (Layout.mem_files.2 (.inl hp))
  have inUser {p : Path} (hp : p ∈ L.user) : p ∈ L.plan.paths := Layout.mem_paths.2 (.inr hp)
  have differ {p q : Path} (hp : p ∈ L.plan.paths) (hq : q ∈ L.plan.paths)
      (names : p.names ≠ q.names) :
      t.Differ p q := by
    intro x hx hx'
    rw [(reach hp).1] at hx
    rw [(reach hq).1, ← hx] at hx'
    exact names (Option.some.inj hx').symm
  have avoids {u q : Path} (hu : u ∈ L.plan.paths) (hq : q ∈ L.plan.paths)
      (names : ¬u.names <+: q.names) :
      t.Avoids u q := by
    intro x hx onWay
    rw [(reach hu).1] at hx
    obtain rfl : u.names = x := Option.some.inj hx
    exact names ((reach hq).2 _ onWay)
  refine ⟨plain.linksAside only, ⟨?_, ?_, ?_, ?_, ?_⟩, ?_, ?_⟩
  · exact (List.pairwise_map.1 reported).imp_of_mem fun hp hq =>
      differ (inReported hp) (inReported hq)
  · exact fun p hp q hq =>
      differ (inReported hp) (List.mem_append_left _ (Layout.mem_files.2 (.inr hq)))
      (templates p hp q hq)
  · exact user.imp_of_mem fun hu hv names =>
      ⟨avoids (inUser hu) (inUser hv) names.1, avoids (inUser hv) (inUser hu) names.2⟩
  · exact fun u hu q hq => avoids (inUser hu) (Layout.mem_paths.2 (.inl hq)) (others u hu q hq)
  · refine (List.pairwise_map.1 links).imp_of_mem fun hl hm names x hx hx' => ?_
    rw [plain.reachLink only hl] at hx
    rw [plain.reachLink only hm, ← hx] at hx'
    exact names (Option.some.inj hx').symm
  · intro u hu x hx
    rw [(reach (inUser hu)).1] at hx
    rw [← Option.some.inj hx]
    exact vacant u hu
  · intro l hl
    have parent : l.parent ∈ L.plan.paths ++ L.links.map Path.parent :=
      List.mem_append_right _ (List.mem_map_of_mem hl)
    have noLink (q : Place) (hq : q <+: [] ++ l.parent.names) (_ : ([] : Place).length < q.length) :
        t.linkAt q = none := plain.noLink only parent hq
    have leads : t.follow (Tree.mostLinks - 1) [] l.parent.names = some ([] ++ l.parent.names) :=
      (Tree.follow_of_plain (plain.1 _ parent) noLink).1
    rw [leads]
    simp

/-- At any time of a session, a generation that gives a value leaves each file of which it tells
with the text that was made for it, each link with its header, and no two files at one place, if its
layout is disjoint. -/
theorem generatedFiles_intact (files : Tree) (packageMaps : List PackageMap) (acts : List Act)
    (p : ProjectId) (area : String) (links : Bool) (renderer : Renderer) :
    let s := Act.runAll acts { files, packageMaps }
    (Generation.layout s p area links).Disjoint s.files →
      Ends (p.generate area links renderer) s (fun out t => ∃ frozen, p.freeze s = .ok () frozen ∧
        out.Intact frozen p { baseDir := (s.project p).baseDir, area, links } renderer t.files)
          fun _ _ => True :=
  fun disjoint =>
    p.ends_generate_intact area links renderer
      (Act.settled_runAll (settled_of_empty rfl) acts) disjoint

/-- A session in which a typekit is made and two components are declared, for an empty directory. -/
def emptyDirectorySession : List Act := [
  .call (.newProject "app" ⟨"/", ["w"]⟩ ⟨0⟩ none none),
  .call (.declare (.typekit ⟨0⟩ true)),
  .call (.declare (.declareComponent ⟨0⟩ "Driver" .framework none)),
  .call (.declare (.declareComponent ⟨0⟩ "Task" .framework none)),
  .edit { entries := [(["w"], .directory)] }]

/-- The generation gives files of the typekit and of both components, and they stay as they are
generated. -/
theorem generatedFiles_intact_emptyDirectory :
    (Generation.layout (Act.runAll emptyDirectorySession {}) ⟨0⟩ ".taskgen" true).Disjoint
        (Act.runAll emptyDirectorySession {}).files ∧
      ∃ out t, ProjectId.generate ⟨0⟩ ".taskgen" true Generation.Page.text
        (Act.runAll emptyDirectorySession {}) = .ok out t ∧
        (out.typekit.isSome = true ∧ out.components.map (·.links.length) = [2, 2]) ∧
        ∃ frozen, ProjectId.freeze ⟨0⟩ (Act.runAll emptyDirectorySession {}) = .ok () frozen ∧
          out.Intact frozen ⟨0⟩ { baseDir := ⟨"/", ["w"]⟩, area := ".taskgen" } Generation.Page.text
            t.files := by
  have disjoint :
      (Generation.layout (Act.runAll emptyDirectorySession {}) ⟨0⟩ ".taskgen" true).Disjoint
      (Act.runAll emptyDirectorySession {}).files := by
    refine .of_plain (by decide) (fun x linked => ?_) (by decide) (by decide) (by decide)
      (by decide) (by decide) (by decide)
    refine absurd (Tree.linkAt_of_entries (fun e he target => ?_) x) linked
    change e ∈ [((["w"] : Place), Files.Entry.directory)] at he
    rw [List.mem_singleton.1 he]
    simp
  have generated : Ends (ProjectId.generate ⟨0⟩ ".taskgen" true Generation.Page.text)
      (Act.runAll emptyDirectorySession {})
      (fun out _ => out.typekit.isSome = true ∧ out.components.map (·.links.length) = [2, 2])
        fun _ _ => False := by
    decide +kernel
  have intact := generatedFiles_intact {} [] emptyDirectorySession
    ⟨0⟩ ".taskgen" true Generation.Page.text disjoint
  obtain ⟨out, t, run, given, frozen, ended, intact⟩ :=
    ((generated.and intact).mono (fun _ _ h => h) fun _ _ h => h.1).exists_ok
  exact ⟨disjoint, out, t, run, given, frozen, ended, intact⟩

end Componentry
