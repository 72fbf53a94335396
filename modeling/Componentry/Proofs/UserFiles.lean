import Componentry.Proofs.GeneratedFiles

/-!
# User files are kept

A generation leaves a user file alone that is there when it starts, whether it gives a value or
fails, if no link that it makes is on the way of one of its paths, and no other path leads to the
user file. Without this, a file of the automatic area or a link to a header can come into the place
of a user file.
-/

namespace Componentry

open Files (Path Place Plan Tree Change)

namespace Files

/-- Whether a place holds a file. -/
def Tree.isFileAt (t : Tree) (place : Place) : Bool :=
  match t.get? place with
  | some (.file _) => true
  | _ => false

/-- A place is found to be that of a file exactly if a file is there. -/
theorem Tree.isFileAt_iff {t : Tree} {place : Place} :
    t.isFileAt place = true ↔ ∃ content, t.get? place = some (.file content) := by
  unfold Tree.isFileAt
  cases t.get? place with
  | none => simp
  | some e => cases e <;> simp

/-- Whether a file is found under a path. -/
def Tree.hasFile (t : Tree) (p : Path) : Bool :=
  !p.hasNul && (t.place p).toOption.any t.isFileAt

/-- A path is found to lead to a file exactly if it holds one. -/
theorem Tree.hasFile_iff {t : Tree} {p : Path} :
    t.hasFile p = true ↔ ∃ f content, t.Holds p f content := by
  rw [Tree.hasFile, Bool.and_eq_true, Bool.not_eq_true', Option.any_eq_true]
  refine ⟨fun ⟨noNul, f, hplace, isFile⟩ => ?_, fun ⟨f, content, here⟩ => ⟨here.noNul, f, ?_, ?_⟩⟩
  · obtain ⟨content, entry⟩ := isFileAt_iff.1 isFile
    refine ⟨f, content, noNul, ?_, entry⟩
    cases h : t.place p with
    | error reason =>
      rw [h] at hplace
      cases hplace
    | ok g =>
      rw [h] at hplace
      cases hplace
      rfl
  · rw [here.place]
    rfl
  · exact isFileAt_iff.2 ⟨content, here.entry⟩

end Files

namespace Generation

namespace Layout

/-- The plan of a generation that leaves alone the user files that are there. -/
def writes (L : Layout) (t : Tree) : Plan where
  files := L.automatic ++ L.templates ++ L.user.filter fun u => !t.hasFile u
  directories := L.directories
  links := L.links

/-- The user files of a layout are apart from what a generation writes: the links that it makes are
on the way of none of its paths, no file of the automatic area leads to a user file, and a path that
leads to a user file finds it. -/
structure SparesUserFiles (L : Layout) (t : Tree) : Prop where
  aside : L.plan.LinksAside t
  automatic : ∀ u ∈ L.user, ∀ f content, t.Holds u f content →
    ∀ p ∈ L.automatic ++ L.templates, t.reach p ≠ some f
  user : ∀ u ∈ L.user, ∀ f content, t.Holds u f content → ∀ v ∈ L.user, t.reach v = some f →
    t.hasFile v = true

namespace SparesUserFiles

variable {L : Layout} {t : Tree}

/-- The paths that are written are among those of the plan. -/
theorem writes_within (L : Layout) (t : Tree) : (L.writes t).Within L.plan where
  files p hp := by
    rcases List.mem_append.1 hp with hp | hp
    · exact List.mem_append_left _ hp
    · exact List.mem_append_right _ (List.mem_of_mem_filter hp)
  directories := List.Subset.refl _
  links := List.Subset.refl _

/-- A user file that is there is spared. -/
theorem spares (h : L.SparesUserFiles t) {u : Path} (hu : u ∈ L.user) {f : Place}
    {content : ByteArray} (here : t.Holds u f content) : (L.writes t).Spares t u f content := by
  have clear : (L.writes t).Clears t u :=
    h.aside.paths u (List.mem_append_left _ (List.mem_append_right _ hu))
  refine ⟨here, clear, fun q hq reaches => ?_⟩
  rcases List.mem_append.1 hq with hq | hq
  · exact h.automatic u hu f content here q hq reaches
  · obtain ⟨hv, absent⟩ := List.mem_filter.1 hq
    rw [h.user u hu f content here q hv reaches] at absent
    cases absent

/-- Links are aside of the paths that are written. -/
theorem writes_aside (h : L.SparesUserFiles t) : (L.writes t).LinksAside t where
  paths p hp := h.aside.paths p ((writes_within L t).paths hp)
  parents := h.aside.parents

/-- A generation that spares the user files stays within its plan. -/
theorem permits (h : L.SparesUserFiles t) :
    Permits (Files.altering t (L.writes t) (L.writes t)) L where
  reads := Change.altering_of_reading
  file p hp content :=
    (Change.ensures_place h.writes_aside (.refl _) (List.mem_append_left _ hp) content).covers
  user u hu t' ht := by
    cases absent : t.hasFile u with
    | true =>
      obtain ⟨f, content, here⟩ := Tree.hasFile_iff.1 absent
      have spared := h.spares hu here
      have kept := ht.holds_of_away (.refl _ _ _) (.refl _) spared.clear spared.away here
      refine (Change.ends_isPresent_of_holds kept).mono ?_ fun _ _ never => never.elim
      rintro present _ ⟨rfl, -⟩ never
      cases never
    | false =>
      refine (ends_trivial _ _).mono (fun present _ _ _ content => ?_) fun _ _ _ => trivial
      have hfile : u ∈ (L.writes t).files :=
        List.mem_append_right _ (List.mem_filter.2 ⟨hu, by rw [absent]; rfl⟩)
      exact (Change.ensures_place h.writes_aside (.refl _) hfile content).covers t' ht
  directory d hd :=
    Change.altering_ensureDirectories h.writes_aside (.refl _) (List.mem_append_right _ hd)
      (List.prefix_refl _)
  link directory target hl := (Change.ensures_linkInto h.writes_aside (.refl _) hl).covers

/-- In a plain layout, the user files are apart from what a generation writes if their names are. -/
theorem of_plain (plain : L.Plain) (only : ∀ x, t.linkAt x ≠ none → ∃ l ∈ L.links, l.names = x)
    (apart : ∀ u ∈ L.user, ∀ p ∈ L.automatic ++ L.templates, p.names ≠ u.names) :
    L.SparesUserFiles t where
  aside := plain.linksAside only
  automatic u hu f content here p hp reaches := by
    have inPlan (q : Path) (hq : q ∈ L.automatic ++ L.templates ++ L.user) :
        q ∈ L.plan.paths ++ L.links.map Path.parent :=
      List.mem_append_left _ (List.mem_append_left _ hq)
    have hu' := Tree.reach_of_place here.place
    rw [(plain.reach only (inPlan u (List.mem_append_right _ hu))).1] at hu'
    rw [(plain.reach only (inPlan p (List.mem_append_left _ hp))).1, ← hu'] at reaches
    exact apart u hu p hp (Option.some.inj reaches)
  user u hu f content here v hv reaches := by
    have inPlan (q : Path) (hq : q ∈ L.user) : q ∈ L.plan.paths ++ L.links.map Path.parent :=
      List.mem_append_left _ (List.mem_append_left _ (List.mem_append_right _ hq))
    have hu' := Tree.reach_of_place here.place
    rw [(plain.reach only (inPlan u hu)).1] at hu'
    rw [(plain.reach only (inPlan v hv)).1, ← hu'] at reaches
    have same : v.names = u.names := Option.some.inj reaches
    refine Tree.hasFile_iff.2 ⟨f, content, ?_, ?_, here.entry⟩
    · rw [Path.hasNul, same]
      exact here.noNul
    · rw [Tree.place, same]
      exact here.place

end SparesUserFiles

end Layout

end Generation

/-- A step of a session: a call on projects and their components, the generation of a project, or a
change of the files by the user. -/
inductive Act where
  | call (c : Call)
  | generate (p : ProjectId) (area : String) (links : Bool) (renderer : Generation.Renderer)
  | edit (files : Tree)

namespace Act

/-- Takes a step of a session. -/
def run : Act → Work Unit
  | call c => c.run
  | generate p area links renderer => discard (p.generate area links renderer)
  | edit files => modify fun s => { s with files }

/-- The state after steps of a session, each taken after the one before has given a value or
failed. -/
def runAll (acts : List Act) (s : Store) : Store :=
  acts.foldl (fun s act => act.run.after s) s

end Act

namespace Files

/-- Operations on files without bounds. -/
def unbounded : Effect Fault Tree where
  holds _ := True
  change _ _ := True
  fault _ := True
  refl _ := trivial
  trans _ _ := trivial

/-- Any operation on files may be done without bounds. -/
theorem covers_unbounded {α : Type} (x : Change α) : unbounded.Covers x :=
  fun t _ => (ends_trivial x t).mono (fun _ _ _ => ⟨trivial, trivial⟩) fun _ _ _ =>
    ⟨trivial, trivial, trivial⟩

/-- Every layout is permitted without bounds. -/
theorem permits_unbounded (L : Generation.Layout) : Generation.Permits unbounded L where
  reads _ := covers_unbounded _
  file _ _ _ := covers_unbounded _
  user _ _ t _ := (ends_trivial _ t).mono (fun _ _ _ _ _ => covers_unbounded _ t trivial)
    fun _ _ _ => trivial
  directory _ _ := covers_unbounded _
  link _ _ _ := covers_unbounded _

end Files

namespace Act

/-- No step of a session leaves an import of a typekit under way. -/
theorem settled_runAll {s : Store} (hs : Declares.typing.holds s) (acts : List Act) :
    Declares.typing.holds (runAll acts s) := by
  induction acts generalizing s with
  | nil => exact hs
  | cons act acts ih =>
    refine ih ?_
    cases act with
    | call c => exact (c.covers_run.after hs).1
    | generate p area links renderer =>
      have settled :=
        p.generating_generate area links renderer hs trivial (Files.permits_unbounded _)
      exact Work.after_of_ends (ends_map.2 (settled.mono (fun _ _ h => h.1) fun _ _ h => h.1))
    | edit files => exact hs

end Act

/-- At any time of a session, a generation keeps the user files that are there, whether it gives a
value or fails, if they are apart from what it writes. -/
theorem userFiles_kept (files : Tree) (packageMaps : List PackageMap) (acts : List Act)
    (p : ProjectId) (area : String) (links : Bool) (renderer : Generation.Renderer) :
    let s := Act.runAll acts { files, packageMaps }
    (Generation.layout s p area links).SparesUserFiles s.files →
      ∀ u ∈ (Generation.layout s p area links).user, ∀ f content, s.files.Holds u f content →
        ((p.generate area links renderer).after s).files.Holds u f content := by
  intro s spares u hu f content here
  have settled : Declares.typing.holds s := Act.settled_runAll (settled_of_empty rfl) acts
  have spared := spares.spares hu here
  have ends :=
    p.generating_generate area links renderer settled (Plan.Frame.refl _ _ _) spares.permits
  refine Work.after_of_ends (Q := fun t => t.files.Holds u f content) (ends.mono ?_ ?_)
  · exact fun _ t ht => ht.2.1.holds_of_away (.refl _ _ _) (.refl _) spared.clear spared.away here
  · exact fun _ t ht => ht.2.1.holds_of_away (.refl _ _ _) (.refl _) spared.clear spared.away here

/-- A tree in which the user has written the header of a component. -/
def writtenHeader : Tree where
  entries := [(["w"], .directory), (["w", "tasks"], .directory),
    (["w", "tasks", "Task.hpp"], .file "mine".toUTF8)]

/-- A session in which the component is declared. -/
def taskSession : List Act := [
  .call (.newProject "app" ⟨"/", ["w"]⟩ ⟨0⟩ none none),
  .call (.declare (.declareComponent ⟨0⟩ "Task" .framework none)),
  .edit writtenHeader]

/-- The header that the user has written is kept. -/
theorem userFiles_kept_writtenHeader :
    (Generation.layout (Act.runAll taskSession {})
      ⟨0⟩ ".taskgen" true).SparesUserFiles writtenHeader ∧
      ((ProjectId.generate ⟨0⟩ ".taskgen" true fun _ => "").after
        (Act.runAll taskSession {})).files.Holds
        ⟨"/", ["w", "tasks", "Task.hpp"]⟩ ["w", "tasks", "Task.hpp"] "mine".toUTF8 := by
  have spares : (Generation.layout (Act.runAll taskSession {}) ⟨0⟩ ".taskgen" true).SparesUserFiles
      writtenHeader := by
    refine .of_plain (by decide) (fun x linked => ?_) (by decide)
    exact absurd (Tree.linkAt_of_entries (by simp [writtenHeader]) x) linked
  have written : writtenHeader.Holds ⟨"/", ["w", "tasks", "Task.hpp"]⟩
      ["w", "tasks", "Task.hpp"] "mine".toUTF8 := by
    refine ⟨by decide, Tree.Walks.walk ?_, rfl⟩
    refine .down (by decide) (by decide) rfl (.down (by decide) (by decide) rfl ?_)
    exact .last _ (by decide) (by decide) (by decide) fun _ => rfl
  exact ⟨spares, userFiles_kept {} [] taskSession ⟨0⟩ ".taskgen" true (fun _ => "") spares _
    (by decide) _ _ written⟩

end Componentry
