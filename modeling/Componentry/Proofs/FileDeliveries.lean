import Componentry.Proofs.Deliveries

/-!
# What the writer of files delivers

A file that is written is found under its path, a user file too if there was none, and a link that
is made leads to where the header is. Each operation of the writer delivers this for the paths that
it is given, in runs of operations on files and in runs of generations.
-/

namespace Componentry

open Files (Path Place Plan Tree Change reading altering)
open Generation (Layout linkLayout)

namespace Run

/-- A run of operations on files. -/
def onTree {start : Tree} {W : Plan} (aside : W.LinksAside start) : Run Tree where
  start := start
  plan := W
  aside := aside
  files := id
  holds := W.Frame start start
  frame _ h := h

/-- Operations of a run that leave the files as they are. -/
def looking (start : Tree) (W : Plan) : Effect Fault Tree where
  holds := W.Frame start start
  change t t' := t' = t
  fault _ := True
  refl _ := rfl
  trans h h' := h'.trans h

/-- A run of operations of a generation, which starts in a state. -/
def onStore {start : Tree} {W : Plan} (aside : W.LinksAside start) (s : Store) : Run Store where
  start := start
  plan := W
  aside := aside
  files := Store.files
  holds := (generating s (looking start W)).holds
  frame _ h := h.2.1

variable {start : Tree} {W : Plan} {aside : W.LinksAside start} {s₀ : Store} {L : Layout} {α : Type}

section Trees

/-- What is ensured of an operation within the plan of a layout, is delivered. -/
theorem delivers_of_ensures {x : Change α} {Q : α → Tree → Prop}
    (h : L.plan.Within W → (altering start W L.plan).Ensures x Q) :
    (onTree aside).Delivers L x Q := by
  intro t fits ht _
  refine (h fits.within t ht).mono ?_ fun _ _ _ => trivial
  exact fun a t' h => ⟨h.1.1, h.1.2, h.2⟩

/-- A file of the layout is put in place with its text. -/
theorem delivers_place {p : Path} (hp : p ∈ L.plan.files) (text : String) :
    (onTree aside).Delivers L (Change.place p text.toUTF8) fun _ t => t.Has p text :=
  delivers_of_ensures fun within => Change.ensures_place aside within hp _

/-- A directory of the layout is made. -/
theorem delivers_ensureDirectories {d : Path} (hd : d ∈ L.directories) :
    (onTree aside).Delivers L (Change.ensureDirectories d) fun _ _ => True :=
  delivers_of_ensures fun within =>
    (Change.altering_ensureDirectories aside within (List.mem_append_right _ hd)
      (List.prefix_refl _)).ensures

/-- A link of the layout is made and leads to its target. -/
theorem delivers_linkInto {directory target : Path} (hl : directory.join target.name ∈ L.links)
    (clear : W.Clears start target) :
    (onTree aside).Delivers L (FileWriter.linkInto directory target) fun l t =>
      l = directory.join target.name ∧ Linked start W L t target l := by
  refine delivers_of_ensures fun within => ?_
  intro t ht
  refine (Change.ensures_linkInto aside within hl t ht).mono ?_ fun _ _ h => h
  rintro _ t' ⟨change, rfl, x, f, hx, here, leads⟩
  exact ⟨change, rfl, hl, within.links hl, clear, x, f, hx, here, leads clear⟩

/-- The links of a list of headers. -/
theorem concat_links (g : Path → Path) (targets : List Path) :
    Layout.concat (targets.map fun target => { links := [g target] }) =
      { links := targets.map g } := by
  induction targets with
  | nil => rfl
  | cons target targets ih => exact congrArg (Layout.append { links := [g target] }) ih

/-- Headers are linked into a directory, and the links are those of the layout. -/
theorem delivers_links {directory : Path} {targets : List Path}
    (clear : ∀ target ∈ targets, W.Clears start target) :
    (onTree aside).Delivers { links := targets.map fun target => directory.join target.name }
      (targets.mapM (FileWriter.linkInto directory)) fun links t =>
        List.Forall₂ (Linked start W
          { links := targets.map fun target => directory.join target.name } t) targets links := by
  have linked (target : Path) (htarget : target ∈ targets) : (onTree aside).Delivers
      { links := [directory.join target.name] } (FileWriter.linkInto directory target) fun l t =>
        Linked start W { links := [directory.join target.name] } t target l :=
    (delivers_linkInto (by simp) (clear target htarget)).mono fun _ _ h => h.2
  have each := Delivers.mapM (fun target _ l => owns_linked target l) linked
  rw [concat_links] at each
  refine each.mono fun links t linked => ?_
  have each :=
    (List.forall₂_and_left _ _).2 ⟨fun target (htarget : target ∈ targets) => htarget, linked⟩
  refine each.imp fun target l ⟨htarget, h⟩ => h.mono ?_
  intro m hm
  rw [List.mem_singleton.1 hm]
  exact List.mem_map_of_mem htarget

end Trees

section Stores

/-- What only looks at files gives what it gives. -/
theorem gives_of_covers {x : Work α} (h : (generating s₀ (looking start W)).Covers x) :
    (onStore aside s₀).Gives x fun _ => True := by
  intro s hs
  refine Ends.mono (h s hs) ?_ fun _ _ _ => trivial
  exact fun a t ⟨ht, same⟩ => ⟨ht, same, trivial⟩

/-- What stays within the plan of a layout is delivered. -/
theorem delivers_of_covers {x : Work α}
    (h : L.plan.Within W → (generating s₀ (altering start W L.plan)).Covers x) :
    (onStore aside s₀).Delivers L x fun _ _ => True := by
  intro s fits hs _
  refine Ends.mono (h fits.within s hs) ?_ fun _ _ _ => trivial
  exact fun a t ⟨ht, change⟩ => ⟨ht, change, trivial⟩

/-- What is delivered to the files is delivered in a run. -/
theorem Delivers.onFiles {x : Change α} {Q : α → Tree → Prop} (h : (onTree aside).Delivers L x Q) :
    (onStore aside s₀).Delivers L (Work.onFiles x) Q := by
  intro s fits hs vacant
  refine Work.ends_onFiles.2 ((h s.files ⟨fits.separate, fits.within⟩ hs.2.1 vacant).mono ?_
    fun _ _ h => h)
  intro a files ⟨hfiles, change, ha⟩
  exact ⟨⟨hs.1, hfiles, hs.2.2⟩, change, ha⟩

/-- A message is logged without files. -/
theorem gives_log (severity : Severity) (origin text : String) :
    (onStore aside s₀).Gives (Work.log severity origin text) fun _ => True :=
  gives_of_covers (Work.generating_log severity origin text)

/-- A computation without a state gives its value. -/
theorem gives_ofExcept (x : Except Fault α) :
    (onStore aside s₀).Gives (Work.ofExcept x) (x = .ok ·) :=
  fun _ hs => Work.ends_ofExcept.2 ⟨fun _ ha => ⟨hs, rfl, ha⟩, fun _ _ => trivial⟩

/-- Looking at files permits the empty layout. -/
theorem permits_looking : Generation.Permits (looking start W) {} where
  reads h t ht := by
    refine Ends.mono (h t trivial) ?_ fun fault t' h => ?_
    · rintro a _ ⟨-, rfl⟩
      exact ⟨ht, rfl⟩
    · obtain ⟨-, rfl, -⟩ := h
      exact ⟨ht, rfl, trivial⟩
  file p hp := by cases hp
  user p hp := by cases hp
  directory d hd := by cases hd
  link _ _ hl := by cases hl

/-- A file is written, and a line is logged. -/
theorem delivers_write {p : Path} (hp : p ∈ L.plan.files) (text line : String) :
    (onStore aside s₀).Delivers L (do
      FileWriter.writeFile p text
      Work.log .info FileWriter.logName line
      return p) fun path t => path = p ∧ t.Has path text := by
  refine (delivers_place hp text).onFiles.bind_gives fun _ => ?_
  exact (gives_log _ _ _).bind fun _ _ => gives_pure fun t written => ⟨rfl, written⟩

/-- A file of the automatic area is delivered with its text. -/
theorem delivers_saveAutomatic (w : FileWriter) (parts : List String) (text : String) :
    (onStore aside s₀).Delivers { automatic := [w.automaticPath parts] }
        (w.saveAutomatic parts text) fun path t =>
      path = w.automaticPath parts ∧ t.Has path text :=
  delivers_write (by simp [Layout.plan]) text _

/-- A template is delivered, whether it has changed or not. -/
theorem delivers_writeIfChanged (p : Path) (text : String) :
    (onStore aside s₀).Delivers { templates := [p] } (FileWriter.writeIfChanged p text)
      fun _ _ => True := by
  refine delivers_of_covers fun within => ?_
  have hp : p ∈ Plan.files (Layout.plan { templates := [p] }) := by simp [Layout.plan]
  refine FileWriter.generating_writeIfChanged (L := { templates := [p] }) ?_ (by simp) text
  exact {
    reads := Change.altering_of_reading
    file := fun q hq content => by
      obtain rfl : q = p := by simpa using hq
      exact (Change.ensures_place aside within hp content).covers
    user := fun u hu => by cases hu
    directory := fun d hd => by cases hd
    link := fun _ _ hl => by cases hl }

/-- A file of the user area and its template are delivered. -/
theorem delivers_saveUser (w : FileWriter) (parts : List String) (text : String) :
    (onStore aside s₀).Delivers { templates := [w.templatePath parts], user := [w.userPath parts] }
      (w.saveUser parts text) fun path t => path = w.userPath parts ∧ t.Has path text := by
  change (onStore aside s₀).Delivers
    (Layout.append { templates := [w.templatePath parts] } { user := [w.userPath parts] }) _ _
  refine (delivers_writeIfChanged _ text).bind (fun _ => owns_const True) fun _ _ _ => ?_
  intro s fits hs vacant
  have clear : W.Clears start (w.userPath parts) :=
    fits.clears (Layout.mem_paths.2 (.inr (by simp)))
  have empty (x : Place) (hx : s.files.reach (w.userPath parts) = some x) :
      s.files.get? x = none := by
    rw [(hs.2.1.reach clear).1] at hx
    exact vacant _ (by simp) x hx
  refine ends_bind.2
    (Work.ends_onFiles.2 ((Change.ends_isPresent_of_vacant empty).mono ?_ fun _ _ h => h))
  rintro present _ ⟨rfl, rfl⟩
  refine ends_ite.2 ⟨fun there => absurd there Bool.false_ne_true, fun _ => ?_⟩
  have hp : w.userPath parts ∈ Plan.files (Layout.plan { user := [w.userPath parts] }) := by
    simp [Layout.plan]
  refine (delivers_write hp text _ s fits hs vacant).mono ?_ fun _ _ h => h
  exact fun path t h => ⟨h.1, h.2.1, fun _ => h.2.2⟩

/-- The links that stand for an installation are delivered, one for each target. -/
theorem delivers_fakeInstall (w : FileWriter) {name : String} {targets : List Path}
    (clear : ∀ target ∈ targets, W.Clears start target) :
    (onStore aside s₀).Delivers (linkLayout w name targets) (w.fakeInstall name targets)
        fun links t =>
      List.Forall₂ (Linked start W (linkLayout w name targets) t)
        (if w.links then targets else []) links := by
  cases linked : w.links with
  | false =>
    have noLayout : linkLayout w name targets = {} := by
      rw [linkLayout, linked]
      rfl
    have nothing : w.fakeInstall name targets = pure [] := by
      rw [FileWriter.fakeInstall, linked]
      rfl
    rw [noLayout, nothing]
    refine (gives_pure (P := (· = [])) rfl).delivers.mono ?_
    rintro _ t rfl
    exact .nil
  | true =>
    have layout : linkLayout w name targets = Layout.append { directories := [w.installDir name] }
        { links := targets.map fun target => (w.installDir name).join target.name } := by
      rw [linkLayout, linked]
      rfl
    have installs : w.fakeInstall name targets = Work.onFiles (do
        Change.ensureDirectories (w.installDir name)
        targets.mapM (FileWriter.linkInto (w.installDir name))) := by
      rw [FileWriter.fakeInstall, linked]
      rfl
    rw [layout, installs]
    refine Delivers.onFiles
      ((delivers_ensureDirectories (by simp)).bind (fun _ => owns_const True) ?_)
    intro _ _ _
    refine (delivers_links clear).mono fun links t linked _ =>
      linked.imp fun target l h => h.mono ?_
    exact List.subset_append_right _ _

end Stores

end Run

end Componentry
