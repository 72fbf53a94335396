import Componentry.Proofs.FilePlaces
import Componentry.Proofs.Reading

/-!
# Changes of file trees

A plan lists the paths to which operations write files, those to which they make directories, and
those at which they put links. If no link of the plan lies on the way of another path of the plan,
operations within the plan keep the places of all of its paths, and what they change is bounded by
the places that the paths have at the start.
-/

namespace Componentry.Files

/-- The paths that operations may change. -/
structure Plan where
  /-- The files that may be written. -/
  files : List Path := []
  /-- The directories that may be made, with those above them. -/
  directories : List Path := []
  /-- The links that may be replaced. -/
  links : List Path := []

namespace Plan

/-- A plan that is a part of another one. -/
structure Within (P Q : Plan) : Prop where
  files : P.files ⊆ Q.files
  directories : P.directories ⊆ Q.directories
  links : P.links ⊆ Q.links

/-- A plan is within itself. -/
theorem Within.refl (P : Plan) : P.Within P :=
  ⟨List.Subset.refl _, List.Subset.refl _, List.Subset.refl _⟩

/-- A plan within one that is within another is within that one. -/
theorem Within.trans {P Q R : Plan} (h : P.Within Q) (h' : Q.Within R) : P.Within R :=
  ⟨List.Subset.trans h.files h'.files, List.Subset.trans h.directories h'.directories,
    List.Subset.trans h.links h'.links⟩

/-- The paths of the files and directories of a plan. -/
def paths (P : Plan) : List Path :=
  P.files ++ P.directories

/-- The paths of a plan are among those of one it is within. -/
theorem Within.paths {P Q : Plan} (h : P.Within Q) : P.paths ⊆ Q.paths := by
  intro p hp
  rcases List.mem_append.1 hp with hp | hp
  · exact List.mem_append_left _ (h.files hp)
  · exact List.mem_append_right _ (h.directories hp)

/-- A place at which a plan puts a link. -/
def LinksAt (P : Plan) (t : Tree) (x : Place) : Prop :=
  ∃ l ∈ P.links, t.reachLink l = some x

/-- A path on whose way a plan puts no link. -/
def Clears (P : Plan) (t : Tree) (p : Path) : Prop :=
  ∀ x ∈ t.wayOf p, ¬P.LinksAt t x

/-- The links of a plan are on the way of no path of it. -/
structure LinksAside (P : Plan) (t : Tree) : Prop where
  paths : ∀ p ∈ P.paths, P.Clears t p
  parents : ∀ l ∈ P.links, P.Clears t l.parent

/-- How a tree may differ from another one after operations within a plan. The places of the paths
are those in a tree in which they start. -/
structure Frame (P : Plan) (start t t' : Tree) : Prop where
  directory : ∀ x, t.get? x = some .directory → t'.get? x = some .directory
  link : ∀ x, ¬P.LinksAt start x → t'.linkAt x = t.linkAt x
  content : ∀ x c, ¬P.LinksAt start x → (∀ p ∈ P.files, start.reach p ≠ some x) →
    t.get? x = some (.file c) → t'.get? x = some (.file c)
  other : ∀ x, ¬P.LinksAt start x → (∀ p ∈ P.paths, x ∉ start.wayOf p) → t'.get? x = t.get? x

namespace Frame

variable {P Q : Plan} {start t t' t'' : Tree}

/-- A tree is in the frame of itself. -/
theorem refl (P : Plan) (start t : Tree) : P.Frame start t t where
  directory _ h := h
  link _ _ := rfl
  content _ _ _ _ h := h
  other _ _ _ := rfl

/-- Changes within a plan follow one another. -/
theorem trans (h : P.Frame start t t') (h' : P.Frame start t' t'') : P.Frame start t t'' where
  directory x hx := h'.directory x (h.directory x hx)
  link x hx := (h'.link x hx).trans (h.link x hx)
  content x c hx away here := h'.content x c hx away (h.content x c hx away here)
  other x hx away := (h'.other x hx away).trans (h.other x hx away)

/-- Changes within a plan are changes within a larger one. -/
theorem mono (h : P.Frame start t t') (within : P.Within Q) : Q.Frame start t t' := by
  have notLink {x : Place} (hx : ¬Q.LinksAt start x) : ¬P.LinksAt start x := by
    rintro ⟨l, hl, reaches⟩
    exact hx ⟨l, within.links hl, reaches⟩
  refine ⟨h.directory, fun x hx => h.link x (notLink hx), fun x c hx away => ?_,
    fun x hx away => ?_⟩
  · exact h.content x c (notLink hx) fun p hp => away p (within.files hp)
  · exact h.other x (notLink hx) fun p hp => away p (within.paths hp)

/-- A path on whose way no link is put keeps its way and the place to which the links lead. -/
theorem reach (h : P.Frame start start t) {p : Path} (clear : P.Clears start p) :
    t.reach p = start.reach p ∧ t.wayOf p = start.wayOf p :=
  Tree.reach_congr fun x hx => h.link x (clear x hx)

/-- A link of a plan keeps the place at which it is put. -/
theorem reachLink (h : P.Frame start start t) {l : Path} (clear : P.Clears start l.parent) :
    t.reachLink l = start.reachLink l := by
  rw [Tree.reachLink, (h.reach clear).1, Tree.reachLink]

/-- Directories and links are kept where no link is put. -/
theorem entry_of_not_file (h : P.Frame start t t') {x : Place} (notLink : ¬P.LinksAt start x)
    {e : Entry} (here : t.get? x = some e) (notFile : ∀ c, e ≠ .file c) : t'.get? x = some e := by
  cases e with
  | file c => exact absurd rfl (notFile c)
  | directory => exact h.directory x here
  | link target =>
    have kept := h.link x notLink
    rw [Tree.linkAt_eq_some.2 here] at kept
    exact Tree.linkAt_eq_some.1 kept

/-- A directory is made where there is nothing, on the way of a path of the plan. -/
theorem put_directory {x : Place} (vacant : t.get? x = none)
    (onWay : ∃ p ∈ P.paths, x ∈ start.wayOf p) :
    P.Frame start t (t.put x .directory) := by
  have notRoot : x ≠ [] := by
    rintro rfl
    cases vacant
  have get? (y : Place) : (t.put x .directory).get? y = if y = x then some .directory
      else t.get? y :=
    Tree.get?_put notRoot
  have other {y : Place} (present : t.get? y ≠ none) : (t.put x .directory).get? y = t.get? y := by
    rw [get?, if_neg]
    rintro rfl
    exact present vacant
  refine ⟨fun y hy => ?_, fun y _ => ?_, fun y c _ _ hy => ?_, fun y _ away => ?_⟩
  · rw [other (by simp [hy]), hy]
  · by_cases hy : y = x
    · rw [Tree.linkAt, get?, if_pos hy, Tree.linkAt, hy, vacant]
    · rw [Tree.linkAt, get?, if_neg hy, Tree.linkAt]
  · rw [other (by simp [hy]), hy]
  · obtain ⟨p, hp, hx⟩ := onWay
    rw [get?, if_neg]
    rintro rfl
    exact away p hp hx

/-- A file is written to the place of a path of the plan. -/
theorem put_file {p : Path} {x : Place} (content : ByteArray) (hp : p ∈ P.files)
    (reaches : start.reach p = some x) (onWay : x ∈ start.wayOf p)
    (notDirectory : t.get? x ≠ some .directory) (noLink : t.linkAt x = none) :
    P.Frame start t (t.put x (.file content)) := by
  have get? (y : Place) : (t.put x (.file content)).get? y = if y = x then some (.file content)
      else t.get? y :=
    Tree.get?_put (Tree.ne_root notDirectory)
  refine ⟨fun y hy => ?_, fun y _ => ?_, fun y c _ away hy => ?_, fun y _ away => ?_⟩
  · rw [get?, if_neg, hy]
    rintro rfl
    exact notDirectory hy
  · by_cases hy : y = x
    · rw [Tree.linkAt, get?, if_pos hy, hy, noLink]
    · rw [Tree.linkAt, get?, if_neg hy, Tree.linkAt]
  · rw [get?, if_neg, hy]
    rintro rfl
    exact away p hp reaches
  · rw [get?, if_neg]
    rintro rfl
    exact away p (List.mem_append_left _ hp) onWay

/-- What changes only a place of a link that is no directory. -/
theorem at_link {x : Place} (hx : P.LinksAt start x) (notDirectory : t.get? x ≠ some .directory)
    (same : ∀ y, y ≠ x → t'.get? y = t.get? y) : P.Frame start t t' := by
  have apart {y : Place} (hy : ¬P.LinksAt start y) : y ≠ x := by
    rintro rfl
    exact hy hx
  refine ⟨fun y hy => ?_, fun y hy => ?_, fun y c hy _ here => ?_, fun y hy _ => same y (apart hy)⟩
  · rw [same, hy]
    rintro rfl
    exact notDirectory hy
  · rw [Tree.linkAt, same y (apart hy), Tree.linkAt]
  · rw [same y (apart hy), here]

end Frame

end Plan

/-- A file that is found under a path. -/
structure Tree.Holds (t : Tree) (p : Path) (f : Place) (content : ByteArray) : Prop where
  noNul : p.hasNul = false
  place : t.place p = .ok f
  entry : t.get? f = some (.file content)

namespace Plan.Frame

variable {P W : Plan} {start t t' : Tree} {p : Path} {f : Place} {content : ByteArray}

/-- A file that is kept is found under its path if no link is put on the way. -/
theorem holds (h : P.Frame start t t') (sofar : W.Frame start start t) (within : P.Within W)
    (clear : W.Clears start p) (kept : ¬P.LinksAt start f → t'.get? f = some (.file content))
    (here : t.Holds p f content) : t'.Holds p f content := by
  have notLink (x : Place) (hx : x ∈ t.wayOf p) : ¬P.LinksAt start x := by
    rw [(sofar.reach clear).2] at hx
    rintro ⟨l, hl, reaches⟩
    exact clear x hx ⟨l, within.links hl, reaches⟩
  have onWay : f ∈ t.wayOf p := Tree.mem_wayOf_of_place here.place (by simp [here.entry])
  have same : t'.get? f = t.get? f := (kept (notLink f onWay)).trans here.entry.symm
  refine ⟨here.noNul, Tree.place_mono here.place same fun x hx e notFile he => ?_,
    kept (notLink f onWay)⟩
  exact h.entry_of_not_file (notLink x hx) he notFile

/-- A file is kept by operations that write to no path that leads to it, and put no link on its
way. -/
theorem holds_of_away (h : P.Frame start t t') (sofar : W.Frame start start t) (within : P.Within W)
    (clear : W.Clears start p) (away : ∀ q ∈ P.files, start.reach q ≠ some f)
    (here : t.Holds p f content) :
    t'.Holds p f content :=
  h.holds sofar within clear (fun notLink => h.content f content notLink away here.entry) here

end Plan.Frame

/-- A file that is found under a path at the start, and that nothing within a plan reaches. -/
structure Plan.Spares (P : Plan) (t : Tree) (p : Path) (f : Place)
    (content : ByteArray) : Prop where
  holds : t.Holds p f content
  clear : P.Clears t p
  away : ∀ q ∈ P.files, t.reach q ≠ some f

namespace Change

section Endings

variable {p : Path} {t : Tree}

/-- A search that fails leaves the tree as it is. -/
theorem ends_found {α : Type} {x : Except Reason α} {P : α → Tree → Prop} {F : Fault → Tree → Prop}
    (ok : ∀ a, x = .ok a → P a t) (error : ∀ fault, F fault t) : Ends (found p x) t P F := by
  cases x with
  | ok a => exact ok a rfl
  | error reason => exact error _

/-- An entry is made where there is nothing. -/
theorem ends_makeEntry (p : Path) (entry : Entry) (t : Tree) :
    Ends (makeEntry p entry) t
      (fun _ t' => ∃ x, t.placeOfLink p = .ok x ∧ t.get? x = none ∧ t' = t.put x entry)
      fun _ t' => t' = t := by
  refine ends_ite.2 ⟨fun _ => rfl,
    fun _ => ends_bind.2 (ends_bind.2 (ends_found (fun x hx => ?_) fun _ => rfl))⟩
  cases here : t.get? x with
  | some e =>
    exact rfl
  | none =>
    exact ⟨x, hx, here, rfl⟩

/-- Writes a file where there is no directory. -/
theorem ends_writeBytes (p : Path) (content : ByteArray) (t : Tree) :
    Ends (writeBytes p content) t
      (fun _ t' => p.hasNul = false ∧
        ∃ x, t.place p = .ok x ∧ t.get? x ≠ some .directory ∧ t' = t.put x (.file content))
      fun _ t' => t' = t := by
  refine ends_ite.2 ⟨fun _ => rfl,
    fun noNul => ends_bind.2 (ends_bind.2 (ends_found (fun found hfound => ?_) ?_))⟩
  rotate_left
  · exact fun _ => rfl
  rw [Bool.not_eq_true] at noNul
  obtain ⟨x, hx, hfound⟩ : ∃ x, t.place p = .ok x ∧ found = (x, t.get? x) := by
    unfold Tree.find at hfound
    cases hplace : t.place p with
    | error reason =>
      rw [hplace] at hfound
      cases hfound
    | ok x =>
      rw [hplace] at hfound
      cases hfound
      exact ⟨x, rfl, rfl⟩
  rw [hfound]
  cases here : t.get? x with
  | none => exact ⟨noNul, x, hx, by simp [here], rfl⟩
  | some e =>
    cases e with
    | directory => exact rfl
    | file | link => exact ⟨noNul, x, hx, by simp [here], rfl⟩

/-- Removes a file or a link. -/
theorem ends_remove (p : Path) (t : Tree) :
    Ends (remove p) t
      (fun _ t' => ∃ x, t.placeOfLink p = .ok x ∧ t.get? x ≠ some .directory ∧ t' = t.erase x)
      fun _ t' => t' = t := by
  refine ends_ite.2 ⟨fun _ => rfl,
    fun _ => ends_bind.2 (ends_bind.2 (ends_found (fun x hx => ?_) fun _ => rfl))⟩
  cases here : t.get? x with
  | none =>
    exact rfl
  | some e =>
    cases e with
    | directory =>
      exact rfl
    | file | link =>
      exact ⟨x, hx, by simp [here], rfl⟩

/-- A path under which a file is found is present. -/
theorem ends_isPresent_of_holds {f : Place} {content : ByteArray} (h : t.Holds p f content) :
    Ends (isPresent p) t (fun present t' => present = true ∧ t' = t) fun _ _ => False := by
  refine ends_bind.2 (ends_bind.2 (ends_ite.2 ⟨fun nul => ?_, fun _ => ?_⟩))
  · rw [h.noNul] at nul
    cases nul
  · simp only [h.place, ends_pure, h.entry]
    exact ⟨rfl, trivial⟩

/-- A path that is led to a place with nothing is not present. -/
theorem ends_isPresent_of_vacant (vacant : ∀ x, t.reach p = some x → t.get? x = none) :
    Ends (isPresent p) t (fun present t' => present = false ∧ t' = t) fun _ _ => True := by
  refine ends_bind.2 (ends_bind.2 (ends_ite.2 ⟨fun _ => ⟨rfl, rfl⟩, fun _ => ?_⟩))
  split
  · rename_i x hx
    rw [vacant x (Tree.reach_of_place hx)]
    exact ⟨rfl, rfl⟩
  · exact trivial
  · exact ⟨rfl, rfl⟩

/-- The path with all links followed is that of the place to which the links lead. -/
theorem ends_resolve (p : Path) (t : Tree) :
    Ends (resolve p) t (fun q t' => t' = t ∧ ∃ x, t.reach p = some x ∧ q = ⟨"/", x⟩)
      fun _ t' => t' = t := by
  refine ends_ite.2 ⟨fun _ => rfl, fun _ => ends_bind.2 (ends_get.2 ?_)⟩
  rw [← Tree.reach]
  cases t.reach p with
  | none => exact rfl
  | some x => exact ⟨rfl, x, rfl, rfl⟩

end Endings

end Change

/-- What operations within a plan may do, in a run that started in one tree with the whole of its
plan. -/
def altering (start : Tree) (W P : Plan) : Effect Fault Tree where
  holds t := W.Frame start start t
  change := P.Frame start
  fault _ := True
  refl := .refl P start
  trans := .trans

namespace Change

variable {start : Tree} {W P : Plan} {α : Type}

/-- A step within a part of the plan of a run. -/
theorem altering_step {t t' : Tree} (within : P.Within W) (ht : W.Frame start start t)
    (h : P.Frame start t t') :
    (altering start W P).holds t' ∧ (altering start W P).change t t' :=
  ⟨ht.trans (h.mono within), h⟩

/-- Operations that look at files are within every plan. -/
theorem altering_of_reading {x : Change α} (h : reading.Covers x) :
    (altering start W P).Covers x := by
  intro t ht
  refine (h t trivial).mono ?_ ?_
  · rintro a t' ⟨-, rfl⟩
    exact ⟨ht, .refl P start _⟩
  · rintro fault t' ⟨-, rfl, -⟩
    exact ⟨ht, .refl P start _, trivial⟩

/-- Directories are made on the way of a path of the plan. -/
theorem altering_makeDirectory (aside : W.LinksAside start) (within : P.Within W) {p q : Path}
    (hp : p ∈ P.paths) (hq : q.names <+: p.names) :
    (altering start W P).Covers (makeDirectory q) := by
  intro t ht
  refine (ends_makeEntry q .directory t).mono ?_ ?_
  · rintro - t' ⟨x, hx, vacant, rfl⟩
    refine altering_step within ht (.put_directory vacant ⟨p, hp, ?_⟩)
    have onWay : start.wayOf q ⊆ start.wayOf p := Tree.wayOf_subset hq
    have clear : W.Clears start q := fun y hy => aside.paths p (within.paths hp) y (onWay hy)
    refine onWay ?_
    rw [← (ht.reach clear).2]
    have noLink : t.linkAt x = none := Tree.linkAt_eq_none.2 fun target => by simp [vacant]
    exact Tree.mem_wayOf_of_place (Tree.place_of_placeOfLink hx noLink) (by simp [vacant])
  · rintro fault t' rfl
    exact ⟨ht, .refl P start _, trivial⟩

/-- What may be done when a directory is made, or looked for, may be done when it is made sure to be
there. -/
theorem covers_ensureDirectory {R : Effect Fault Tree} {p : Path}
    (makes : R.Covers (makeDirectory p)) (looks : R.Covers (isDirectory p)) :
    R.Covers (ensureDirectory p) := by
  refine makes.tryCatch fun fault permitted => ?_
  split
  · exact Effect.covers_throw permitted
  · refine looks.bind fun present => ?_
    exact Effect.Covers.ite (fun _ => Effect.covers_pure _) fun _ => Effect.covers_throw permitted
  · exact Effect.covers_throw permitted

/-- Directories are made from the top, as far as they are missing. -/
theorem covers_ensureDirectories {R : Effect Fault Tree} (among : Path → Prop)
    (above : ∀ p, among p → among p.parent) (makes : ∀ p, among p → R.Covers (makeDirectory p))
    (looks : ∀ p, among p → R.Covers (isDirectory p)) {p : Path} (hp : among p) :
    R.Covers (ensureDirectories p) := by
  induction hn : p.names.length using Nat.strongRecOn generalizing p with
  | ind n ih =>
    rw [ensureDirectories]
    refine (makes p hp).tryCatch fun fault permitted => ?_
    split
    · split
      · exact Effect.covers_throw permitted
      · rename_i more
        have shorter : p.parent.names.length < n := by
          have := List.length_pos_iff.2 more
          simp only [Path.parent, List.length_dropLast]
          omega
        exact (ih _ shorter (above p hp) rfl).bind fun _ =>
          covers_ensureDirectory (makes p hp) (looks p hp)
    · refine (looks p hp).bind fun present => ?_
      exact Effect.Covers.ite (fun _ => Effect.covers_pure _) fun _ => Effect.covers_throw permitted
    · exact Effect.covers_throw permitted

/-- A directory of the plan is made, with those above it. -/
theorem altering_ensureDirectories (aside : W.LinksAside start) (within : P.Within W) {p q : Path}
    (hp : p ∈ P.paths) (hq : q.names <+: p.names) :
    (altering start W P).Covers (ensureDirectories q) :=
  covers_ensureDirectories (·.names <+: p.names)
    (fun _ above => (List.dropLast_prefix _).trans above)
    (fun _ above => altering_makeDirectory aside within hp above)
    (fun q _ => altering_of_reading (covers_isDirectory q)) hq

/-- A file of the plan is written. -/
theorem altering_writeBytes (aside : W.LinksAside start) (within : P.Within W) {p : Path}
    (hp : p ∈ P.files) (content : ByteArray) :
    (altering start W P).Covers (writeBytes p content) := by
  intro t ht
  refine (ends_writeBytes p content t).mono ?_ ?_
  · rintro - t' ⟨-, x, hx, notDirectory, rfl⟩
    have same := ht.reach (aside.paths p (within.paths (List.mem_append_left _ hp)))
    refine altering_step within ht
      (.put_file content hp ?_ ?_ notDirectory (Tree.linkAt_of_place hx))
    · rw [← same.1]
      exact Tree.reach_of_place hx
    · rw [← same.2]
      exact Tree.mem_wayOf_of_place hx notDirectory
  · rintro fault t' rfl
    exact ⟨ht, .refl P start _, trivial⟩

/-- A file of the plan is written, and the directories above it are made. Then the file is found. -/
theorem ensures_place (aside : W.LinksAside start) (within : P.Within W) {p : Path}
    (hp : p ∈ P.files) (content : ByteArray) :
    (altering start W P).Ensures (place p content) fun _ t => ∃ f, t.Holds p f content := by
  have inPaths : p ∈ P.paths := List.mem_append_left _ hp
  have above : (altering start W P).Covers (ensureDirectories p.parent) :=
    altering_ensureDirectories aside within inPaths (List.dropLast_prefix p.names)
  refine above.ensures.bind fun _ t _ ht => ?_
  refine ((altering_writeBytes aside within hp content t ht).and
    (ends_writeBytes p content t)).mono ?_ ?_
  · rintro - t' ⟨change, noNul, x, hx, notDirectory, rfl⟩
    refine ⟨change, x, noNul, Tree.place_put hx notDirectory content, ?_⟩
    rw [Tree.get?_put (Tree.ne_root notDirectory), if_pos rfl]
  · exact fun _ _ h => h.1

/-- The place at which a link of the plan is put. -/
theorem linksAt_of_placeOfLink (aside : W.LinksAside start) (within : P.Within W) {t : Tree}
    (ht : W.Frame start start t) {l : Path} (hl : l ∈ P.links) {x : Place}
    (hx : t.placeOfLink l = .ok x) (notDirectory : t.get? x ≠ some .directory) :
    P.LinksAt start x := by
  refine ⟨l, hl, ?_⟩
  rw [← ht.reachLink (aside.parents l (within.links hl))]
  exact Tree.reachLink_of_placeOfLink hx notDirectory

/-- What is at a link of the plan is removed. -/
theorem altering_remove (aside : W.LinksAside start) (within : P.Within W) {l : Path}
    (hl : l ∈ P.links) :
    (altering start W P).Covers (remove l) := by
  intro t ht
  refine (ends_remove l t).mono ?_ ?_
  · rintro - t' ⟨x, hx, notDirectory, rfl⟩
    have here := linksAt_of_placeOfLink aside within ht hl hx notDirectory
    refine altering_step within ht (.at_link here notDirectory fun y hy => ?_)
    rw [Tree.get?_erase (Tree.ne_root notDirectory), if_neg hy]
  · rintro fault t' rfl
    exact ⟨ht, .refl P start _, trivial⟩

/-- A link of the plan is made. -/
theorem altering_makeLink (aside : W.LinksAside start) (within : P.Within W) {l : Path}
    (hl : l ∈ P.links) (target : Path) : (altering start W P).Covers (makeLink l target) := by
  intro t ht
  refine (ends_makeEntry l (.link target) t).mono ?_ ?_
  · rintro - t' ⟨x, hx, vacant, rfl⟩
    have notDirectory : t.get? x ≠ some .directory := by simp [vacant]
    have here := linksAt_of_placeOfLink aside within ht hl hx notDirectory
    refine altering_step within ht (.at_link here notDirectory fun y hy => ?_)
    rw [Tree.get?_put (Tree.ne_root notDirectory), if_neg hy]
  · rintro fault t' rfl
    exact ⟨ht, .refl P start _, trivial⟩

end Change

end Componentry.Files
