import Mathlib.Data.List.Induction
import Componentry.Proofs.FileChanges

/-!
# Room for files

A file can be written at a path that leads to a file, to nothing in a directory that is there, or to
nothing below directories that can be made. Then only that file changes, and the directories above
it are made; there stays room for a file at every other path, unless one of the two places lies
above the other.
-/

namespace Componentry

namespace Files

/-- A path without a null character has none in the path above. -/
theorem Path.hasNul_parent {p : Path} (noNul : p.hasNul = false) : p.parent.hasNul = false := by
  rw [hasNul, List.any_eq_false] at noNul ⊢
  exact fun n hn => noNul n ((List.dropLast_subset p.names) hn)

namespace Tree

/-- Names below a directory under each of which there is a directory, or nothing. -/
structure Free (t : Tree) (base : Place) (names : List String) : Prop where
  allowed : ∀ name ∈ names, name ≠ ".." ∧ name.utf8ByteSize ≤ longestName
  places : ∀ made, made ≠ [] → made <+: names →
    t.get? (base ++ made) = none ∨ t.get? (base ++ made) = some .directory

/-- Room for a file at a path: one is found there or can be made, in a directory that is there or
can be made. -/
inductive Opens (t : Tree) (p : Path) : Place → Prop where
  | found {f : Place} (noNul : p.hasNul = false) (place : t.place p = .ok f)
      (notDirectory : t.get? f ≠ some .directory) : Opens t p f
  | below {base : Place} {above made : List String} {name : String} (noNul : p.hasNul = false)
      (parts : p.names = above ++ (made ++ [name]))
      (directory : t.walk true mostLinks [] above = .ok base)
      (isDirectory : t.get? base = some .directory) (free : t.Free base made)
      (named : name ≠ ".." ∧ name.utf8ByteSize ≤ longestName)
          (vacant : t.get? (base ++ (made ++ [name])) = none) :
      Opens t p (base ++ (made ++ [name]))

/-- A tree that has a file at a place where there was one or nothing, and directories above it where
there was nothing. -/
structure Filled (t t' : Tree) (f : Place) (content : ByteArray) : Prop where
  before : ∀ e, t.get? f = some e → ∃ c, e = .file c
  file : t'.get? f = some (.file content)
  other : ∀ x, x ≠ f → t'.get? x = t.get? x ∨ t.get? x = none ∧
    t'.get? x = some .directory ∧ x <+: f

section Walks

variable {t t' : Tree} {links : Nat} {b base : Place} {above made more : List String}

/-- A walk goes on from the directory to which its first names lead. -/
theorem Walks.walk_append (h : t.Walks true links b above base)
    (isDirectory : t.get? base = some .directory) :
    ∃ rest, ∀ follows more, more ≠ [] →
      t.walk follows links b (above ++ more) = t.walk follows rest base more := by
  induction h with
  | done links base => exact ⟨links, fun _ _ _ => rfl⟩
  | up _ ih =>
    obtain ⟨left, same⟩ := ih isDirectory
    refine ⟨left, fun follows more some => ?_⟩
    rw [List.cons_append, Tree.walk_cons, if_pos rfl]
    exact same follows more some
  | last _ _ _ other _ => exact absurd isDirectory other
  | down notUp short here _ ih =>
    obtain ⟨left, same⟩ := ih isDirectory
    refine ⟨left, fun follows more some => ?_⟩
    rw [List.cons_append, Tree.walk_cons, if_neg notUp, if_neg (Nat.not_lt.2 short)]
    simp only [here]
    exact same follows more some
  | hop notUp short link _ _ ih =>
    obtain ⟨left, same⟩ := ih isDirectory
    refine ⟨left, fun follows more some => ?_⟩
    rw [List.cons_append, Tree.walk_cons, if_neg notUp, if_neg (Nat.not_lt.2 short)]
    simp only [link]
    rw [if_neg (by simp [some]), ← List.append_assoc]
    exact same follows more some

/-- What is free below a place is free below the first directory that is made there. -/
theorem Free.tail {name : String} (free : t.Free base (name :: made)) :
    t.Free (base ++ [name]) made where
  allowed n hn := free.allowed n (List.mem_cons_of_mem _ hn)
  places rest _ among := by
    have places := free.places (name :: rest) (by simp) (List.cons_prefix_cons.2 ⟨rfl, among⟩)
    rwa [List.append_cons] at places

/-- The first directory is free, or already there. -/
theorem Free.head {name : String} (free : t.Free base (name :: made)) :
    t.get? (base ++ [name]) = none ∨ t.get? (base ++ [name]) = some .directory :=
  free.places [name] (by simp) (List.cons_prefix_cons.2 ⟨rfl, List.nil_prefix⟩)

/-- A walk passes directories that are all there. -/
theorem Free.walk_through (free : t.Free base made)
    (there : ∀ m, m ≠ [] → m <+: made → t.get? (base ++ m) = some .directory) (follows : Bool)
    (more : List String) :
    t.walk follows links base (made ++ more) = t.walk follows links (base ++ made) more := by
  induction made generalizing base with
  | nil => rw [List.nil_append, List.append_nil]
  | cons name made ih =>
    obtain ⟨notUp, short⟩ := free.allowed name List.mem_cons_self
    have here : t.get? (base ++ [name]) = some .directory :=
      there [name] (by simp) (List.cons_prefix_cons.2 ⟨rfl, List.nil_prefix⟩)
    rw [List.cons_append, Tree.walk_cons, if_neg notUp, if_neg (Nat.not_lt.2 short)]
    simp only [here]
    rw [ih free.tail fun m _ among => ?_, ← List.append_cons]
    have deeper := there (name :: m) (by simp) (List.cons_prefix_cons.2 ⟨rfl, among⟩)
    rwa [List.append_cons] at deeper

/-- A walk ends where the first directory is missing. -/
theorem Free.walk_missing (free : t.Free base made) {m : List String} (among : m <+: made)
    (missing : t.get? (base ++ m) = none) (named : m ≠ []) (follows : Bool) (some : more ≠ []) :
    t.walk follows links base (made ++ more) = .error .missing := by
  induction made generalizing base m with
  | nil => exact absurd (List.prefix_nil.1 among) named
  | cons name made ih =>
    obtain ⟨notUp, short⟩ := free.allowed name List.mem_cons_self
    rw [List.cons_append, Tree.walk_cons, if_neg notUp, if_neg (Nat.not_lt.2 short)]
    rcases free.head with vacant | here
    · simp [vacant, some]
    · simp only [here]
      obtain ⟨n, m, rfl⟩ := List.exists_cons_of_ne_nil named
      obtain ⟨rfl, deeper⟩ := List.cons_prefix_cons.1 among
      rw [List.append_cons] at missing
      refine ih free.tail deeper missing ?_
      rintro rfl
      rw [List.append_nil, here] at missing
      cases missing

/-- A walk ends at a last name under which there is nothing, or a directory. -/
theorem walk_last {name : String} (named : name ≠ ".." ∧ name.utf8ByteSize ≤ longestName)
    (open_ : t.get? (base ++ [name]) = none ∨ t.get? (base ++ [name]) = some .directory)
    (follows : Bool) :
    t.walk follows links base [name] = .ok (base ++ [name]) := by
  rw [Tree.walk_cons, if_neg named.1, if_neg (Nat.not_lt.2 named.2)]
  rcases open_ with vacant | here
  · simp [vacant]
  · simp only [here]
    rw [Tree.walk]

/-- What leads to a directory leads to an entry if its last name is not followed. -/
theorem Walks.exists_entry (h : t.Walks true links b above base)
    (isDirectory : t.get? base = some .directory) :
    ∃ x, t.walk false links b above = .ok x ∧ t.get? x ≠ none := by
  induction h with
  | done links base => exact ⟨base, by rw [Tree.walk], by simp [isDirectory]⟩
  | up _ ih =>
    rw [Tree.walk_cons, if_pos rfl]
    exact ih isDirectory
  | last _ _ _ other _ => exact absurd isDirectory other
  | down notUp short here _ ih =>
    rw [Tree.walk_cons, if_neg notUp, if_neg (Nat.not_lt.2 short)]
    simp only [here]
    exact ih isDirectory
  | @hop _ base _ name rest _ notUp short link _ _ ih =>
    rw [Tree.walk_cons, if_neg notUp, if_neg (Nat.not_lt.2 short)]
    simp only [link]
    cases rest with
    | nil => exact ⟨base ++ [name], by simp, by simp [link]⟩
    | cons next rest =>
      rw [if_neg (by simp)]
      exact ih isDirectory

/-- What leads to a file, or to nothing, leads to a directory without its last name. -/
theorem Walks.exists_parent {f : Place} {names : List String} (h : t.Walks true links b names f)
    (solid : t.Solid b) (notDirectory : t.get? f ≠ some .directory) :
    ∃ d, t.Walks true links b names.dropLast d ∧ t.get? d = some .directory := by
  induction h with
  | done => exact absurd solid.isDirectory notDirectory
  | @up links base f rest h ih =>
    cases rest with
    | nil =>
      cases h
      exact absurd solid.up.isDirectory notDirectory
    | cons next rest =>
      obtain ⟨d, walks, isDirectory⟩ := ih solid.up notDirectory
      exact ⟨d, .up walks, isDirectory⟩
  | last links _ _ _ _ => exact ⟨_, .done _ _, solid.isDirectory⟩
  | @down _ _ _ _ rest notUp short here h ih =>
    cases rest with
    | nil =>
      cases h
      exact absurd here notDirectory
    | cons next rest =>
      obtain ⟨d, walks, isDirectory⟩ := ih (solid.down notUp short here) notDirectory
      exact ⟨d, .down notUp short here walks, isDirectory⟩
  | @hop _ _ _ _ rest target notUp short link goesOn _ ih =>
    cases rest with
    | nil => exact ⟨_, .done _ _, solid.isDirectory⟩
    | cons next rest =>
      obtain ⟨d, walks, isDirectory⟩ := ih (solid.base _) notDirectory
      rw [List.dropLast_append_of_ne_nil (by simp)] at walks
      exact ⟨d, .hop notUp short link (fun _ => rfl) walks, isDirectory⟩

end Walks

end Tree

namespace Change

section Directories

variable {t : Tree} {p : Path} {x y : Place}

/-- A place with a directory is found to be one. -/
theorem ends_isDirectory_of_place (noNul : p.hasNul = false) (place : t.place p = .ok x)
    (here : t.get? x = some .directory) :
    Ends (isDirectory p) t (fun present t' => present = true ∧ t' = t) fun _ _ => False := by
  refine ends_bind.2 (ends_bind.2 (ends_ite_of_not (by simp [noNul]) ?_))
  simp only [place, ends_pure, here]
  exact ⟨trivial, trivial⟩

/-- Where a directory is to be made, there is nothing, and it is made, or there is an entry. -/
theorem ends_makeDirectory_of_place (noNul : p.hasNul = false) (place : t.placeOfLink p = .ok y) :
    Ends (makeDirectory p) t (fun _ t' => t.get? y = none ∧ t' = t.put y .directory) fun fault t' =>
      t.get? y ≠ none ∧ fault = .file ⟨.alreadyExists, p.toText⟩ ∧ t' = t := by
  refine ends_ite_of_not (by simp [noNul]) (ends_bind.2 (ends_get.2 (ends_bind.2 ?_)))
  rw [place]
  refine ends_pure.2 ?_
  cases t.get? y with
  | none => exact ⟨rfl, rfl⟩
  | some e => exact ⟨nofun, rfl, rfl⟩

/-- A directory whose parent is missing is not made. -/
theorem ends_makeDirectory_of_missing (noNul : p.hasNul = false)
    (missing : t.placeOfLink p = .error .missing) :
    Ends (makeDirectory p) t (fun _ _ => False) fun fault t' =>
      fault = .file ⟨.missing, p.toText⟩ ∧ t' = t := by
  refine ends_ite_of_not (by simp [noNul]) (ends_bind.2 (ends_get.2 (ends_bind.2 ?_)))
  rw [missing]
  exact ⟨rfl, rfl⟩

/-- A directory is made where there is nothing, and left as it is where it is found. -/
theorem ends_makeDirectory_or {handle : Fault → Change Unit} (noNul : p.hasNul = false)
    (place : t.placeOfLink p = .ok y)
    (there : t.get? y ≠ none → ∃ x, t.place p = .ok x ∧ t.get? x = some .directory)
    (handles : ∀ text, handle (.file ⟨.alreadyExists, text⟩) = do
      if ← isDirectory p then pure () else throw (.file ⟨.alreadyExists, text⟩)) :
    Ends (tryCatch (makeDirectory p) handle) t
      (fun _ t' => t' = if t.get? y = none then t.put y .directory else t) fun _ _ => False := by
  refine ends_tryCatch.2 ((ends_makeDirectory_of_place noNul place).mono ?_ ?_)
  · intro _ t' made
    rw [if_pos made.1]
    exact made.2
  · intro fault t' found
    obtain ⟨entry, rfl, rfl⟩ := found
    obtain ⟨x, place, here⟩ := there entry
    rw [handles]
    refine ends_bind.2 ((ends_isDirectory_of_place noNul place here).mono ?_ fun _ _ never => never)
    intro present t' same
    obtain ⟨rfl, rfl⟩ := same
    rw [if_neg entry]
    rfl

/-- A directory is made, or found where a path leads to one. -/
theorem ends_ensureDirectory (noNul : p.hasNul = false) (place : t.placeOfLink p = .ok y)
    (there : t.get? y ≠ none → ∃ x, t.place p = .ok x ∧ t.get? x = some .directory) :
    Ends (ensureDirectory p) t
      (fun _ t' => t' = if t.get? y = none then t.put y .directory else t) fun _ _ => False :=
  ends_makeDirectory_or noNul place there fun _ => rfl

/-- A directory is made at its place, or found there. -/
theorem ends_ensureDirectories_of_place (noNul : p.hasNul = false) (place : t.placeOfLink p = .ok y)
    (there : t.get? y ≠ none → ∃ x, t.place p = .ok x ∧ t.get? x = some .directory) :
    Ends (ensureDirectories p) t
      (fun _ t' => t' = if t.get? y = none then t.put y .directory else t) fun _ _ => False := by
  rw [ensureDirectories]
  exact ends_makeDirectory_or noNul place there fun _ => rfl

/-- A directory whose parent is missing is made after it. -/
theorem ends_ensureDirectories_of_missing {Q : Tree → Prop} (noNul : p.hasNul = false)
    (named : p.names ≠ []) (missing : t.placeOfLink p = .error .missing)
    (above : Ends (ensureDirectories p.parent) t (fun _ t' =>
        Ends (ensureDirectory p) t' (fun _ u => Q u) fun _ _ => False) fun _ _ => False) :
    Ends (ensureDirectories p) t (fun _ u => Q u) fun _ _ => False := by
  rw [ensureDirectories]
  refine ends_tryCatch.2
    ((ends_makeDirectory_of_missing noNul missing).mono (fun _ _ never => never.elim) ?_)
  intro fault t' same
  obtain ⟨rfl, rfl⟩ := same
  simp only [named, dite_false]
  exact ends_bind.2 above

/-- A directory that is there, whatever leads to it, needs not be made. -/
theorem ends_ensureDirectories_there (noNul : p.hasNul = false) (place : t.place p = .ok x)
    (here : t.get? x = some .directory) :
    Ends (ensureDirectories p) t (fun _ t' => t' = t) fun _ _ => False := by
  obtain ⟨y, link, entry⟩ := (Tree.walks_of_place place).exists_entry here
  refine (ends_ensureDirectories_of_place noNul link fun _ => ⟨x, place, here⟩).mono ?_
    fun _ _ never => never
  intro _ t' same
  rwa [if_neg entry] at same

end Directories

end Change

namespace Tree

/-- A tree in which names below a directory are directories, and nothing else has changed. -/
structure Grown (t t' : Tree) (base : Place) (names : List String) : Prop where
  made : ∀ m, m <+: names → t'.get? (base ++ m) = some .directory
  other : ∀ x, (∀ m, m ≠ [] → m <+: names → x ≠ base ++ m) → t'.get? x = t.get? x

section Grown

variable {t t' : Tree} {base : Place} {names : List String}

/-- What was there stays where directories are made. -/
theorem Grown.kept (h : t.Grown t' base names) (free : t.Free base names) {x : Place} {e : Entry}
    (here : t.get? x = some e) :
    t'.get? x = some e := by
  by_cases among : ∃ m, m ≠ [] ∧ m <+: names ∧ x = base ++ m
  · obtain ⟨m, named, isPrefix, rfl⟩ := among
    have directory : t.get? (base ++ m) = some .directory := by
      rcases free.places m named isPrefix with vacant | directory
      · rw [vacant] at here
        cases here
      · exact directory
    rw [h.made m isPrefix, ← directory, here]
  · rw [h.other x fun m named isPrefix same => among ⟨m, named, isPrefix, same⟩, here]

/-- A walk to an entry stays where directories are made. -/
theorem Grown.place (h : t.Grown t' base names) (free : t.Free base names) {p : Path} {x : Place}
    (place : t.place p = .ok x) {e : Entry} (here : t.get? x = some e) : t'.place p = .ok x :=
  place_mono place ((h.kept free here).trans here.symm) fun _ _ _ _ there => h.kept free there

/-- What is free for all directories is free for the first ones. -/
theorem Free.left {more : List String} (free : t.Free base (names ++ more)) :
    t.Free base names where
  allowed n hn := free.allowed n (List.mem_append_left _ hn)
  places m named isPrefix := free.places m named (isPrefix.trans (List.prefix_append _ _))

variable {above : List String} {name : String}

/-- With the directories above it, a path leads to a last name under which there is nothing, or a
directory. -/
theorem Grown.walk (h : t.Grown t' base names) (free : t.Free base names)
    (directory : t.walk true mostLinks [] above = .ok base) (here : t.get? base = some .directory)
    (named : name ≠ ".." ∧ name.utf8ByteSize ≤ longestName)
    (last : t.get? (base ++ (names ++ [name])) = none ∨
      t.get? (base ++ (names ++ [name])) = some .directory)
    (follows : Bool) :
    t'.get? (base ++ (names ++ [name])) = t.get? (base ++ (names ++ [name])) ∧
      t'.walk follows mostLinks [] (above ++ (names ++ [name])) =
        .ok (base ++ (names ++ [name])) := by
  have same : t'.get? (base ++ (names ++ [name])) = t.get? (base ++ (names ++ [name])) := by
    refine h.other _ fun m _ isPrefix equal => ?_
    have shorter := isPrefix.length_le
    rw [← List.append_cancel_left equal, List.length_append, List.length_singleton] at shorter
    omega
  have grown : t'.Free base names := ⟨free.allowed, fun m _ isPrefix => .inr (h.made m isPrefix)⟩
  have directory' : t'.place ⟨"", above⟩ = .ok base :=
    h.place free (p := ⟨"", above⟩) directory here
  obtain ⟨left, goes⟩ := (walks_of_place directory').walk_append (h.kept free here)
  refine ⟨same, ?_⟩
  rw [goes follows _ (by simp), grown.walk_through fun m _ isPrefix => h.made m isPrefix]
  rw [← List.append_assoc] at same last ⊢
  exact walk_last named (by rwa [same]) follows

/-- One more directory is made, or left as it is. -/
theorem Grown.next (h : t.Grown t' base names) (free : t.Free base (names ++ [name]))
    (same : t'.get? (base ++ (names ++ [name])) = t.get? (base ++ (names ++ [name]))) :
    t.Grown (if t'.get? (base ++ (names ++ [name])) = none then
      t'.put (base ++ (names ++ [name])) .directory else t') base (names ++ [name]) := by
  have put (x : Place) : (t'.put (base ++ (names ++ [name])) .directory).get? x =
      if x = base ++ (names ++ [name]) then some .directory else t'.get? x := get?_put (by simp)
  have full : names ++ [name] ≠ [] := by simp
  constructor
  · intro m isPrefix
    split
    · rw [put]
      split
      · rfl
      · rename_i other
        rcases List.prefix_concat_iff.1 isPrefix with rfl | isPrefix
        · exact absurd rfl other
        · exact h.made m isPrefix
    · rename_i there
      rcases List.prefix_concat_iff.1 isPrefix with rfl | isPrefix
      · rw [same] at there ⊢
        exact (free.places _ full (List.prefix_refl _)).resolve_left there
      · exact h.made m isPrefix
  · intro x away
    have unchanged : t'.get? x = t.get? x :=
      h.other x fun m named isPrefix => away m named (isPrefix.trans (List.prefix_append _ _))
    split
    · rw [put, if_neg (away _ full (List.prefix_refl _)), unchanged]
    · exact unchanged

end Grown

end Tree

namespace Change

open Files.Tree (mostLinks longestName)

variable {t : Tree} {p : Path} {base : Place} {above made : List String}

/-- All directories are made that are missing below one that is there. -/
theorem ends_ensureDirectories_below (directory : t.walk true mostLinks [] above = .ok base)
    (here : t.get? base = some .directory) (free : t.Free base made) (noNul : p.hasNul = false)
    (parts : p.names = above ++ made) :
    Ends (ensureDirectories p) t (fun _ t' => t.Grown t' base made) fun _ _ => False := by
  induction made using List.reverseRecOn generalizing p with
  | nil =>
    rw [List.append_nil] at parts
    have place : t.place p = .ok base := by rw [Tree.place, parts, directory]
    refine (ends_ensureDirectories_there noNul place here).mono ?_ fun _ _ never => never
    intro _ t' same
    rw [same]
    refine ⟨fun m isPrefix => ?_, fun _ _ => rfl⟩
    rw [List.prefix_nil.1 isPrefix, List.append_nil, here]
  | append_singleton made name ih =>
    have named := free.allowed name (by simp)
    have last := free.places (made ++ [name]) (by simp) (List.prefix_refl _)
    -- The last directory is made when those above it are there.
    have makes {t' : Tree} (grown : t.Grown t' base made) :
        t'.placeOfLink p = .ok (base ++ (made ++ [name])) ∧
        (t'.get? (base ++ (made ++ [name])) ≠ none →
          ∃ x, t'.place p = .ok x ∧ t'.get? x = some .directory) ∧
        ∀ u, u = (if t'.get? (base ++ (made ++ [name])) = none then
          t'.put (base ++ (made ++ [name])) .directory else t') →
          t.Grown u base (made ++ [name]) := by
      have walks := grown.walk free.left directory here named last
      rw [Tree.placeOfLink, Tree.place, parts]
      refine ⟨(walks false).2, fun there => ⟨_, (walks true).2, ?_⟩, ?_⟩
      · rw [(walks true).1] at there ⊢
        exact last.resolve_left there
      · intro u same
        rw [same]
        exact grown.next free (walks true).1
    by_cases missing : ∃ m, m ≠ [] ∧ m <+: made ∧ t.get? (base ++ m) = none
    · obtain ⟨m, nonempty, isPrefix, vacant⟩ := missing
      have fails : t.placeOfLink p = .error .missing := by
        obtain ⟨left, goes⟩ := (Tree.walks_of_walk directory).walk_append here
        rw [Tree.placeOfLink, parts, goes false _ (by simp)]
        exact free.left.walk_missing isPrefix vacant nonempty false (by simp)
      have parent : p.parent.names = above ++ made := by
        rw [Path.parent, parts, ← List.append_assoc, List.dropLast_concat]
      refine ends_ensureDirectories_of_missing noNul (by simp [parts]) fails ?_
      refine (ih free.left (Path.hasNul_parent noNul) parent).mono (fun _ t' grown => ?_)
        fun _ _ never => never
      obtain ⟨place, there, next⟩ := makes grown
      exact (ends_ensureDirectory noNul place there).mono (fun _ u same => next u same)
        fun _ _ never => never
    · have grown : t.Grown t base made := by
        refine ⟨fun m isPrefix => ?_, fun _ _ => rfl⟩
        by_cases empty : m = []
        · rw [empty, List.append_nil, here]
        · refine (free.left.places m empty isPrefix).resolve_left fun vacant => ?_
          exact missing ⟨m, empty, isPrefix, vacant⟩
      obtain ⟨place, there, next⟩ := makes grown
      exact (ends_ensureDirectories_of_place noNul place there).mono (fun _ u same => next u same)
        fun _ _ never => never

/-- A file is written where there is a path to it, and no directory. -/
theorem ends_writeBytes_of_place (noNul : p.hasNul = false) {f : Place} (place : t.place p = .ok f)
    (notDirectory : t.get? f ≠ some .directory) (content : ByteArray) :
    Ends (writeBytes p content) t (fun _ t' => t' = t.put f (.file content)) fun _ _ => False := by
  have found : t.find p = .ok (f, t.get? f) := by
    rw [Tree.find, place]
    rfl
  refine ends_ite_of_not (by simp [noNul]) (ends_bind.2 (ends_get.2 (ends_bind.2 ?_)))
  rw [found]
  refine ends_pure.2 ?_
  cases here : t.get? f with
  | none => exact rfl
  | some e =>
    cases e with
    | directory => exact absurd here notDirectory
    | file | link => exact rfl

/-- Where there is a path to a file, no directories have to be made for it. -/
theorem ends_place_of_place (noNul : p.hasNul = false) {f : Place} (place : t.place p = .ok f)
    (notDirectory : t.get? f ≠ some .directory) (content : ByteArray) :
    Ends (Change.place p content) t (fun _ t' => t' = t.put f (.file content))
      fun _ _ => False := by
  obtain ⟨d, walks, here⟩ := (Tree.walks_of_place place).exists_parent (.root t) notDirectory
  have above :=
    ends_ensureDirectories_there (Path.hasNul_parent noNul) (p := p.parent) walks.walk here
  refine ends_bind.2 (above.mono (fun _ t' same => ?_) fun _ _ never => never)
  rw [same]
  exact ends_writeBytes_of_place noNul place notDirectory content

/-- Directories that are missing are made before the file is written. -/
theorem ends_place_below {name : String} (noNul : p.hasNul = false)
    (parts : p.names = above ++ (made ++ [name]))
    (directory : t.walk true mostLinks [] above = .ok base) (here : t.get? base = some .directory)
    (free : t.Free base made) (named : name ≠ ".." ∧ name.utf8ByteSize ≤ longestName)
    (vacant : t.get? (base ++ (made ++ [name])) = none) (content : ByteArray) :
    Ends (Change.place p content) t
      (fun _ t' => ∃ u, t.Grown u base made ∧ u.place p = .ok (base ++ (made ++ [name])) ∧
      u.get? (base ++ (made ++ [name])) = none ∧
        t' = u.put (base ++ (made ++ [name])) (.file content)) fun _ _ => False := by
  have parent : p.parent.names = above ++ made := by
    rw [Path.parent, parts, ← List.append_assoc, List.dropLast_concat]
  have grows := ends_ensureDirectories_below directory here free (Path.hasNul_parent noNul) parent
  refine ends_bind.2 (grows.mono (fun _ u grown => ?_) fun _ _ never => never)
  obtain ⟨same, walks⟩ := grown.walk free directory here named (.inl vacant) true
  have place : u.place p = .ok (base ++ (made ++ [name])) := by rw [Tree.place, parts, walks]
  have empty : u.get? (base ++ (made ++ [name])) = none := same.trans vacant
  refine (ends_writeBytes_of_place noNul place (by simp [empty]) content).mono ?_
    fun _ _ never => never
  exact fun _ t' written => ⟨u, grown, place, empty, written⟩

end Change

namespace Tree

variable {t t' : Tree} {p q : Path} {f g : Place} {content : ByteArray}

/-- Where there is room for a file, there is one or nothing. -/
theorem Opens.entry (h : t.Opens p f) {e : Entry} (here : t.get? f = some e) :
    ∃ c, e = .file c := by
  cases h with
  | found _ place notDirectory =>
    have noLink := linkAt_of_place place
    cases e with
    | file c => exact ⟨c, rfl⟩
    | directory => exact absurd here notDirectory
    | link target => exact absurd here (linkAt_eq_none.1 noLink target)
  | below _ _ _ _ _ _ vacant =>
    rw [vacant] at here
    cases here

/-- A path at which there is room for a file leads there, unless a directory is missing. -/
theorem Opens.place_or (h : t.Opens p f) :
    t.place p = .ok f ∨ t.place p = .error .missing ∧ t.get? f = none := by
  cases h with
  | found _ place _ => exact .inl place
  | @below base above made name noNul parts directory here free named vacant =>
    obtain ⟨left, goes⟩ := (walks_of_walk directory).walk_append here
    rw [Tree.place, parts, goes true _ (by simp)]
    by_cases missing : ∃ m, m ≠ [] ∧ m <+: made ∧ t.get? (base ++ m) = none
    · obtain ⟨m, nonempty, isPrefix, empty⟩ := missing
      exact .inr ⟨free.walk_missing isPrefix empty nonempty true (by simp), vacant⟩
    · have there (m : List String) (nonempty : m ≠ []) (isPrefix : m <+: made) :
          t.get? (base ++ m) = some .directory :=
        (free.places m nonempty isPrefix).resolve_left fun empty =>
          missing ⟨m, nonempty, isPrefix, empty⟩
      rw [free.walk_through there, ← List.append_assoc]
      rw [← List.append_assoc] at vacant
      exact .inl (walk_last named (.inl vacant) true)

/-- A path that opens a file has no null character. -/
theorem Opens.noNul (h : t.Opens p f) : p.hasNul = false := by
  cases h <;> assumption

/-- A file is put at a place with no other entry. -/
theorem filled_put (file : ∀ e, t.get? f = some e → ∃ c, e = .file c) :
    t.Filled (t.put f (.file content)) f content := by
  have notRoot : f ≠ [] := ne_root fun here => by simpa using file _ here
  refine ⟨file, by rw [get?_put notRoot, if_pos rfl], fun x other => .inl ?_⟩
  rw [get?_put notRoot, if_neg other]

/-- A file below directories that were made for it. -/
theorem Grown.filled_put {base : Place} {made : List String} {name : String}
    (h : t.Grown t' base made) (free : t.Free base made)
    (vacant : t.get? (base ++ (made ++ [name])) = none) (content : ByteArray) :
    t.Filled (t'.put (base ++ (made ++ [name])) (.file content))
      (base ++ (made ++ [name])) content := by
  have put (x : Place) : (t'.put (base ++ (made ++ [name])) (.file content)).get? x =
      if x = base ++ (made ++ [name]) then some (.file content) else t'.get? x := get?_put (by simp)
  refine ⟨by simp [vacant], by rw [put, if_pos rfl], fun x other => ?_⟩
  rw [put, if_neg other]
  by_cases among : ∃ m, m ≠ [] ∧ m <+: made ∧ x = base ++ m
  · obtain ⟨m, nonempty, isPrefix, rfl⟩ := among
    rw [h.made m isPrefix]
    rcases free.places m nonempty isPrefix with vacant | directory
    · exact .inr ⟨vacant, rfl, (List.prefix_append_right_inj base).2
        (isPrefix.trans (List.prefix_append _ _))⟩
    · exact .inl directory.symm
  · exact .inl (h.other x fun m nonempty isPrefix same => among ⟨m, nonempty, isPrefix, same⟩)

/-- A file is written where there is room for it, and the directories above it are made. -/
theorem Opens.place (h : t.Opens p f) (content : ByteArray) :
    ∃ t', Change.place p content t = .ok ⟨⟩ t' ∧ t.Filled t' f content ∧ t'.Holds p f content := by
  cases h with
  | found noNul place notDirectory =>
    obtain ⟨_, t', written, same⟩ :=
      (Change.ends_place_of_place noNul place notDirectory content).exists_ok
    have filled : t.Filled t' f content := by
      rw [same]
      exact filled_put fun e => (Opens.found noNul place notDirectory).entry
    refine ⟨t', written, filled, noNul, ?_, filled.file⟩
    rw [same]
    exact place_put place notDirectory content
  | below noNul parts directory here free named vacant =>
    have ends := Change.ends_place_below noNul parts directory here free named vacant content
    obtain ⟨_, _, written, u, grown, place, empty, rfl⟩ := ends.exists_ok
    have filled := grown.filled_put free vacant content
    exact ⟨_, written, filled, noNul, place_put place (by simp [empty]) content, filled.file⟩

/-- An entry that is there is put once more without a change. -/
theorem putEntry_of_lookup {entries : List (Place × Entry)} {e : Entry}
    (here : entries.lookup f = some e) :
    putEntry f e entries = entries := by
  induction entries with
  | nil => cases here
  | cons entry entries ih =>
    obtain ⟨x, d⟩ := entry
    rw [putEntry]
    split
    · rename_i same
      rw [List.lookup_cons, same, beq_self_eq_true] at here
      rw [Option.some.inj here]
    · rename_i other
      rw [List.lookup_cons, beq_false_of_ne (Ne.symm other)] at here
      rw [ih here]

/-- Writing what a file holds changes nothing. -/
theorem put_of_get? (notRoot : f ≠ []) {e : Entry} (here : t.get? f = some e) : t.put f e = t := by
  rw [get?, if_neg (by simpa using notRoot)] at here
  rw [put, putEntry_of_lookup here]

/-- Where there is room for a file, one that is there can be taken for written. -/
theorem Opens.filled (h : t.Opens p f) (here : t.get? f = some (.file content)) :
    t.Filled t f content ∧ t.Holds p f content := by
  have place : t.place p = .ok f := h.place_or.resolve_right fun missing => by
    simp [missing.2] at here
  exact ⟨⟨fun e => h.entry, here, fun _ _ => .inl rfl⟩, h.noNul, place, here⟩

/-- What a file holds already can be written again. -/
theorem Opens.place_same (h : t.Opens p f) (here : t.get? f = some (.file content)) :
    Change.place p content t = .ok ⟨⟩ t := by
  have place : t.place p = .ok f := (h.filled here).2.place
  have notDirectory : t.get? f ≠ some .directory := by simp [here]
  obtain ⟨_, _, written, same⟩ :=
    (Change.ends_place_of_place h.noNul place notDirectory content).exists_ok
  rw [put_of_get? (ne_root notDirectory) here] at same
  rw [written, same]

/-- What is no file stays where a file is written, and so does what is at another place. -/
theorem Filled.kept (h : t.Filled t' g content) {x : Place} {e : Entry} (here : t.get? x = some e)
    (apart : x ≠ g ∨ ∀ c, e ≠ .file c) : t'.get? x = some e := by
  have other : x ≠ g := by
    rintro rfl
    rcases apart with other | notFile
    · exact other rfl
    · obtain ⟨c, isFile⟩ := h.before e here
      exact notFile c isFile
  rcases h.other x other with same | ⟨vacant, -⟩
  · rw [same, here]
  · rw [vacant] at here
    cases here

/-- A file is found after another one is written. -/
theorem Filled.holds (h : t.Filled t' g content) (apart : f ≠ g) {c : ByteArray}
    (here : t.Holds p f c) : t'.Holds p f c := by
  have kept : t'.get? f = some (.file c) := h.kept here.entry (.inl apart)
  have place := place_mono here.place (kept.trans here.entry.symm) fun _ _ _ notFile there =>
    h.kept there (.inr notFile)
  exact ⟨here.noNul, place, kept⟩

/-- There stays room for a file after another one is written, unless one of them lies above the
other. -/
theorem Filled.opens (h : t.Filled t' g content) (apart : ¬f <+: g ∧ ¬g <+: f)
    (room : t.Opens p f) :
    t'.Opens p f ∧ t'.get? f = t.get? f := by
  have differ : f ≠ g := by
    rintro rfl
    exact apart.1 (List.prefix_refl f)
  have same : t'.get? f = t.get? f := (h.other f differ).resolve_right fun made => apart.1 made.2.2
  refine ⟨?_, same⟩
  cases room with
  | found noNul place notDirectory =>
    refine .found noNul (place_mono place same
      fun _ _ _ notFile there => h.kept there (.inr notFile)) ?_
    rwa [same]
  | @below base above made name noNul parts directory here free named vacant =>
    have here' : t'.get? base = some .directory := h.kept here (.inr nofun)
    have directory' : t'.place ⟨"", above⟩ = .ok base :=
      place_mono (p := ⟨"", above⟩) directory (here'.trans here.symm) fun _ _ _ notFile there =>
        h.kept there (.inr notFile)
    refine .below noNul parts directory' here' ⟨free.allowed, fun m nonempty isPrefix => ?_⟩ named
      (same.trans vacant)
    rcases free.places m nonempty isPrefix with empty | there
    · have away : base ++ m ≠ g := by
        rintro rfl
        exact apart.2
          ((List.prefix_append_right_inj base).2 (isPrefix.trans (List.prefix_append _ _)))
      rcases h.other _ away with kept | ⟨-, made, -⟩
      · exact .inl (kept.trans empty)
      · exact .inr made
    · exact .inr (h.kept there (.inr nofun))

end Tree

namespace Change

variable {t : Tree} {p : Path} {f : Place}

/-- What is found at a path at which there is room for a file. -/
theorem entryAt_of_opens (h : t.Opens p f) : entryAt p Tree.place t = .ok (t.get? f) t := by
  have ends : Ends (entryAt p Tree.place) t (fun e t' => e = t.get? f ∧ t' = t)
      fun _ _ => False := by
    refine ends_bind.2 (ends_ite_of_not (by simp [h.noNul]) ?_)
    rcases h.place_or with place | ⟨missing, vacant⟩
    · rw [place]
      exact ⟨rfl, rfl⟩
    · rw [missing, vacant]
      exact ⟨rfl, rfl⟩
  obtain ⟨_, _, run, rfl, rfl⟩ := ends.exists_ok
  exact run

/-- A path that opens a place is present if an entry is there. -/
theorem isPresent_of_opens (h : t.Opens p f) : isPresent p t = .ok (t.get? f).isSome t :=
  bind_of_ok (entryAt_of_opens h)

/-- A path that opens a place leads to a file if an entry is there. -/
theorem isFile_of_opens (h : t.Opens p f) : isFile p t = .ok (t.get? f).isSome t := by
  rw [isFile, bind_of_ok (entryAt_of_opens h)]
  cases here : t.get? f with
  | none => rfl
  | some e =>
    obtain ⟨c, rfl⟩ := h.entry here
    rfl

/-- The bytes at the place that a path opens are those of the file. -/
theorem readBytes_of_opens (h : t.Opens p f) {c : ByteArray} (here : t.get? f = some (.file c)) :
    readBytes p t = .ok c t := by
  have place : t.place p = .ok f := h.place_or.resolve_right fun missing => by
    simp [missing.2] at here
  have search : t.find p = .ok (f, some (.file c)) := by
    rw [Tree.find, place, ← here]
    rfl
  have ends : Ends (readBytes p) t (fun b t' => b = c ∧ t' = t) fun _ _ => False := by
    refine ends_ite_of_not (by simp [h.noNul]) (ends_bind.2 (ends_get.2 (ends_bind.2 ?_)))
    rw [search]
    exact ⟨rfl, rfl⟩
  obtain ⟨_, _, run, rfl, rfl⟩ := ends.exists_ok
  exact run

end Change

end Files

end Componentry
