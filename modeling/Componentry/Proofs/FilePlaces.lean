import Componentry.Files.Tree

/-!
# Ways through file trees

The way of a path holds the places at which the tree is asked for an entry while the path is walked.
Two trees in which the way holds the same links take the path to the same place, so what a path
reaches depends on the links on its way only. A walk that succeeds ends where the links lead, in a
directory all of whose parents are directories, or next to one.
-/

namespace Componentry.Files

namespace Tree

/-- The target of the link at a place, if there is one. -/
def linkAt (t : Tree) (place : Place) : Option Path :=
  match t.get? place with
  | some (.link target) => some target
  | _ => none

/-- The places at which names are looked up on their way from a directory. -/
def way (t : Tree) (follow : Bool) (links : Nat) (base : Place)
    (names : List String) : List Place :=
  match names with
  | [] => []
  | name :: rest =>
    if name = ".." then t.way follow links base.dropLast rest
    else
      (base ++ [name]) ::
        match t.linkAt (base ++ [name]) with
        | none => t.way follow links (base ++ [name]) rest
        | some target =>
          if rest.isEmpty && !follow then []
          else
            match links with
            | 0 => []
            | links + 1 =>
              t.way follow links (if target.isAbsolute then [] else base) (target.names ++ rest)
termination_by (links, names.length)

/-- The place to which the links lead a path, whatever else stands on its way. -/
def reach (t : Tree) (p : Path) : Option Place :=
  t.follow mostLinks [] p.names

/-- The places on the way of a path. -/
def wayOf (t : Tree) (p : Path) : List Place :=
  t.way true mostLinks [] p.names

/-- The place to which the links lead a path, its last name not followed. -/
def reachLink (t : Tree) (p : Path) : Option Place :=
  (t.reach p.parent).map (· ++ [p.name])

section Entries

variable {t : Tree} {place q : Place} {entry : Entry}

/-- An entry that is put is found at its place, and all others as before. -/
private theorem lookup_putEntry (entries : List (Place × Entry)) :
    (putEntry place entry entries).lookup q = if q = place then some entry
      else entries.lookup q := by
  induction entries with
  | nil =>
    rw [putEntry, List.lookup_cons]
    by_cases h : q = place
    · simp [h]
    · simp [h, beq_eq_false_iff_ne.2 h]
  | cons e rest ih =>
    obtain ⟨p, e⟩ := e
    rw [putEntry]
    split
    · rename_i hp
      subst hp
      simp only [List.lookup_cons]
      by_cases h : q = p
      · simp [h]
      · simp [h, beq_eq_false_iff_ne.2 h]
    · rename_i hp
      simp only [List.lookup_cons]
      by_cases h : q = p
      · subst h
        simp [hp]
      · simp only [beq_eq_false_iff_ne.2 h]
        exact ih

/-- An entry that is removed is not found, and all others as before. -/
private theorem lookup_filter (entries : List (Place × Entry)) :
    (entries.filter (·.1 ≠ place)).lookup q = if q = place then none else entries.lookup q := by
  induction entries with
  | nil => simp
  | cons e rest ih =>
    obtain ⟨p, e⟩ := e
    by_cases hp : p = place
    · subst hp
      rw [List.filter_cons_of_neg (by simp), ih, List.lookup_cons]
      by_cases h : q = p
      · simp [h]
      · simp [h, beq_eq_false_iff_ne.2 h]
    · rw [List.filter_cons_of_pos (by simpa using hp), List.lookup_cons, ih, List.lookup_cons]
      by_cases h : q = p
      · subst h
        simp [hp]
      · simp [beq_eq_false_iff_ne.2 h]

/-- The entries of a tree with one more entry, which cannot be put at the root. -/
theorem get?_put (hplace : place ≠ []) :
    (t.put place entry).get? q = if q = place then some entry else t.get? q := by
  unfold get?
  by_cases hq : q = []
  · subst hq
    simp [Ne.symm hplace]
  · simp only [List.isEmpty_iff, hq, if_false]
    exact lookup_putEntry _

/-- The entries of a tree without one of them, which cannot be the root. -/
theorem get?_erase (hplace : place ≠ []) :
    (t.erase place).get? q = if q = place then none else t.get? q := by
  unfold get?
  by_cases hq : q = []
  · subst hq
    simp [Ne.symm hplace]
  · simp only [List.isEmpty_iff, hq, if_false]
    exact lookup_filter _

/-- A place without a directory is not the root. -/
theorem ne_root (h : t.get? place ≠ some .directory) : place ≠ [] := by
  rintro rfl
  exact h rfl

/-- A link at a place is the entry there. -/
theorem linkAt_eq_some {target : Path} :
    t.linkAt place = some target ↔ t.get? place = some (.link target) := by
  unfold linkAt
  split
  · rename_i h
    simp [h]
  · rename_i h
    simp only [reduceCtorEq, false_iff]
    exact h target

/-- No link is at a place whose entry is none. -/
theorem linkAt_eq_none : t.linkAt place = none ↔ ∀ target, t.get? place ≠ some (.link target) := by
  unfold linkAt
  split
  · rename_i target h
    simp [h]
  · rename_i h
    simp only [true_iff]
    exact h

/-- A tree none of whose entries is a link. -/
theorem linkAt_of_entries (h : ∀ e ∈ t.entries, ∀ target, e.2 ≠ .link target) (q : Place) :
    t.linkAt q = none := by
  refine linkAt_eq_none.2 fun target here => ?_
  unfold get? at here
  split at here
  · cases here
  · obtain ⟨before, after, hentries, -⟩ := List.lookup_eq_some_iff.1 here
    refine h (q, .link target) ?_ target rfl
    rw [hentries]
    exact List.mem_append_right _ List.mem_cons_self

end Entries

/-- A directory all of whose parents are directories, with names that can be looked up. -/
structure Solid (t : Tree) (place : Place) : Prop where
  directories : ∀ q, q <+: place → t.get? q = some .directory
  names : ∀ name ∈ place, name ≠ ".." ∧ name.utf8ByteSize ≤ longestName

/-- A solid directory, or another place in one. -/
inductive Settled (t : Tree) : Place → Prop where
  | directory {place : Place} (solid : t.Solid place) : Settled t place
  | inside {place : Place} {name : String} (solid : t.Solid place) (notUp : name ≠ "..")
      (short : name.utf8ByteSize ≤ longestName)
      (other : t.get? (place ++ [name]) ≠ some .directory) :
      Settled t (place ++ [name])

namespace Solid

variable {t : Tree} {place : Place}

/-- The root is solid. -/
theorem root (t : Tree) : t.Solid [] where
  directories q hq := by
    rw [List.prefix_nil.1 hq]
    rfl
  names := by simp

/-- A directory is at a solid place. -/
theorem isDirectory (h : t.Solid place) : t.get? place = some .directory :=
  h.directories place (List.prefix_refl place)

/-- The place above a solid one is solid. -/
theorem up (h : t.Solid place) : t.Solid place.dropLast where
  directories q hq := h.directories q (hq.trans (List.dropLast_prefix place))
  names name hname := h.names name ((List.dropLast_prefix place).subset hname)

/-- A directory in a solid one is solid. -/
theorem down (h : t.Solid place) {name : String} (notUp : name ≠ "..")
    (short : name.utf8ByteSize ≤ longestName) (here : t.get? (place ++ [name]) = some .directory) :
    t.Solid (place ++ [name]) where
  directories q hq := by
    rcases List.prefix_concat_iff.1 hq with rfl | hq
    · exact here
    · exact h.directories q hq
  names n hn := by
    rcases List.mem_append.1 hn with hn | hn
    · exact h.names n hn
    · rw [List.mem_singleton.1 hn]
      exact ⟨notUp, short⟩

/-- The directory from which the target of a link is walked. -/
theorem base (h : t.Solid place) (target : Path) :
    t.Solid (if target.isAbsolute then [] else place) := by
  split
  · exact .root t
  · exact h

end Solid

/-- A walk that succeeds: with at most so many links, names lead from a directory to a place. -/
inductive Walks (t : Tree) (follow : Bool) : Nat → Place → List String → Place → Prop where
  | done (links : Nat) (base : Place) : Walks t follow links base [] base
  | up {links : Nat} {base f : Place} {rest : List String}
      (h : Walks t follow links base.dropLast rest f) :
      Walks t follow links base (".." :: rest) f
  | last {base : Place} {name : String} (links : Nat) (notUp : name ≠ "..")
      (short : name.utf8ByteSize ≤ longestName) (other : t.get? (base ++ [name]) ≠ some .directory)
      (stays : follow = true → t.linkAt (base ++ [name]) = none) :
        Walks t follow links base [name] (base ++ [name])
  | down {links : Nat} {base f : Place} {name : String} {rest : List String} (notUp : name ≠ "..")
      (short : name.utf8ByteSize ≤ longestName) (here : t.get? (base ++ [name]) = some .directory)
      (h : Walks t follow links (base ++ [name]) rest f) :
        Walks t follow links base (name :: rest) f
  | hop {links : Nat} {base f : Place} {name : String} {rest : List String} {target : Path}
      (notUp : name ≠ "..")
      (short : name.utf8ByteSize ≤ longestName)
      (link : t.get? (base ++ [name]) = some (.link target)) (goesOn : rest = [] → follow = true)
      (h : Walks t follow links (if target.isAbsolute then [] else base) (target.names ++ rest) f) :
      Walks t follow (links + 1) base (name :: rest) f

section Walks

variable {t t' : Tree} {follows : Bool} {links : Nat} {base f : Place} {names : List String}

/-- A walk that gives a place walks there. -/
theorem walks_of_walk (h : t.walk follows links base names = .ok f) :
    t.Walks follows links base names f := by
  fun_induction Tree.walk t follows links base names with
  | case1 =>
    cases h
    exact .done _ _
  | case2 _ _ _ ih => exact .up (ih h)
  | case3 => cases h
  | case4 links base name rest notUp notLong place vacant isLast =>
    obtain rfl : base ++ [name] = f := Except.ok.inj h
    rw [List.isEmpty_iff.1 isLast]
    refine .last _ notUp (Nat.not_lt.1 notLong) ?_ fun _ => linkAt_eq_none.2 ?_
    · rw [vacant]
      simp
    · rw [vacant]
      simp
  | case5 => cases h
  | case6 links base name rest notUp notLong place here ih =>
    exact .down notUp (Nat.not_lt.1 notLong) here (ih h)
  | case7 links base name rest notUp notLong place content here isLast =>
    obtain rfl : base ++ [name] = f := Except.ok.inj h
    rw [List.isEmpty_iff.1 isLast]
    refine .last _ notUp (Nat.not_lt.1 notLong) ?_ fun _ => linkAt_eq_none.2 ?_
    · rw [here]
      simp
    · rw [here]
      simp
  | case8 => cases h
  | case9 links base name rest notUp notLong place target here isLast =>
    obtain rfl : base ++ [name] = f := Except.ok.inj h
    rw [Bool.and_eq_true, List.isEmpty_iff, Bool.not_eq_true'] at isLast
    rw [isLast.1]
    refine .last _ notUp (Nat.not_lt.1 notLong) ?_ fun last => ?_
    · rw [here]
      simp
    · rw [isLast.2] at last
      cases last
  | case10 => cases h
  | case11 base name rest notUp notLong place target here notLast links ih =>
    refine .hop notUp (Nat.not_lt.1 notLong) here (fun isLast => ?_) (ih h)
    simpa [isLast] using notLast

/-- A place that is walked to is the one that the walk gives. -/
theorem Walks.walk (h : t.Walks follows links base names f) :
    t.walk follows links base names = .ok f := by
  induction h with
  | done => rw [Tree.walk]
  | up _ ih => rw [Tree.walk_cons, if_pos rfl, ih]
  | @last base name links notUp short other stays =>
    rw [Tree.walk_cons, if_neg notUp, if_neg (Nat.not_lt.2 short)]
    cases here : t.get? (base ++ [name]) with
    | none => simp
    | some entry =>
      cases entry with
      | directory => exact absurd here other
      | file content => simp
      | link target =>
        cases follows with
        | false => simp
        | true => exact absurd here (linkAt_eq_none.1 (stays rfl) target)
  | down notUp short here _ ih =>
    rw [Tree.walk_cons, if_neg notUp, if_neg (Nat.not_lt.2 short)]
    simp only [here]
    exact ih
  | hop notUp short link goesOn _ ih =>
    rw [Tree.walk_cons, if_neg notUp, if_neg (Nat.not_lt.2 short)]
    simp only [link]
    rw [if_neg]
    · exact ih
    · intro isLast
      rw [Bool.and_eq_true, List.isEmpty_iff, Bool.not_eq_true'] at isLast
      rw [goesOn isLast.1] at isLast
      cases isLast.2

/-- A name that is no link is gone through. -/
theorem follow_of_no_link {name : String} {rest : List String} (notUp : name ≠ "..")
    (h : t.linkAt (base ++ [name]) = none) :
    t.follow links base (name :: rest) = t.follow links (base ++ [name]) rest := by
  rw [Tree.follow_cons, if_neg notUp]
  split
  · exact absurd ‹_› (linkAt_eq_none.1 h _)
  · rfl

/-- A link is followed to its target. -/
theorem follow_of_link {name : String} {rest : List String} {target : Path} (notUp : name ≠ "..")
    (h : t.linkAt (base ++ [name]) = some target) :
    t.follow (links + 1) base (name :: rest) =
      t.follow links (if target.isAbsolute then [] else base) (target.names ++ rest) := by
  rw [Tree.follow_cons, if_neg notUp, linkAt_eq_some.1 h]

/-- No link is followed when no more may be. -/
theorem follow_zero_of_link {name : String} {rest : List String} {target : Path}
    (notUp : name ≠ "..") (h : t.linkAt (base ++ [name]) = some target) :
    t.follow 0 base (name :: rest) = none := by
  rw [Tree.follow_cons, if_neg notUp, linkAt_eq_some.1 h]

/-- A directory is no link. -/
theorem linkAt_of_directory {place : Place} (h : t.get? place = some .directory) :
    t.linkAt place = none :=
  linkAt_eq_none.2 fun target => by simp [h]

/-- The way through a name that is no link goes on behind it. -/
theorem way_of_no_link {name : String} {rest : List String} (notUp : name ≠ "..")
    (h : t.linkAt (base ++ [name]) = none) :
    t.way follows links base (name :: rest) =
      (base ++ [name]) :: t.way follows links (base ++ [name]) rest := by
  rw [Tree.way, if_neg notUp, h]

/-- The way through a link goes on to its target. -/
theorem way_of_link {name : String} {rest : List String} {target : Path} (notUp : name ≠ "..")
    (h : t.linkAt (base ++ [name]) = some target) (goesOn : rest = [] → follows = true) :
    t.way follows (links + 1) base (name :: rest) =
      (base ++ [name]) :: t.way follows links (if target.isAbsolute then []
        else base) (target.names ++ rest) := by
  rw [Tree.way, if_neg notUp, h]
  simp only
  rw [if_neg]
  intro isLast
  rw [Bool.and_eq_true, List.isEmpty_iff, Bool.not_eq_true'] at isLast
  rw [goesOn isLast.1] at isLast
  cases isLast.2

/-- The way ends at a link when no more may be followed. -/
theorem way_zero_of_link {name : String} {rest : List String} {target : Path} (notUp : name ≠ "..")
    (h : t.linkAt (base ++ [name]) = some target) :
    t.way true 0 base (name :: rest) = [base ++ [name]] := by
  rw [Tree.way, if_neg notUp, h]
  simp

/-- A walk that succeeds ends where the links lead. -/
theorem Walks.follow (h : t.Walks true links base names f) :
    t.follow links base names = some f := by
  induction h with
  | done => rw [Tree.follow]
  | up _ ih => rw [Tree.follow_cons, if_pos rfl, ih]
  | last links notUp short other stays => rw [follow_of_no_link notUp (stays rfl), Tree.follow]
  | down notUp short here _ ih => rw [follow_of_no_link notUp (linkAt_of_directory here), ih]
  | hop notUp short link goesOn _ ih => rw [follow_of_link notUp (linkAt_eq_some.2 link), ih]

/-- A walk from a solid directory ends in one or inside one. -/
theorem Walks.settled (h : t.Walks follows links base names f) (solid : t.Solid base) :
    t.Settled f := by
  induction h with
  | done => exact .directory solid
  | up _ ih => exact ih solid.up
  | last links notUp short other stays => exact .inside solid notUp short other
  | down notUp short here _ ih => exact ih (solid.down notUp short here)
  | hop _ _ _ _ _ ih => exact ih (solid.base _)

/-- A walk does not end at a link that it follows. -/
theorem Walks.noLink (h : t.Walks true links base names f) (solid : t.Solid base) :
    t.linkAt f = none := by
  induction h with
  | done => exact linkAt_of_directory solid.isDirectory
  | up _ ih => exact ih solid.up
  | last links notUp short other stays => exact stays rfl
  | down notUp short here _ ih => exact ih (solid.down notUp short here)
  | hop _ _ _ _ _ ih => exact ih (solid.base _)

/-- A walk that does not end in a directory ends at a place on its way. -/
theorem Walks.mem_way (h : t.Walks follows links base names f) (solid : t.Solid base)
    (other : t.get? f ≠ some .directory) : f ∈ t.way follows links base names := by
  induction h with
  | done => exact absurd solid.isDirectory other
  | up _ ih =>
    rw [Tree.way, if_pos rfl]
    exact ih solid.up other
  | last links notUp short _ stays =>
    rw [Tree.way, if_neg notUp]
    exact List.mem_cons_self
  | down notUp short here _ ih =>
    rw [way_of_no_link notUp (linkAt_of_directory here)]
    exact List.mem_cons_of_mem _ (ih (solid.down notUp short here) other)
  | hop notUp short link goesOn _ ih =>
    rw [way_of_link notUp (linkAt_eq_some.2 link) goesOn]
    exact List.mem_cons_of_mem _ (ih (solid.base _) other)

/-- Where the links on a way are the same, they lead to the same place on the same way. -/
theorem follow_congr (h : ∀ x ∈ t.way true links base names, t'.linkAt x = t.linkAt x) :
    t'.follow links base names = t.follow links base names ∧
      t'.way true links base names = t.way true links base names
    := by
  fun_induction Tree.way t true links base names with
  | case1 =>
    rw [Tree.follow, Tree.follow, Tree.way]
    exact ⟨rfl, rfl⟩
  | case2 links base rest ih =>
    rw [Tree.follow, Tree.follow, Tree.way, if_pos rfl, if_pos rfl, if_pos rfl]
    exact ih h
  | case3 links base name rest notUp ih1 ih2 =>
    have same := h _ List.mem_cons_self
    cases hlink : t.linkAt (base ++ [name]) with
    | none =>
      simp only [hlink] at h
      obtain ⟨reaches, ways⟩ := ih1 fun x hx => h x (List.mem_cons_of_mem _ hx)
      rw [follow_of_no_link notUp hlink, follow_of_no_link notUp (same.trans hlink),
        way_of_no_link notUp (same.trans hlink), reaches, ways]
      exact ⟨rfl, rfl⟩
    | some target =>
      cases links with
      | zero =>
        rw [follow_zero_of_link notUp hlink, follow_zero_of_link notUp (same.trans hlink),
          way_zero_of_link notUp (same.trans hlink)]
        simp
      | succ links =>
        have ih := ih2 target
        simp only [dite_eq_ite] at ih
        simp only [hlink, Bool.not_true, Bool.and_false, Bool.false_eq_true, if_false] at h ⊢
        obtain ⟨reaches, ways⟩ := ih fun x hx => h x (List.mem_cons_of_mem _ hx)
        rw [follow_of_link notUp hlink, follow_of_link notUp (same.trans hlink),
          way_of_link notUp (same.trans hlink) fun _ => rfl, reaches, ways]
        exact ⟨rfl, rfl⟩

/-- Names that meet no link and do not lead up are looked up one after the other. -/
theorem follow_of_plain (noUp : ".." ∉ names)
    (noLink : ∀ q, q <+: base ++ names → base.length < q.length → t.linkAt q = none) :
    t.follow links base names = some (base ++ names) ∧
      ∀ x ∈ t.way true links base names, x <+: base ++ names ∧ base.length < x.length := by
  induction names generalizing base with
  | nil =>
    rw [Tree.follow, List.append_nil, Tree.way]
    exact ⟨rfl, by simp⟩
  | cons name rest ih =>
    rw [List.mem_cons, not_or] at noUp
    have notUp : name ≠ ".." := Ne.symm noUp.1
    have longer : base.length < (base ++ [name]).length := by
      rw [List.length_append]
      exact Nat.lt_succ_self _
    rw [List.append_cons] at noLink ⊢
    have here : t.linkAt (base ++ [name]) = none := noLink _ (List.prefix_append _ _) longer
    obtain ⟨reaches, ways⟩ := ih noUp.2 fun q hq hlt => noLink q hq (Nat.lt_trans longer hlt)
    rw [follow_of_no_link notUp here, way_of_no_link notUp here]
    refine ⟨reaches, fun x hx => ?_⟩
    rcases List.mem_cons.1 hx with rfl | hx
    · exact ⟨List.prefix_append _ _, longer⟩
    · exact ⟨(ways x hx).1, Nat.lt_trans longer (ways x hx).2⟩

/-- With one more link to follow, the way of names is the same or longer. -/
theorem way_subset_succ : t.way true links base names ⊆ t.way true (links + 1) base names := by
  fun_induction Tree.way t true links base names with
  | case1 => exact List.nil_subset _
  | case2 links base rest ih =>
    rw [Tree.way, if_pos rfl]
    exact ih
  | case3 links base name rest notUp ih1 ih2 =>
    cases hlink : t.linkAt (base ++ [name]) with
    | none =>
      rw [way_of_no_link notUp hlink]
      exact List.cons_subset_cons _ ih1
    | some target =>
      rw [way_of_link notUp hlink fun _ => rfl]
      simp only [Bool.not_true, Bool.and_false, Bool.false_eq_true, if_false]
      cases links with
      | zero => simp
      | succ links =>
        have ih := ih2 target
        simp only [dite_eq_ite] at ih
        exact List.cons_subset_cons _ ih

/-- Where the links lead names, is on their way or above the directory in which they start. -/
theorem mem_way_of_follow (h : t.follow links base names = some x) :
    x ∈ t.way true links base names ∨ x <+: base := by
  fun_induction Tree.way t true links base names with
  | case1 =>
    rw [Tree.follow] at h
    exact .inr (Option.some.inj h ▸ List.prefix_refl _)
  | case2 links base rest ih =>
    rw [Tree.follow_cons, if_pos rfl] at h
    exact (ih h).imp_right fun above => above.trans (List.dropLast_prefix base)
  | case3 links base name rest notUp ih1 ih2 =>
    cases hlink : t.linkAt (base ++ [name]) with
    | none =>
      rw [follow_of_no_link notUp hlink] at h
      rcases ih1 h with onWay | above
      · exact .inl (List.mem_cons_of_mem _ onWay)
      · rcases List.prefix_concat_iff.1 above with rfl | above
        · exact .inl List.mem_cons_self
        · exact .inr above
    | some target =>
      cases links with
      | zero =>
        rw [follow_zero_of_link notUp hlink] at h
        cases h
      | succ links =>
        have ih := ih2 target
        simp only [dite_eq_ite] at ih
        rw [follow_of_link notUp hlink] at h
        simp only [Bool.not_true, Bool.and_false, Bool.false_eq_true, if_false]
        rcases ih h with onWay | above
        · exact .inl (List.mem_cons_of_mem _ onWay)
        · split at above
          · exact .inr (List.prefix_nil.1 above ▸ List.nil_prefix)
          · exact .inr above

/-- A walk succeeds where the directories and links on its way are kept, and the entry at its
end. -/
theorem Walks.mono (h : t.Walks follows links base names f) (kept : t'.get? f = t.get? f)
    (keeps : ∀ x ∈ t.way follows links base names, ∀ e, (∀ c, e ≠ .file c) → t.get? x = some e →
        t'.get? x = some e) :
    t'.Walks follows links base names f := by
  induction h with
  | done => exact .done _ _
  | up _ ih =>
    rw [Tree.way, if_pos rfl] at keeps
    exact .up (ih kept keeps)
  | last links notUp short other stays =>
    refine .last links notUp short ?_ fun last => ?_
    · rw [kept]
      exact other
    · rw [← stays last, linkAt, linkAt, kept]
  | down notUp short here _ ih =>
    rw [way_of_no_link notUp (linkAt_of_directory here)] at keeps
    refine .down notUp short (keeps _ List.mem_cons_self _ (by simp) here) (ih kept fun x hx => ?_)
    exact keeps x (List.mem_cons_of_mem _ hx)
  | hop notUp short link goesOn _ ih =>
    rw [way_of_link notUp (linkAt_eq_some.2 link) goesOn] at keeps
    refine .hop notUp short (keeps _ List.mem_cons_self _ (by simp) link) goesOn
      (ih kept fun x hx => ?_)
    exact keeps x (List.mem_cons_of_mem _ hx)

/-- A solid directory is walked to by its own names, and from there on. -/
theorem Solid.walks_through {b : Place} {rest : List String} (solid : t.Solid (b ++ names))
    (h : t.Walks follows links (b ++ names) rest f) :
    t.Walks follows links b (names ++ rest) f := by
  induction names generalizing b with
  | nil =>
    rw [List.append_nil] at h
    exact h
  | cons name names ih =>
    obtain ⟨notUp, short⟩ := solid.names name (List.mem_append_right _ List.mem_cons_self)
    rw [List.append_cons] at solid h
    exact .down notUp short (solid.directories _ (List.prefix_append _ _)) (ih solid h)

/-- A place that is walked to is found under its own names, whatever the number of links. -/
theorem Settled.walks (h : t.Settled f) (noLink : t.linkAt f = none) (links : Nat) :
    t.Walks follows links [] f f := by
  cases h with
  | directory solid =>
    have h : t.Walks follows links [] (f ++ []) f :=
      Solid.walks_through (b := []) solid (.done links f)
    rwa [List.append_nil] at h
  | inside solid notUp short other =>
    exact Solid.walks_through (b := []) solid (.last links notUp short other fun _ => noLink)

/-- Where a walk ends at no directory and no link, another entry can be put, so long as the walk
stays there. -/
theorem Walks.put (h : t.Walks follows links base names f) (other : t.get? f ≠ some .directory)
    (noLink : t.linkAt f = none) {e : Entry} (notDirectory : e ≠ .directory)
    (stays : follows = true → ∀ target, e ≠ .link target) :
    (t.put f e).Walks follows links base names f := by
  have here : (t.put f e).get? f = some e := by
    rw [get?_put (ne_root other), if_pos rfl]
  have kept {x : Place} (hx : x ≠ f) : (t.put f e).get? x = t.get? x := by
    rw [get?_put (ne_root other), if_neg hx]
  induction h with
  | done => exact .done _ _
  | up _ ih => exact .up (ih other noLink here kept)
  | last links notUp short _ _ =>
    refine .last links notUp short ?_ fun last => linkAt_eq_none.2 fun target => ?_
    · rw [here]
      exact fun same => notDirectory (Option.some.inj same)
    · rw [here]
      exact fun same => stays last target (Option.some.inj same)
  | @down _ base f name _ notUp short isDirectory _ ih =>
    have apart : base ++ [name] ≠ f := by
      intro same
      rw [same] at isDirectory
      exact other isDirectory
    exact .down notUp short ((kept apart).trans isDirectory) (ih other noLink here kept)
  | @hop _ base f name _ target notUp short link goesOn _ ih =>
    have apart : base ++ [name] ≠ f := by
      intro same
      rw [same] at link
      exact absurd link (linkAt_eq_none.1 noLink target)
    exact .hop notUp short ((kept apart).trans link) goesOn (ih other noLink here kept)

/-- A walk that stops at its last name ends as one that follows it, if it does not end at a link. -/
theorem Walks.follows_last (h : t.Walks false links base names f) (noLink : t.linkAt f = none) :
    t.Walks true links base names f := by
  induction h with
  | done => exact .done _ _
  | up _ ih => exact .up (ih noLink)
  | last links notUp short other stays => exact .last links notUp short other fun _ => noLink
  | down notUp short here _ ih => exact .down notUp short here (ih noLink)
  | hop notUp short link goesOn _ ih => exact .hop notUp short link (fun _ => rfl) (ih noLink)

/-- The way of names is the beginning of the way of more names. -/
theorem way_subset (more : List String) :
    t.way true links base names ⊆ t.way true links base (names ++ more) := by
  fun_induction Tree.way t true links base names with
  | case1 => exact List.nil_subset _
  | case2 links base rest ih =>
    rw [List.cons_append, Tree.way, if_pos rfl]
    exact ih
  | case3 links base name rest notUp ih1 ih2 =>
    rw [List.cons_append]
    cases hlink : t.linkAt (base ++ [name]) with
    | none =>
      rw [way_of_no_link notUp hlink]
      exact List.cons_subset_cons _ ih1
    | some target =>
      cases links with
      | zero =>
        rw [way_zero_of_link notUp hlink]
        simp
      | succ links =>
        have ih := ih2 target
        simp only [dite_eq_ite, List.append_assoc] at ih
        rw [way_of_link notUp hlink fun _ => rfl]
        simp only [Bool.not_true, Bool.and_false, Bool.false_eq_true, if_false]
        exact List.cons_subset_cons _ ih

/-- A walk that stops at a link ends where the links lead its parent, and has the same way up to
there. -/
theorem Walks.parent (h : t.Walks false links base names f) (solid : t.Solid base)
    (other : t.get? f ≠ some .directory) :
    (∃ d, t.follow links base names.dropLast = some d ∧ f = d ++ [names.getLast?.getD ""]) ∧
      ∀ x ∈ t.way false links base names, x ∈ t.way true links base names.dropLast ∨ x = f := by
  have nonempty {links : Nat} {base f : Place} {rest : List String}
      (h : t.Walks false links base rest f)
      (solid : t.Solid base) (other : t.get? f ≠ some .directory) : rest ≠ [] := by
    rintro rfl
    cases h with
    | done => exact other solid.isDirectory
  induction h with
  | done => exact absurd solid.isDirectory other
  | @up links base f rest h ih =>
    obtain ⟨⟨d, reaches, rfl⟩, ways⟩ := ih solid.up other
    have more := nonempty h solid.up other
    rw [List.dropLast_cons_of_ne_nil more, List.getLast?_cons_of_ne_nil more, Tree.follow, Tree.way,
      Tree.way, if_pos rfl, if_pos rfl, if_pos rfl]
    exact ⟨⟨d, reaches, rfl⟩, ways⟩
  | @last base name links notUp short other' stays =>
    refine ⟨⟨base, by rw [List.dropLast_singleton, Tree.follow], rfl⟩, fun x hx => .inr ?_⟩
    rw [Tree.way, if_neg notUp] at hx
    cases hlink : t.linkAt (base ++ [name]) with
    | none =>
      rw [hlink, Tree.way] at hx
      exact List.mem_singleton.1 hx
    | some target =>
      rw [hlink] at hx
      exact List.mem_singleton.1 hx
  | @down links base f name rest notUp short here h ih =>
    have solid' := solid.down notUp short here
    obtain ⟨⟨d, reaches, rfl⟩, ways⟩ := ih solid' other
    have more := nonempty h solid' other
    have noLink := linkAt_of_directory here
    rw [List.dropLast_cons_of_ne_nil more, List.getLast?_cons_of_ne_nil more,
      follow_of_no_link notUp noLink, way_of_no_link notUp noLink, way_of_no_link notUp noLink]
    refine ⟨⟨d, reaches, rfl⟩, fun x hx => ?_⟩
    rcases List.mem_cons.1 hx with rfl | hx
    · exact .inl List.mem_cons_self
    · exact (ways x hx).imp_left (List.mem_cons_of_mem _)
  | @hop links base f name rest target notUp short link goesOn h ih =>
    have more : rest ≠ [] := fun hrest => absurd (goesOn hrest) Bool.false_ne_true
    obtain ⟨⟨d, reaches, rfl⟩, ways⟩ := ih (solid.base _) other
    have hlink := linkAt_eq_some.2 link
    rw [List.dropLast_append_of_ne_nil more] at reaches ways
    rw [List.dropLast_cons_of_ne_nil more, List.getLast?_cons_of_ne_nil more,
      follow_of_link notUp hlink, way_of_link notUp hlink goesOn,
      way_of_link notUp hlink fun _ => rfl]
    refine ⟨⟨d, reaches, ?_⟩, fun x hx => ?_⟩
    · rw [List.getLast?_append, List.getLast?_eq_some_getLast more, Option.some_or]
    · rcases List.mem_cons.1 hx with rfl | hx
      · exact .inl List.mem_cons_self
      · exact (ways x hx).imp_left (List.mem_cons_of_mem _)

/-- A walk that stops at a link goes on to where its target leads, given one more link. -/
theorem Walks.through {target : Path} {g : Place} (h : t.Walks false links base names f)
    (solid : t.Solid base) (link : t.get? f = some (.link target))
    (absolute : target.isAbsolute = true) (leads : ∀ links, t.Walks true links [] target.names g) :
    t.Walks true (links + 1) base names g := by
  induction h with
  | done =>
    rw [solid.isDirectory] at link
    cases link
  | up _ ih => exact .up (ih solid.up link)
  | last links notUp short other stays =>
    refine .hop notUp short link (fun _ => rfl) ?_
    rw [if_pos absolute, List.append_nil]
    exact leads links
  | down notUp short here _ ih =>
    exact .down notUp short here (ih (solid.down notUp short here) link)
  | hop notUp short link' goesOn _ ih =>
    exact .hop notUp short link' (fun _ => rfl) (ih (solid.base _) link)

/-- A walk that stops at a link needs no more links than lead to its parent. -/
theorem Walks.fewer {fewer : Nat} {d : Place} (h : t.Walks false links base names f)
    (reaches : t.follow fewer base names.dropLast = some d) : t.Walks false fewer base names f := by
  induction h generalizing fewer d with
  | done => exact .done _ _
  | @up _ _ _ rest _ ih =>
    cases rest with
    | nil => exact .up (ih (by rw [List.dropLast_nil, Tree.follow]))
    | cons next rest =>
      rw [List.dropLast_cons_cons, Tree.follow_cons, if_pos rfl] at reaches
      exact .up (ih reaches)
  | last links notUp short other stays => exact .last _ notUp short other stays
  | @down _ _ _ _ rest notUp short here _ ih =>
    cases rest with
    | nil => exact .down notUp short here (ih (by rw [List.dropLast_nil, Tree.follow]))
    | cons next rest =>
      rw [List.dropLast_cons_cons, follow_of_no_link notUp (linkAt_of_directory here)] at reaches
      exact .down notUp short here (ih reaches)
  | @hop _ _ _ _ rest target notUp short link goesOn _ ih =>
    have more : rest ≠ [] := fun hrest => absurd (goesOn hrest) Bool.false_ne_true
    rw [List.dropLast_cons_of_ne_nil more] at reaches
    cases fewer with
    | zero =>
      rw [follow_zero_of_link notUp (linkAt_eq_some.2 link)] at reaches
      cases reaches
    | succ fewer =>
      rw [follow_of_link notUp (linkAt_eq_some.2 link)] at reaches
      refine .hop notUp short link goesOn (ih (d := d) ?_)
      rw [List.dropLast_append_of_ne_nil more]
      exact reaches

end Walks

section Paths

variable {t t' : Tree} {p : Path} {f : Place}

/-- The place of a path is walked to along all links. -/
theorem walks_of_place (h : t.place p = .ok f) : t.Walks true mostLinks [] p.names f :=
  walks_of_walk h

/-- A path that has a place is led to it by the links. -/
theorem reach_of_place (h : t.place p = .ok f) : t.reach p = some f :=
  (walks_of_place h).follow

/-- The place of a path holds no link. -/
theorem linkAt_of_place (h : t.place p = .ok f) : t.linkAt f = none :=
  (walks_of_place h).noLink (.root t)

/-- The place of a path that is not a directory is on the way of the path. -/
theorem mem_wayOf_of_place (h : t.place p = .ok f) (other : t.get? f ≠ some .directory) :
    f ∈ t.wayOf p :=
  (walks_of_place h).mem_way (.root t) other

/-- A path that is not led to the root is led to a place on its way. -/
theorem mem_wayOf_of_reach (h : t.reach p = some x) (notRoot : x ≠ []) : x ∈ t.wayOf p := by
  rcases mem_way_of_follow h with onWay | above
  · exact onWay
  · exact absurd (List.prefix_nil.1 above) notRoot

/-- A path that meets no link and does not lead up is led to the place of its own names, along their
beginnings. -/
theorem reach_of_plain (noUp : ".." ∉ p.names) (noLink : ∀ q, q <+: p.names → t.linkAt q = none) :
    t.reach p = some p.names ∧ ∀ x ∈ t.wayOf p, x <+: p.names := by
  have plain : t.follow mostLinks [] p.names = some p.names ∧
      ∀ x ∈ t.way true mostLinks [] p.names, x <+: p.names ∧ 0 < x.length :=
    follow_of_plain noUp fun q hq _ => noLink q hq
  exact ⟨plain.1, fun x hx => (plain.2 x hx).1⟩

/-- The way of the parent of a path is the beginning of the way of the path. -/
theorem wayOf_subset {q : Path} (h : q.names <+: p.names) : t.wayOf q ⊆ t.wayOf p := by
  obtain ⟨more, hmore⟩ := h
  rw [wayOf, wayOf, ← hmore]
  exact way_subset more

/-- A file that is written is found at the place of the path. -/
theorem place_put (h : t.place p = .ok f) (other : t.get? f ≠ some .directory)
    (content : ByteArray) :
    (t.put f (.file content)).place p = .ok f :=
  ((walks_of_place h).put other (linkAt_of_place h) (by simp) fun _ target => by simp).walk

/-- A link that is made is found at the place of the path. -/
theorem placeOfLink_put (h : t.placeOfLink p = .ok f) (vacant : t.get? f = none) (target : Path) :
    (t.put f (.link target)).placeOfLink p = .ok f := by
  have noLink : t.linkAt f = none := linkAt_eq_none.2 fun target => by simp [vacant]
  exact ((walks_of_walk h).put (by simp [vacant]) noLink (by simp) fun last => by cases last).walk

/-- The place of a path is the same if its last name is not followed, unless there is a link. -/
theorem place_of_placeOfLink (h : t.placeOfLink p = .ok f) (noLink : t.linkAt f = none) :
    t.place p = .ok f :=
  ((walks_of_walk h).follows_last noLink).walk

/-- A path keeps its place where the directories and links on its way are kept, and the entry at its
place. -/
theorem place_mono (h : t.place p = .ok f) (kept : t'.get? f = t.get? f)
    (keeps : ∀ x ∈ t.wayOf p, ∀ e, (∀ c, e ≠ .file c) → t.get? x = some e → t'.get? x = some e) :
    t'.place p = .ok f :=
  ((walks_of_place h).mono kept keeps).walk

/-- Where the links on the way of a path are the same, they lead it to the same place on the same
way. -/
theorem reach_congr (h : ∀ x ∈ t.wayOf p, t'.linkAt x = t.linkAt x) :
    t'.reach p = t.reach p ∧ t'.wayOf p = t.wayOf p :=
  follow_congr h

/-- The place of a path whose last name is not followed, if it is not a directory: it is inside the
directory to which the links lead the parent of the path. -/
theorem reachLink_of_placeOfLink (h : t.placeOfLink p = .ok f)
    (other : t.get? f ≠ some .directory) :
    t.reachLink p = some f := by
  obtain ⟨⟨d, reaches, rfl⟩, -⟩ := (walks_of_walk h).parent (.root t) other
  rw [reachLink, reach]
  change (t.follow mostLinks [] p.names.dropLast).map _ = _
  rw [reaches]
  rfl

/-- A path whose last name is not followed keeps its place where the directories and links on the
way of its parent are kept, and the entry at its place. -/
theorem placeOfLink_mono (h : t.placeOfLink p = .ok f) (other : t.get? f ≠ some .directory)
    (kept : t'.get? f = t.get? f)
    (keeps : ∀ x ∈ t.wayOf p.parent, ∀ e, (∀ c, e ≠ .file c) → t.get? x = some e →
        t'.get? x = some e) :
    t'.placeOfLink p = .ok f := by
  have walks := walks_of_walk h
  refine (walks.mono kept fun x hx e notFile he => ?_).walk
  rcases (walks.parent (.root t) other).2 x hx with onWay | rfl
  · exact keeps x onWay e notFile he
  · exact kept.trans he

/-- A link is followed to where its target leads, if its directory is reached with one link to
spare. -/
theorem place_through {target : Path} {g : Place} (h : t.placeOfLink p = .ok f)
    (link : t.get? f = some (.link target)) (absolute : target.isAbsolute = true)
    (leads : ∀ links, t.Walks true links [] target.names g)
    (toSpare : t.follow (mostLinks - 1) [] p.parent.names ≠ none) : t.place p = .ok g := by
  obtain ⟨d, reaches⟩ := Option.ne_none_iff_exists'.1 toSpare
  have walks : t.Walks false (mostLinks - 1) [] p.names f := (walks_of_walk h).fewer reaches
  exact (walks.through (.root t) link absolute leads).walk

end Paths

end Tree

end Componentry.Files
