/-!
# Sets of names

A set of names is kept as its strictly increasing list, so that equal sets are equal values and
listing a set needs no sorting. Names are ordered by code points.
-/

namespace Componentry

/-- A finite set of names. -/
structure NameSet where
  toList : List String
  increasing : toList.Pairwise (· < ·)

namespace NameSet

/-- The list with one more name, at its place. -/
def insertInto (name : String) : List String → List String
  | [] => [name]
  | head :: rest =>
    if name < head then name :: head :: rest
    else if head < name then head :: insertInto name rest
    else head :: rest

/-- The names of a list into which one was inserted. -/
theorem mem_insertInto {name x : String} {names : List String} :
    x ∈ insertInto name names ↔ x = name ∨ x ∈ names := by
  induction names with
  | nil => simp [insertInto]
  | cons head rest ih =>
    unfold insertInto
    split
    · simp
    · split
      · simp [ih]; grind
      · rename_i h1 h2
        have : head = name := String.le_antisymm (String.not_lt.1 h1) (String.not_lt.1 h2)
        subst this; simp

/-- A name is inserted at its place in the order. -/
theorem pairwise_insertInto {name : String} {names : List String} (h : names.Pairwise (· < ·)) :
    (insertInto name names).Pairwise (· < ·) := by
  induction names with
  | nil => simp [insertInto]
  | cons head rest ih =>
    obtain ⟨before, later⟩ := List.pairwise_cons.1 h
    unfold insertInto
    split
    · rename_i hlt
      refine List.pairwise_cons.2 ⟨fun y hy => ?_, h⟩
      rcases List.mem_cons.1 hy with rfl | hy
      · exact hlt
      · exact String.lt_trans hlt (before y hy)
    · split
      · rename_i hlt
        refine List.pairwise_cons.2 ⟨fun y hy => ?_, ih later⟩
        rcases mem_insertInto.1 hy with rfl | hy
        · exact hlt
        · exact before y hy
      · exact h

/-- The set without names. -/
def empty : NameSet := ⟨[], .nil⟩

/-- The empty set is a set. -/
instance : Inhabited NameSet := ⟨empty⟩

/-- A name belongs to a set if it is one of its list. -/
instance : Membership String NameSet := ⟨fun s name => name ∈ s.toList⟩

/-- Whether a name belongs to a set is decided by going through the list. -/
instance (name : String) (s : NameSet) : Decidable (name ∈ s) :=
  inferInstanceAs (Decidable (name ∈ s.toList))

/-- Sets are equal if their lists are, as both are in order. -/
instance : DecidableEq NameSet := fun s t =>
  if h : s.toList = t.toList then isTrue (by cases s; cases t; simp_all)
  else isFalse fun e => h (by rw [e])

/-- The set with one more name. -/
def insert (s : NameSet) (name : String) : NameSet :=
  ⟨insertInto name s.toList, pairwise_insertInto s.increasing⟩

/-- The set with more names. -/
def insertAll (s : NameSet) (names : List String) : NameSet :=
  names.foldl insert s

/-- The names of a list. -/
def ofList (names : List String) : NameSet :=
  empty.insertAll names

/-- The names of both sets. -/
def union (s t : NameSet) : NameSet :=
  s.insertAll t.toList

/-- The names of a set that satisfy a test. -/
def filter (s : NameSet) (p : String → Bool) : NameSet :=
  ⟨s.toList.filter p, s.increasing.filter p⟩

/-- The names of the first set that are not in the second. -/
def diff (s t : NameSet) : NameSet :=
  s.filter fun name => !decide (name ∈ t)

/-- Whether each name of the first set is in the second. -/
def subset (s t : NameSet) : Bool :=
  s.toList.all fun name => decide (name ∈ t)

/-- The names of a set into which one was inserted. -/
theorem mem_insert {s : NameSet} {name x : String} : x ∈ s.insert name ↔ x = name ∨ x ∈ s :=
  mem_insertInto

/-- The list of a set holds its names. -/
@[simp] theorem mem_toList {s : NameSet} {x : String} : x ∈ s.toList ↔ x ∈ s :=
  Iff.rfl

/-- No name belongs to the empty set. -/
@[simp] theorem notMem_empty {x : String} : x ∉ empty :=
  List.not_mem_nil

/-- The names of a set into which a list was inserted. -/
theorem mem_insertAll {s : NameSet} {names : List String} {x : String} :
    x ∈ s.insertAll names ↔ x ∈ s ∨ x ∈ names := by
  induction names generalizing s with
  | nil => simp [insertAll]
  | cons name names ih =>
    change x ∈ (s.insert name).insertAll names ↔ _
    rw [ih, mem_insert, List.mem_cons]
    grind

/-- The names of the set of a list. -/
@[simp] theorem mem_ofList {names : List String} {x : String} : x ∈ ofList names ↔ x ∈ names := by
  simp [ofList, mem_insertAll]

/-- The names of a union. -/
@[simp] theorem mem_union {s t : NameSet} {x : String} : x ∈ s.union t ↔ x ∈ s ∨ x ∈ t :=
  mem_insertAll

/-- A set is a subset if all its names belong to the other one. -/
theorem subset_iff {s t : NameSet} : s.subset t = true ↔ ∀ x ∈ s, x ∈ t := by
  simp [subset]

end NameSet

end Componentry
