import Componentry.Proofs.ShortNames

/-!
# Parts of full names

A full name is divided at its colons: what stands before the first two of them is taken for the name
of a project, and what stands after the last two for the name of the component. Where the name of a
project is put in front of a plain name, these are the two parts again. A name that starts with a
colon is not plain, as it moves the place at which the full name is divided.
-/

namespace Componentry

namespace Interface

/-- A text that is not of the form of two colons and a rest does not start with them. -/
private theorem not_startsColons {c : Char} {cs : List Char}
    (other : ∀ rest, c = ':' → cs = ':' :: rest → False) :
    ¬(c = ':' ∧ cs.head? = some ':') := by
  intro starts
  obtain ⟨rest, same⟩ := List.head?_eq_some_iff.1 starts.2
  exact other rest starts.1 same

/-- Double colons are found at the front or behind the first character. -/
theorem hasColons_cons (c : Char) (cs : List Char) :
    hasColons (c :: cs) = if c = ':' ∧ cs.head? = some ':' then true else hasColons cs := by
  rw [hasColons.eq_def]
  split
  · rename_i same
    cases same
    simp
  · rename_i other same
    cases same
    rw [if_neg (not_startsColons other)]
  · rename_i same
    cases same

/-- The part before double colons is cut at the first ones. -/
theorem beforeColons_cons (c : Char) (cs : List Char) :
    beforeColons (c :: cs) = if c = ':' ∧ cs.head? = some ':' then []
      else c :: beforeColons cs := by
  rw [beforeColons.eq_def]
  split
  · rename_i same
    cases same
    simp
  · rename_i other same
    cases same
    rw [if_neg (not_startsColons other)]
  · rename_i same
    cases same

/-- Two colons stand in a row where they divide a text. -/
theorem hasColons_iff {cs : List Char} :
    hasColons cs = true ↔ ∃ before after, cs = before ++ ':' :: ':' :: after := by
  constructor
  · intro h
    induction cs with
    | nil => cases h
    | cons c cs ih =>
      rw [hasColons_cons] at h
      split at h
      · rename_i starts
        obtain ⟨rest, rfl⟩ := List.head?_eq_some_iff.1 starts.2
        exact ⟨[], rest, by rw [starts.1, List.nil_append]⟩
      · obtain ⟨before, after, rfl⟩ := ih h
        exact ⟨c :: before, after, rfl⟩
  · intro h
    obtain ⟨before, after, rfl⟩ := h
    exact hasColons_append before after

/-- Double colons read the same from the end. -/
theorem hasColons_reverse (cs : List Char) : hasColons cs.reverse = hasColons cs := by
  have turned {cs : List Char} (h : hasColons cs = true) : hasColons cs.reverse = true := by
    obtain ⟨before, after, rfl⟩ := hasColons_iff.1 h
    exact hasColons_iff.2 ⟨after.reverse, before.reverse, by simp⟩
  rw [Bool.eq_iff_iff]
  constructor
  · intro h
    simpa using turned h
  · exact turned

/-- The text before the first colons, if none end in it. -/
theorem beforeColons_append {before : List Char} (plain : hasColons (before ++ [':']) = false)
    (after : List Char) :
    beforeColons (before ++ ':' :: ':' :: after) = before := by
  induction before with
  | nil => rfl
  | cons c before ih =>
    have same : (before ++ ':' :: ':' :: after).head? = (before ++ [':']).head? := by
      cases before <;> rfl
    rw [List.cons_append, hasColons_cons] at plain
    split at plain
    · cases plain
    · rename_i other
      rw [List.cons_append, beforeColons_cons, same, if_neg other, ih plain]

/-- The part before double colons begins as the whole does. -/
theorem head?_beforeColons {cs : List Char} (h : hasColons cs = true) :
    (beforeColons cs ++ [':']).head? = cs.head? := by
  cases cs with
  | nil => cases h
  | cons c cs =>
    rw [beforeColons_cons]
    split
    · rename_i starts
      rw [starts.1]
      rfl
    · rfl

/-- No colons stand before the first, and none are completed by one that follows. -/
theorem hasColons_beforeColons {cs : List Char} (h : hasColons cs = true) :
    hasColons (beforeColons cs ++ [':']) = false := by
  induction cs with
  | nil => cases h
  | cons c cs ih =>
    rw [hasColons_cons] at h
    rw [beforeColons_cons]
    split at h
    · rename_i starts
      rw [if_pos starts]
      decide
    · rename_i other
      rw [if_neg other, List.cons_append, hasColons_cons, head?_beforeColons h, if_neg other]
      exact ih h

/-- Whether a name has no colons, and does not complete those of a name in front. -/
def IsPlain (name : String) : Prop :=
  hasColons (':' :: name.toList) = false

/-- Whether a name is plain is decided by its characters. -/
instance (name : String) : Decidable (IsPlain name) :=
  inferInstanceAs (Decidable (_ = _))

/-- The part of a name after the last colons is plain. -/
theorem isPlain_basenameOf {name : String} (h : hasColons name.toList = true) :
    IsPlain (basenameOf name) := by
  have turned : hasColons name.toList.reverse = true := (hasColons_reverse _).trans h
  have plain := hasColons_beforeColons turned
  rw [← hasColons_reverse] at plain
  simpa [IsPlain, basenameOf] using plain

/-- The short name of a full name is the plain name that it ends in. -/
theorem basenameOf_of_plain (project : String) {name : String} (plain : IsPlain name) :
    basenameOf (project ++ "::" ++ name) = name := by
  have turned : hasColons (name.toList.reverse ++ [':']) = false := by
    rw [← hasColons_reverse]
    simpa [IsPlain] using plain
  have parts : (project ++ "::" ++ name).toList.reverse =
      name.toList.reverse ++ ':' :: ':' :: project.toList.reverse := by
    simp
  rw [basenameOf, parts, beforeColons_append turned]
  simp

/-- The full name of a component is that of its project and the plain name. -/
theorem name_eq_iff {i : Interface} {project : String} :
    i.name = project ++ "::" ++ i.basename ↔ ∃ b, IsPlain b ∧ i.name = project ++ "::" ++ b := by
  constructor
  · intro same
    have colons : hasColons i.name.toList = true := by
      rw [same]
      simpa using hasColons_append project.toList i.basename.toList
    exact ⟨i.basename, isPlain_basenameOf colons, same⟩
  · intro h
    obtain ⟨b, plain, same⟩ := h
    rw [basename, same, basenameOf_of_plain project plain]

/-- The library of a component is the project in front of its short name. -/
theorem library_of_name {i : Interface} {project b : String}
    (plain : hasColons (project.toList ++ [':']) = false) (h : i.name = project ++ "::" ++ b) :
    i.library = project := by
  have parts : (project ++ "::" ++ b).toList = project.toList ++ ':' :: ':' :: b.toList := by simp
  rw [library, h, parts, beforeColons_append plain]
  simp

end Interface

open Interface (IsPlain hasColons hasColons_append)

/-- The full name is made of that of the project and the plain name exactly if the component is
declared by the plain name, or with the name of the project in front. -/
theorem Project.qualify_eq_iff {p : Project} {i : Interface} {name : String}
    (declared : i.name = p.qualify name) :
    i.name = p.name ++ "::" ++ i.basename ↔
      IsPlain name ∨ ∃ b, IsPlain b ∧ name = p.name ++ "::" ++ b := by
  rw [Interface.name_eq_iff, declared, qualify]
  split
  · rename_i colons
    have notPlain : ¬IsPlain name := by
      intro plain
      rw [IsPlain, Interface.hasColons_cons, colons] at plain
      simp at plain
    simp [notPlain]
  · rename_i short
    have foreign : ¬∃ b, IsPlain b ∧ name = p.name ++ "::" ++ b := by
      intro h
      obtain ⟨b, -, rfl⟩ := h
      apply short
      simpa using hasColons_append p.name.toList b.toList
    have own : s!"{p.name}::{name}" = p.name ++ "::" ++ name := rfl
    rw [own]
    simp [foreign]

end Componentry
