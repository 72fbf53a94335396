import Componentry.Proofs.Faults
import Mathlib.Logic.Relation

/-!
# Closures of types

A name reaches those that its definition refers to, and those that they reach. The closure of a name
is given if all names that it reaches are defined, and then has a definition for each of them;
otherwise it fails for one that is not.
-/

namespace Componentry.Registry

variable {r : Registry}

/-- Whether a name has a definition that refers to another name. -/
def Refers (r : Registry) (name dependency : String) : Prop :=
  ∃ t, r.find? (Typename.normalize name) = some t ∧ dependency ∈ t.dependencies

/-- Whether a name is among the names that the closure of another one depends on, itself
included. -/
def Reaches (r : Registry) : String → String → Prop :=
  Relation.ReflTransGen r.Refers

/-- An entry is the definition that is found. -/
theorem find?_of_entry {name : String} {e : r.Entry} (h : r.entry name = .ok e) :
    r.find? (Typename.normalize name) = some e.1 := by
  unfold entry at h
  split at h
  · rename_i found
    cases h
    exact found
  · cases h

/-- A definition that is found is an entry. -/
theorem entry_of_find? {name : String} {t : TypeDef}
    (h : r.find? (Typename.normalize name) = some t) :
    r.entry name = .ok ⟨t, mem_of_find? h⟩ := by
  unfold entry
  split
  · rename_i t' found
    rw [h] at found
    cases found
    rfl
  · rename_i missing
    rw [h] at missing
    cases missing

/-- There is no entry for a type that the registry does not contain. -/
theorem entry_error {name : String} {fault : Fault} (h : r.entry name = .error fault) :
    r.contains name = false ∧ fault = .typeNotFound (Typename.normalize name) := by
  unfold entry at h
  split at h
  · cases h
  · rename_i missing
    cases h
    exact ⟨by rw [contains, missing]; rfl, rfl⟩

/-- Whether definitions of a registry refer to such as are among them, or still to be followed. -/
structure Followed (r : Registry) (reached : List TypeDef) (pending : List r.Entry) : Prop where
  inside : ∀ t ∈ reached, t ∈ r.types
  closed : ∀ t ∈ reached, ∀ d ∈ t.dependencies, ∃ e, r.entry d = .ok e ∧
    (e.1 ∈ reached ∨ e ∈ pending)

/-- The definitions that are reached include the pending ones, and all that they refer to. -/
theorem followed_of_reach {reached types : List TypeDef} {pending : List r.Entry}
    (followed : Followed r reached pending) (h : r.reach reached pending = .ok types) :
    Followed r types [] ∧ reached ⊆ types ∧ ∀ e ∈ pending, e.1 ∈ types := by
  fun_induction reach r reached pending with
  | case1 reached =>
    cases h
    exact ⟨followed, List.Subset.refl _, fun _ none => absurd none List.not_mem_nil⟩
  | case2 reached t ht rest known ih =>
    have known : t ∈ reached := by simpa using known
    have closed : ∀ u ∈ reached, ∀ d ∈ u.dependencies, ∃ e, r.entry d = .ok e ∧
        (e.1 ∈ reached ∨ e ∈ rest) := by
      intro u hu d hd
      obtain ⟨e, he, there | there⟩ := followed.closed u hu d hd
      · exact ⟨e, he, .inl there⟩
      · rcases List.mem_cons.1 there with rfl | there
        · exact ⟨_, he, .inl known⟩
        · exact ⟨e, he, .inr there⟩
    obtain ⟨all, kept, others⟩ := ih ⟨followed.inside, closed⟩ h
    refine ⟨all, kept, fun e he => ?_⟩
    rcases List.mem_cons.1 he with rfl | he
    · exact kept known
    · exact others e he
  | case3 reached t ht rest new _ next deps ih =>
    have inside : ∀ u ∈ reached ++ [t], u ∈ r.types := by
      intro u hu
      rcases List.mem_append.1 hu with hu | hu
      · exact followed.inside u hu
      · rw [List.mem_singleton.1 hu]
        exact ht
    have closed : ∀ u ∈ reached ++ [t], ∀ d ∈ u.dependencies, ∃ e, r.entry d = .ok e ∧
        (e.1 ∈ reached ++ [t] ∨ e ∈ next.reverse ++ rest) := by
      intro u hu d hd
      rcases List.mem_append.1 hu with hu | hu
      · obtain ⟨e, he, there | there⟩ := followed.closed u hu d hd
        · exact ⟨e, he, .inl (List.mem_append_left _ there)⟩
        · rcases List.mem_cons.1 there with rfl | there
          · exact ⟨_, he, .inl (List.mem_append_right _ List.mem_cons_self)⟩
          · exact ⟨e, he, .inr (List.mem_append_right _ there)⟩
      · rw [List.mem_singleton.1 hu] at hd
        obtain ⟨e, mem, he⟩ := (mem_of_mapM_ok deps).1 d hd
        exact ⟨e, he, .inr (List.mem_append_left _ (List.mem_reverse.2 mem))⟩
    obtain ⟨all, kept, others⟩ := ih ⟨inside, closed⟩ h
    refine ⟨all, fun u hu => kept (List.mem_append_left _ hu), fun e he => ?_⟩
    rcases List.mem_cons.1 he with rfl | he
    · exact kept (List.mem_append_right _ List.mem_cons_self)
    · exact others e (List.mem_append_right _ he)
  | case4 => cases h

/-- If definitions cannot be followed, one of them reaches a name that is not defined. -/
theorem missing_of_reach {reached : List TypeDef} {pending : List r.Entry} {fault : Fault}
    {name : String} (reaches : ∀ e ∈ pending, ∃ d, r.Reaches name d ∧ r.entry d = .ok e)
    (h : r.reach reached pending = .error fault) :
    ∃ d, r.Reaches name d ∧ r.entry d = .error fault := by
  fun_induction reach r reached pending with
  | case1 => cases h
  | case2 reached t ht rest _ ih => exact ih (fun e he => reaches e (List.mem_cons_of_mem _ he)) h
  | case3 reached t ht rest _ _ next deps ih =>
    refine ih (fun e he => ?_) h
    rcases List.mem_append.1 he with he | he
    · obtain ⟨d, mem, hd⟩ := (mem_of_mapM_ok deps).2 e (List.mem_reverse.1 he)
      obtain ⟨n, reached, hn⟩ := reaches ⟨t, ht⟩ List.mem_cons_self
      exact ⟨d, reached.tail ⟨t, find?_of_entry hn, mem⟩, hd⟩
    · exact reaches e (List.mem_cons_of_mem _ he)
  | case4 reached t ht rest _ _ fault' deps =>
    cases h
    obtain ⟨d, mem, hd⟩ := exists_of_mapM_error deps
    obtain ⟨n, reached, hn⟩ := reaches ⟨t, ht⟩ List.mem_cons_self
    exact ⟨d, reached.tail ⟨t, find?_of_entry hn, mem⟩, hd⟩

/-- The closure of a name has a definition for every name that it reaches. -/
theorem closure_ok {name : String} {types : List TypeDef} (h : r.closure name = .ok types) :
    (∀ t ∈ types, t ∈ r.types) ∧ ∀ d, r.Reaches name d → ∃ e, r.entry d = .ok e ∧ e.1 ∈ types := by
  unfold closure at h
  cases hname : r.entry name with
  | error fault => rw [hname] at h; cases h
  | ok e =>
    rw [hname] at h
    obtain ⟨all, -, start⟩ := followed_of_reach ⟨by simp, by simp⟩ h
    refine ⟨all.inside, fun d reaches => ?_⟩
    induction reaches with
    | refl => exact ⟨e, hname, start e List.mem_cons_self⟩
    | tail _ refers ih =>
      obtain ⟨e', he', mem⟩ := ih
      obtain ⟨t, ht, dependency⟩ := refers
      rw [entry_of_find? ht] at he'
      cases he'
      obtain ⟨e'', he'', there | there⟩ := all.closed t mem _ dependency
      · exact ⟨e'', he'', there⟩
      · cases there

/-- A closure that is not given fails for a name that is reached and not defined. -/
theorem closure_error {name : String} {fault : Fault} (h : r.closure name = .error fault) :
    ∃ d, r.Reaches name d ∧ r.contains d = false ∧
      fault = .typeNotFound (Typename.normalize d) := by
  unfold closure at h
  suffices ∃ d, r.Reaches name d ∧ r.entry d = .error fault by
    obtain ⟨d, reaches, hd⟩ := this
    exact ⟨d, reaches, entry_error hd⟩
  cases hname : r.entry name with
  | error fault' =>
    rw [hname] at h
    cases h
    exact ⟨name, .refl, hname⟩
  | ok e =>
    rw [hname] at h
    refine missing_of_reach (fun e' he' => ?_) h
    rw [List.mem_singleton.1 he']
    exact ⟨name, .refl, hname⟩

/-- The closure of a name whose definition has no dependencies is that definition. -/
theorem closure_of_leaf {name : String} {t : TypeDef}
    (found : r.find? (Typename.normalize name) = some t) (leaf : t.dependencies = []) :
    r.closure name = .ok [t] := by
  rw [closure, entry_of_find? found]
  change r.reach [] [⟨t, mem_of_find? found⟩] = _
  rw [reach]
  split
  · rename_i known
    cases known
  · rw [leaf]
    change r.reach [t] [] = _
    rw [reach]

/-- The closure of a name is given exactly if all names that it reaches are defined. -/
theorem closure_ok_iff {name : String} :
    (∃ types, r.closure name = .ok types) ↔ ∀ d, r.Reaches name d → r.contains d = true := by
  constructor
  · rintro ⟨types, h⟩ d reaches
    obtain ⟨e, he, -⟩ := (closure_ok h).2 d reaches
    rw [contains, find?_of_entry he]
    rfl
  · intro h
    cases hname : r.closure name with
    | ok types => exact ⟨types, rfl⟩
    | error fault =>
      obtain ⟨d, reaches, missing, -⟩ := closure_error hname
      rw [h d reaches] at missing
      cases missing

end Componentry.Registry
