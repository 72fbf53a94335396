import Componentry.Proofs.Growth

/-!
# Types that agree

Definitions agree if no two different ones have the same name. Those of a registry do, and further
definitions can be added to a registry exactly if they agree with each other and with those that are
there.
-/

namespace Componentry

/-- Whether no two different definitions have the same name. -/
def TypeDef.Agree (types : List TypeDef) : Prop :=
  ∀ d ∈ types, ∀ e ∈ types, d.name = e.name → d = e

namespace TypeDef.Agree

variable {types types' : List TypeDef}

/-- Types among others that agree do agree. -/
theorem mono (h : Agree types') (sub : types ⊆ types') : Agree types :=
  fun d hd e he same => h d (sub hd) e (sub he) same

/-- Whether types agree does not depend on their order. -/
theorem congr (same : ∀ d, d ∈ types ↔ d ∈ types') : Agree types ↔ Agree types' :=
  ⟨fun h => h.mono fun d => (same d).2, fun h => h.mono fun d => (same d).1⟩

end TypeDef.Agree

namespace Registry

/-- A registry has at most one definition for a name. -/
theorem agree (r : Registry) : TypeDef.Agree r.types := by
  intro d hd e he same
  have first := find?_of_mem hd
  rw [same, find?_of_mem he] at first
  exact (Option.some.inj first).symm

/-- What is found under a name depends on the definitions only, and not on their order. -/
theorem find?_congr {r r' : Registry} (same : ∀ d, d ∈ r.types ↔ d ∈ r'.types) (name : String) :
    r.find? name = r'.find? name := by
  ext d
  have found (q : Registry) : q.find? name = some d ↔ d ∈ q.types ∧ d.name = name := by
    refine ⟨fun h => ⟨mem_of_find? h, name_of_find? h⟩, ?_⟩
    rintro ⟨mem, rfl⟩
    exact find?_of_mem mem
  rw [found, found, same]

/-- A definition that agrees with those of the registry is added, or is there. -/
theorem ends_add_of_agree {r : Registry} {t : TypeDef} (agree : TypeDef.Agree (r.types ++ [t])) :
    Ends (add t) r (fun _ r' => r'.types ⊆ r.types ++ [t]) fun _ _ => False := by
  cases found : r.find? t.name with
  | none => exact ends_of_eq_ok (add_of_new found) (List.Subset.refl _)
  | some known =>
    obtain rfl : known = t :=
      agree known (List.mem_append_left _ (mem_of_find? found)) t (by simp) (name_of_find? found)
    exact ends_of_eq_ok (add_of_known found) (List.subset_append_left _ _)

/-- Definitions that agree with each other and with those of the registry are added without fail. -/
theorem ends_addAll_of_agree {r : Registry} {types : List TypeDef}
    (agree : TypeDef.Agree (r.types ++ types)) :
    Ends (addAll types) r (fun _ _ => True) fun _ _ => False := by
  have each (added : List String) : Ends (forIn types added fun t added => do
      if ← add t then pure (.yield (added ++ [t.name])) else pure (.yield added)) r
        (fun _ _ => True) fun _ _ => False := by
    induction types generalizing r added with
    | nil => exact trivial
    | cons t types ih =>
      have first : TypeDef.Agree (r.types ++ [t]) := agree.mono (by simp)
      rw [List.forIn_cons]
      refine ends_bind.2
        (ends_bind.2 ((ends_add_of_agree first).mono (fun fresh r' sub => ?_) fun _ _ h => h))
      have rest : TypeDef.Agree (r'.types ++ types) := by
        refine agree.mono fun d hd => ?_
        rcases List.mem_append.1 hd with old | new
        · rcases List.mem_append.1 (sub old) with old | mem
          · exact List.mem_append_left _ old
          · exact List.mem_append_right _ (List.mem_singleton.1 mem ▸ List.mem_cons_self)
        · exact List.mem_append_right _ (List.mem_cons_of_mem t new)
      cases fresh <;> exact ih rest _
  exact ends_bind.2 ((each []).mono (fun _ _ _ => trivial) fun _ _ h => h)

/-- Definitions are added to a registry exactly if they agree, and then the registry has them
all. -/
theorem ends_addAll_agree (types : List TypeDef) (r : Registry) :
    Ends (addAll types) r
      (fun _ r' => TypeDef.Agree (r.types ++ types) ∧ ∀ d, d ∈ r'.types ↔ d ∈ r.types ++ types)
      fun fault _ => ¬TypeDef.Agree (r.types ++ types) ∧
        ∃ name, fault = .conflictingTypes name := by
  by_cases agree : TypeDef.Agree (r.types ++ types)
  · refine ((ends_addAll types r).and (ends_addAll_of_agree agree)).mono ?_ fun _ _ h => h.2.elim
    rintro names r' ⟨⟨fresh, happ, -, sub, held⟩, -⟩
    refine ⟨agree, fun d => ⟨fun hd => ?_, fun hd => ?_⟩⟩
    · rw [happ] at hd
      exact List.mem_append.2 ((List.mem_append.1 hd).imp_right fun new => sub.subset new)
    · rcases List.mem_append.1 hd with old | new
      · rw [happ]
        exact List.mem_append_left _ old
      · exact held d new
  · refine (ends_addAll types r).mono ?_ fun _ _ h => ⟨agree, h.2⟩
    rintro names r' ⟨fresh, happ, -, -, held⟩
    refine absurd (r'.agree.mono fun d hd => ?_) agree
    rcases List.mem_append.1 hd with old | new
    · rw [happ]
      exact List.mem_append_left _ old
    · exact held d new

end Registry

end Componentry
