import Componentry.Proofs.NameSpacing
import Componentry.Proofs.TypeClosures
import Componentry.Scope.Types

/-!
# Spellings of the names of types

A name may be spelled in many ways. Its canonical form is canonical, and what is canonical already
stays as it is. Every lookup by the name of a type, in a registry, in a typekit and from a project,
sees the canonical form only, so it has the same answer, and from a project the same effects, for
all spellings with one canonical form.
-/

namespace Componentry

section Lookups

variable {m n : String}

/-- A registry answers all spellings of a name alike. -/
theorem Registry.get_congr (same : Typename.normalize m = Typename.normalize n) (r : Registry) :
    r.get m = r.get n := by
  simp only [Registry.get, same]

/-- A registry contains all spellings of a name or none. -/
theorem Registry.contains_congr (same : Typename.normalize m = Typename.normalize n)
    (r : Registry) :
    r.contains m = r.contains n := by
  simp only [Registry.contains, same]

/-- There is no entry for a name that is not found. -/
theorem Registry.entry_of_find?_none {r : Registry} {name : String}
    (h : r.find? (Typename.normalize name) = none) :
    r.entry name = .error (.typeNotFound (Typename.normalize name)) := by
  unfold entry
  split
  · rename_i t found
    rw [h] at found
    cases found
  · rfl

/-- A registry has the same entry for all spellings of a name. -/
theorem Registry.entry_congr (same : Typename.normalize m = Typename.normalize n) (r : Registry) :
    r.entry m = r.entry n := by
  cases found : r.find? (Typename.normalize m) with
  | some t => rw [entry_of_find? found, entry_of_find? (same ▸ found)]
  | none => rw [entry_of_find?_none found, entry_of_find?_none (same ▸ found), same]

/-- What a name reaches is found from its canonical form. -/
theorem Registry.closure_congr (same : Typename.normalize m = Typename.normalize n) (r : Registry) :
    r.closure m = r.closure n := by
  simp only [Registry.closure, r.entry_congr same]

/-- A reference by name names the canonical form. -/
theorem TypeRef.name_congr (same : Typename.normalize m = Typename.normalize n) :
    (TypeRef.named m).name = (TypeRef.named n).name :=
  same

/-- A typekit has the same rule for all spellings of a name. -/
theorem Typekit.opaqueRule?_congr (same : Typename.normalize m = Typename.normalize n)
    (k : Typekit) :
    k.opaqueRule? (.named m) = k.opaqueRule? (.named n) := by
  simp only [Typekit.opaqueRule?, TypeRef.name_congr same]

/-- The rule of a type is the same for all spellings of its name. -/
theorem Store.opaqueRule_congr (same : Typename.normalize m = Typename.normalize n) (s : Store)
    (p : ProjectId) :
    s.opaqueRule p (.named m) = s.opaqueRule p (.named n) := by
  simp only [Store.opaqueRule, TypeRef.name_congr same, Typekit.opaqueRule?_congr same]

/-- A type is looked up alike in all spellings, and typekits are imported alike where it is
missing. -/
theorem ProjectId.findType_congr (same : Typename.normalize m = Typename.normalize n)
    (p : ProjectId) :
    p.findType (.named m) = p.findType (.named n) := by
  simp only [ProjectId.findType, Registry.get_congr same, TypeRef.name_congr same]

end Lookups

namespace Typename

/-- The canonical form of a name has canonical characters. -/
theorem canonical_normalize (name : String) : Canonical (normalize name).toList := by
  rw [normalize, String.toList_ofList]
  exact canonical_normalChars name.toList

/-- A name is its own canonical form exactly if its characters are canonical. -/
theorem normalize_eq_self_iff {name : String} : normalize name = name ↔ Canonical name.toList := by
  refine ⟨fun h => h ▸ canonical_normalize name, fun h => ?_⟩
  rw [normalize, normalChars_eq_self h, String.ofList_toList]

/-- The canonical form of a name is canonical, canonical names and no others are their own canonical
forms, and blanks around delimiters make no difference. Registries, typekits and projects give the
same answers for all spellings that have the same canonical form. -/
theorem normalize_canonical :
    (∀ name, Canonical (normalize name).toList) ∧
    (∀ name, normalize name = name ↔ Canonical name.toList) ∧
    (∀ name, normalize (normalize name) = normalize name) ∧
    (∀ m n, SameUpToBlanks m.toList n.toList → normalize m = normalize n) ∧
    ∀ m n, normalize m = normalize n →
      (∀ r : Registry, r.contains m = r.contains n ∧ r.get m = r.get n ∧ r.minimal m = r.minimal n ∧
        r.containedOpaques m = r.containedOpaques n) ∧
      (∀ k : Typekit, k.includes (.named m) = k.includes (.named n) ∧
        k.isInterfaceType (.named m) = k.isInterfaceType (.named n) ∧
        k.opaqueRule? (.named m) = k.opaqueRule? (.named n) ∧
        k.intermediateName (.named m) = k.intermediateName (.named n)) ∧
      ∀ p : ProjectId, p.findType (.named m) = p.findType (.named n) ∧
        p.isInterfaceType (.named m) = p.isInterfaceType (.named n) ∧
        p.opaqueRule (.named m) = p.opaqueRule (.named n) ∧
        p.intermediateName (.named m) = p.intermediateName (.named n) := by
  refine ⟨canonical_normalize, fun _ => normalize_eq_self_iff, normalize_normalize,
    fun m n h => ?_, ?_⟩
  · rw [normalize, normalize, h.normalChars_eq]
  · intro m n same
    refine ⟨fun r => ?_, fun k => ?_, fun p => ?_⟩
    · simp only [r.contains_congr same, r.get_congr same, Registry.minimal,
        Registry.containedOpaques, r.closure_congr same, and_self]
    · simp only [Typekit.includes, Typekit.isInterfaceType, Typekit.intermediateName,
        k.opaqueRule?_congr same, TypeRef.name_congr same, and_self]
    · simp only [ProjectId.isInterfaceType, ProjectId.opaqueRule, ProjectId.intermediateName,
        Typekit.isInterfaceType, p.findType_congr same, Store.opaqueRule_congr same,
        TypeRef.name_congr same, and_self]

/-- A template is found under a spelling with blanks around its delimiters, and the spelling that is
left without them is not its canonical name. -/
theorem normalize_canonical_template :
    SameUpToBlanks "std::map<Key,/Value>".toList "std::map< Key ,/Value>".toList ∧
      normalize "std::map<Key,/Value>" = normalize "std::map< Key ,/Value>" ∧
      Canonical "/std/map</Key,/Value>".toList ∧ ¬Canonical "std::map<Key,/Value>".toList ∧
      ∀ r : Registry, r.get "/std/map</Key,/Value>" = r.get "std::map< Key ,/Value>" := by
  obtain ⟨-, fixed, -, spacing, lookups⟩ := normalize_canonical
  have first : Spaced "std::map<Key,/Value>".toList "std::map< Key,/Value>".toList :=
    .space_after "std::map".toList "Key,/Value>".toList rfl
  have second : Spaced "std::map< Key,/Value>".toList "std::map< Key ,/Value>".toList :=
    .space_before "std::map< Key".toList "/Value>".toList rfl
  have same : SameUpToBlanks "std::map<Key,/Value>".toList "std::map< Key ,/Value>".toList :=
    .trans _ _ _ (.rel _ _ first) (.rel _ _ second)
  have form : normalize "/std/map</Key,/Value>" = normalize "std::map< Key ,/Value>" := by
    decide +kernel
  refine ⟨same, spacing _ _ same, (fixed _).1 (by decide +kernel), fun canonical => ?_,
    fun r => ((lookups _ _ form).1 r).2.1⟩
  exact absurd ((fixed _).2 canonical) (by decide +kernel)

end Typename

end Componentry
