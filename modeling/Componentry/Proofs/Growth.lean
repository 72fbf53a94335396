import Componentry.Proofs.Ends
import Componentry.Proofs.Faults
import Mathlib.Data.List.Nodup

/-!
# Registries grow

Definitions are added to a registry at its end, and none is taken away or replaced, also by an
operation that fails half-way. What was found under a name is found from then on. The definitions
that a descriptor adds are those of its entries whose names are new, in the order of the document.
An opaque type is added if its name is new.
-/

namespace Componentry

/-- An element of a list is found by its key, if the elements have different keys. -/
theorem find?_of_distinct {α : Type} {key : α → String} {as : List α}
    (distinct : (as.map key).Nodup) {a : α} (mem : a ∈ as) :
    as.find? (fun b => key b == key a) = some a := by
  cases found : as.find? (fun b => key b == key a) with
  | none => exact absurd (List.find?_eq_none.1 found a mem) (by simp)
  | some b =>
    have same : key b = key a := by simpa using List.find?_some found
    rw [List.inj_on_of_nodup_map distinct (List.mem_of_find?_eq_some found) mem same]

/-- The definitions of the entries of a descriptor, in the order of the document. -/
def Descriptor.types (text : String) : Except Fault (List TypeDef) := do
  let e ← Descriptor.root text
  e.children.mapM Descriptor.typeDef

namespace Registry

/-- Whether a registry holds the definitions of another one before all others. -/
def Extends (r r' : Registry) : Prop :=
  r.types <+: r'.types

/-- A registry extends itself. -/
theorem Extends.refl (r : Registry) : r.Extends r :=
  List.prefix_refl r.types

/-- Extensions follow one another. -/
theorem Extends.trans {r r' r'' : Registry} (h : r.Extends r') (h' : r'.Extends r'') :
    r.Extends r'' :=
  List.IsPrefix.trans h h'

/-- Extending a registry keeps its definitions. -/
theorem Extends.subset {r r' : Registry} (h : r.Extends r') : r.types ⊆ r'.types :=
  List.IsPrefix.subset h

/-- A definition is found under its own name. -/
theorem find?_of_mem {r : Registry} {t : TypeDef} (ht : t ∈ r.types) : r.find? t.name = some t :=
  find?_of_distinct r.distinct ht

/-- A name that is not found in a registry is not found where there are fewer definitions. -/
theorem find?_eq_none_of_subset {r r' : Registry} (sub : r'.types ⊆ r.types) {name : String}
    (new : r.find? name = none) : r'.find? name = none := by
  cases found : r'.find? name with
  | none => rfl
  | some t =>
    have known := find?_of_mem (sub (mem_of_find? found))
    rw [name_of_find? found, new] at known
    cases known

/-- A registry has all names of one that it extends. -/
theorem Extends.names {r r' : Registry} (h : r.Extends r') : r.names ⊆ r'.names :=
  List.map_subset _ h.subset

/-- A type that is found has its name among those of the registry. -/
theorem mem_names_of_find? {r : Registry} {name : String} {t : TypeDef}
    (h : r.find? name = some t) : name ∈ r.names :=
  name_of_find? h ▸ List.mem_map_of_mem (mem_of_find? h)

/-- What is found in a registry is found when the registry is extended. -/
theorem Extends.find? {r r' : Registry} (h : r.Extends r') {name : String} {t : TypeDef}
    (ht : r.find? name = some t) : r'.find? name = some t := by
  rw [← name_of_find? ht]
  exact find?_of_mem (h.subset (mem_of_find? ht))

/-- The definition of a name in any spelling is found under its canonical form. -/
theorem find?_of_get {r : Registry} {name : String} {t : TypeDef} (h : r.get name = .ok t) :
    r.find? (Typename.normalize name) = some t := by
  unfold Registry.get at h
  split at h
  · rename_i known hknown
    cases h
    exact hknown
  · cases h

/-- A type that is answered has its name among those of the registry. -/
theorem mem_names_of_get {r : Registry} {name : String} {t : TypeDef} (h : r.get name = .ok t) :
    t.name ∈ r.names :=
  List.mem_map_of_mem (mem_of_find? (find?_of_get h))

/-- A name in any spelling keeps its definition when the registry is extended. -/
theorem Extends.get {r r' : Registry} (h : r.Extends r') {name : String} {t : TypeDef}
    (ht : r.get name = .ok t) : r'.get name = .ok t := by
  rw [Registry.get, h.find? (find?_of_get ht)]

/-- What operations that extend a registry may do. -/
def growing : Effect Fault Registry where
  holds _ := True
  change := Extends
  fault fault := fault.isCycle = false
  refl := Extends.refl
  trans := Extends.trans

/-- Adding a definition puts it at the end if its name is new, and fails if the name has another
one. -/
theorem ends_add (t : TypeDef) (r : Registry) :
    Ends (add t) r (fun fresh r' => r'.types = r.types ++ (if fresh then [t] else []) ∧
      t ∈ r'.types) fun fault r' => r' = r ∧ fault = .conflictingTypes t.name := by
  unfold Ends add
  split
  · rename_i h
    split at h
    · cases h
      exact ⟨rfl, List.mem_append_right _ List.mem_cons_self⟩
    · split at h
      · cases h
        rename_i known hknown same
        subst same
        exact ⟨by simp, mem_of_find? hknown⟩
      · cases h
  · rename_i h
    split at h
    · cases h
    · split at h
      · cases h
      · cases h
        exact ⟨rfl, rfl⟩

/-- A definition with a new name is added. -/
theorem add_of_new {t : TypeDef} {r : Registry} (new : r.find? t.name = none) :
    add t r = .ok true (r.append t new) := by
  unfold add
  split
  · rfl
  · rename_i known hknown
    rw [new] at hknown
    cases hknown

/-- A definition that is there is not added. -/
theorem add_of_known {t : TypeDef} {r : Registry} (known : r.find? t.name = some t) :
    add t r = .ok false r := by
  unfold add
  split
  · rename_i new
    rw [known] at new
    cases new
  · rename_i other hother
    obtain rfl : t = other := Option.some.inj (known.symm.trans hother)
    exact if_pos rfl

/-- What is noted of a definition that was added: its name, if it was new. -/
private theorem noted_eq (isNew : Bool) (t : TypeDef) (added : List String) :
    (if isNew then pure (.yield (added ++ [t.name])) else pure (.yield added) :
      Extension (ForInStep (List String))) =
      pure (.yield (added ++ (if isNew then [t] else []).map (·.name))) := by
  cases isNew with
  | true => rfl
  | false => simp

/-- Definitions that are read one after the other and added end up in the registry, the new ones at
the end in the order in which they were read. -/
theorem ends_addEach {α : Type} (read : α → Except Fault TypeDef) (as : List α)
    (added : List String) (r : Registry) :
    Ends (forIn as added fun a added => do
        let t ← Descriptor.mergeInto.liftExcept (read a)
        if ← add t then pure (.yield (added ++ [t.name])) else pure (.yield added)) r
      (fun names r' => ∃ types fresh, as.mapM read = .ok types ∧ r'.types = r.types ++ fresh ∧
        names = added ++ fresh.map (·.name) ∧ fresh.Sublist types ∧ ∀ t ∈ types, t ∈ r'.types)
      fun fault r' =>
        r.Extends r' ∧ ((∃ a, read a = .error fault) ∨ ∃ name, fault = .conflictingTypes name) := by
  induction as generalizing added r with
  | nil => exact ⟨[], [], rfl, by simp, by simp, .slnil, by simp⟩
  | cons a as ih =>
    rw [List.forIn_cons]
    simp only [ends_bind]
    cases ha : read a with
    | error fault => exact ⟨Extends.refl r, .inl ⟨a, ha⟩⟩
    | ok t =>
      change Ends (add t) r _ _
      refine (ends_add t r).mono ?_ ?_
      · rintro isNew r₁ ⟨htypes, ht⟩
        have hr : r.Extends r₁ := ⟨_, htypes.symm⟩
        have hsub : (if isNew then [t] else []).Sublist [t] := by cases isNew <;> simp
        rw [noted_eq, ends_pure]
        refine (ih _ r₁).mono ?_ fun fault r₂ h => ⟨hr.trans h.1, h.2⟩
        rintro names r₂ ⟨types, fresh, hmap, happ, rfl, hfresh, hmem⟩
        refine ⟨t :: types, (if isNew then [t] else []) ++ fresh, ?_, ?_, ?_,
          hsub.append hfresh, ?_⟩
        · rw [List.mapM_cons, ha, hmap]
          rfl
        · rw [happ, htypes, List.append_assoc]
        · rw [List.map_append, List.append_assoc]
        · intro u hu
          rcases List.mem_cons.mp hu with rfl | hu
          · rw [happ]
            exact List.mem_append_left _ ht
          · exact hmem u hu
      · rintro fault r₁ ⟨rfl, hf⟩
        exact ⟨Extends.refl _, .inr ⟨t.name, hf⟩⟩

/-- A list of values is what its values give. -/
private theorem mapM_ok (types : List TypeDef) :
    types.mapM (fun t => (.ok t : Except Fault TypeDef)) = .ok types := by
  induction types with
  | nil => rfl
  | cons t types ih => rw [List.mapM_cons, ih]; rfl

/-- Adding definitions that are at hand fails only if a name has another definition. -/
theorem ends_addAll (types : List TypeDef) (r : Registry) :
    Ends (addAll types) r
      (fun names r' => ∃ fresh, r'.types = r.types ++ fresh ∧ names = fresh.map (·.name) ∧
        fresh.Sublist types ∧ ∀ t ∈ types, t ∈ r'.types)
      fun fault r' => r.Extends r' ∧ ∃ name, fault = .conflictingTypes name := by
  refine ends_bind.2 ((ends_addEach .ok types [] r).mono ?_ ?_)
  · rintro names r' ⟨read, fresh, hread, happ, rfl, hfresh, hmem⟩
    rw [mapM_ok] at hread
    cases hread
    exact ⟨fresh, happ, rfl, hfresh, hmem⟩
  · rintro fault r' ⟨grows, ⟨t, unreadable⟩ | conflict⟩
    · cases unreadable
    · exact ⟨grows, conflict⟩

/-- Wherever adding definitions ends, none but these and the old ones are there. -/
theorem ends_addAll_subset (types : List TypeDef) (r : Registry) :
    Ends (addAll types) r (fun _ r' => r'.types ⊆ r.types ++ types) fun _ r' =>
      r'.types ⊆ r.types ++ types := by
  have each (added : List String) : Ends (forIn types added fun t added => do
      if ← add t then pure (.yield (added ++ [t.name])) else pure (.yield added)) r
      (fun _ r' => r'.types ⊆ r.types ++ types) fun _ r' => r'.types ⊆ r.types ++ types := by
    induction types generalizing r added with
    | nil => exact List.subset_append_left _ _
    | cons t types ih =>
      rw [List.forIn_cons]
      refine ends_bind.2 (ends_bind.2 ((ends_add t r).mono ?_ ?_))
      · rintro fresh r₁ ⟨happ, -⟩
        have more {r₂ : Registry} (sub : r₂.types ⊆ r₁.types ++ types) :
            r₂.types ⊆ r.types ++ t :: types := by
          rw [happ] at sub
          refine List.Subset.trans sub ?_
          cases fresh <;> simp
        rw [noted_eq, ends_pure]
        exact (ih r₁ _).mono (fun _ _ => more) fun _ _ => more
      · rintro fault _ ⟨rfl, -⟩
        exact List.subset_append_left _ _
  exact ends_bind.2 ((each []).mono (fun _ _ h => h) fun _ _ h => h)

/-- A definition with a new name is put at the end. -/
theorem addAll_of_new {t : TypeDef} {r : Registry} (new : r.find? t.name = none) :
    addAll [t] r = .ok [t.name] (r.append t new) := by
  simp [addAll, bind, EStateM.bind, add_of_new new, pure, EStateM.pure]

/-- A definition that is registered as it is adds nothing. -/
theorem addAll_of_known {t : TypeDef} {r : Registry} (known : r.find? t.name = some t) :
    addAll [t] r = .ok [] r := by
  simp [addAll, bind, EStateM.bind, add_of_known known, pure, EStateM.pure]

/-- Adding all types of a list lets the registry grow. -/
theorem covers_addAll (types : List TypeDef) : growing.Covers (addAll types) := by
  refine fun r _ => (ends_addAll types r).mono ?_ ?_
  · rintro names r' ⟨fresh, happ, -, -, -⟩
    exact ⟨trivial, fresh, happ.symm⟩
  · rintro fault r' ⟨grows, name, rfl⟩
    exact ⟨trivial, grows, rfl⟩

/-- A descriptor that is merged adds those of its definitions whose names are new, in the order of
the document, and tells their names. -/
theorem ends_mergeInto (text : String) (r : Registry) :
    Ends (Descriptor.mergeInto text) r
      (fun names r' => ∃ types fresh, Descriptor.types text = .ok types ∧
        r'.types = r.types ++ fresh ∧
        names = fresh.map (·.name) ∧ fresh.Sublist types ∧ ∀ t ∈ types, t ∈ r'.types)
      fun fault r' => r.Extends r' ∧ fault.isCycle = false := by
  refine ends_bind.2 ?_
  cases he : Descriptor.root text with
  | error fault => exact ⟨Extends.refl r, Descriptor.cycleFree_root text fault he⟩
  | ok e =>
    refine ends_bind.2 ((ends_addEach Descriptor.typeDef e.children [] r).mono ?_ ?_)
    · rintro names r' ⟨types, fresh, htypes, happ, rfl, hfresh, hmem⟩
      refine ⟨types, fresh, ?_, happ, rfl, hfresh, hmem⟩
      rw [Descriptor.types, he]
      exact htypes
    · rintro fault r' ⟨grows, ⟨entry, unreadable⟩ | ⟨name, rfl⟩⟩
      · exact ⟨grows, Descriptor.cycleFree_typeDef entry fault unreadable⟩
      · exact ⟨grows, rfl⟩

/-- Definitions that can all be read are added as if they were at hand. -/
private theorem addEach_eq {α : Type} {read : α → Except Fault TypeDef} {as : List α}
    {types : List TypeDef} (h : as.mapM read = .ok types) (added : List String) :
    (forIn as added fun a added => do
      let t ← Descriptor.mergeInto.liftExcept (read a)
      if ← add t then pure (.yield (added ++ [t.name])) else pure (.yield added) :
        Extension (List String)) =
      (forIn types added fun t added => do
        if ← add t then pure (.yield (added ++ [t.name])) else pure (.yield added) :
          Extension (List String)) := by
  induction as generalizing types added with
  | nil =>
    cases h
    rfl
  | cons a as ih =>
    rw [List.mapM_cons] at h
    cases ha : read a with
    | error fault =>
      rw [ha] at h
      cases h
    | ok t =>
      rw [ha] at h
      cases has : as.mapM read with
      | error fault =>
        rw [has] at h
        cases h
      | ok rest =>
        rw [has] at h
        cases h
        rw [List.forIn_cons, List.forIn_cons, ha]
        refine congr (congrArg bind rfl) (funext fun step => ?_)
        cases step with
        | done b => rfl
        | yield b => exact ih has b

/-- A descriptor whose definitions can all be read adds these. -/
theorem mergeInto_eq_addAll {text : String} {types : List TypeDef}
    (h : Descriptor.types text = .ok types) :
    Descriptor.mergeInto text = addAll types := by
  unfold Descriptor.types at h
  cases he : Descriptor.root text with
  | error fault =>
    rw [he] at h
    cases h
  | ok e =>
    rw [he] at h
    unfold Descriptor.mergeInto addAll
    rw [he]
    exact congrArg (· >>= pure) (addEach_eq h [])

/-- Merging a descriptor lets the registry grow. -/
theorem covers_mergeInto (text : String) : growing.Covers (Descriptor.mergeInto text) := by
  refine fun r _ => (ends_mergeInto text r).mono ?_ fun fault r' ⟨h, hf⟩ => ⟨trivial, h, hf⟩
  rintro names r' ⟨types, fresh, -, happ, -, -, -⟩
  exact ⟨trivial, fresh, happ.symm⟩

/-- The registry with an opaque type of a name, if the name is new. -/
def withOpaqueType (r : Registry) (name : String) : Registry :=
  if new : r.find? name = none then r.append { name, kind := .opaqueType } new else r

/-- An opaque type that is known is not added. -/
theorem withOpaqueType_of_known {r : Registry} {name : String}
    (known : (r.find? name).isSome = true) :
    r.withOpaqueType name = r := by
  rw [withOpaqueType, dif_neg]
  intro new
  rw [new] at known
  cases known

/-- An opaque type that is new is added behind all others. -/
theorem types_withOpaqueType_of_new {r : Registry} {name : String} (new : r.find? name = none) :
    (r.withOpaqueType name).types = r.types ++ [{ name, kind := .opaqueType }] := by
  rw [withOpaqueType, dif_pos new]
  rfl

/-- No type is lost when an opaque type is added. -/
theorem subset_withOpaqueType {r : Registry} {name : String} :
    r.types ⊆ (r.withOpaqueType name).types := by
  rw [withOpaqueType]
  split
  · exact List.subset_append_left _ _
  · exact List.Subset.refl _

/-- An opaque type is added under its own name only. -/
theorem mem_withOpaqueType {r : Registry} {name : String} :
    ∀ t ∈ (r.withOpaqueType name).types, t ∈ r.types ∨ t.name = name := by
  intro t mem
  cases found : r.find? name with
  | some known =>
    rw [withOpaqueType_of_known (Option.isSome_of_mem found)] at mem
    exact .inl mem
  | none =>
    rw [types_withOpaqueType_of_new found] at mem
    exact (List.mem_append.1 mem).imp_right fun last => by rw [List.mem_singleton.1 last]

/-- An opaque type that is new is added as a definition. -/
theorem add_opaqueType {r : Registry} {name : String} (new : r.find? name = none) :
    add { name, kind := .opaqueType } r = .ok true (r.withOpaqueType name) := by
  rw [withOpaqueType, dif_pos new]
  exact add_of_new new

/-- A type of the name is found afterwards. -/
theorem find?_withOpaqueType (r : Registry) (name : String) :
    (r.withOpaqueType name).find? name =
      some ((r.find? name).getD { name, kind := .opaqueType }) := by
  cases found : r.find? name with
  | some t => rw [withOpaqueType_of_known (Option.isSome_of_mem found), found, Option.getD_some]
  | none =>
    let t : TypeDef := { name, kind := .opaqueType }
    have last : t ∈ (r.append t found).types := List.mem_append_right _ List.mem_cons_self
    rw [withOpaqueType, dif_pos found]
    exact find?_of_mem last

end Registry

end Componentry
