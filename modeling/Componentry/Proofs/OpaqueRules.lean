import Componentry.Proofs.CanonicalNames
import Componentry.Proofs.Keeping
import Componentry.Proofs.TypeClosures

/-!
# Marshalling rules of opaque types

A descriptor that is read gives canonical names and a rule for each of its opaque types. A typekit
that adds these rules has them from then on, as rules are only ever added; one that declares an
opaque type has its rule afterwards.
-/

namespace Componentry

/-- Whether all definitions of a registry have canonical names. -/
def Registry.NamesCanonical (r : Registry) : Prop :=
  ∀ t ∈ r.types, Typename.normalize t.name = t.name

/-- Whether a typekit has a marshalling rule for the type of a name. -/
def Typekit.Marshals (k : Typekit) (name : String) : Prop :=
  ∃ rule ∈ k.opaques, rule.typeName = name

/-- Whether a typekit has marshalling rules for all opaque types of a registry, whose names are
canonical. -/
structure Typekit.MarshalsAll (k : Typekit) (r : Registry) : Prop where
  names : r.NamesCanonical
  rules : ∀ t ∈ r.types, t.isOpaque = true → k.Marshals t.name

/-- The standard types have canonical names, and none of them is opaque. -/
theorem Registry.standard_plain :
    ∀ t ∈ Registry.standard.types, Typename.normalize t.name = t.name ∧ t.isOpaque = false := by
  decide +kernel

namespace Descriptor

/-- The definition of an entry has the canonical form of the name that the entry gives. -/
theorem name_of_typeDef {e : Xml.Element} {t : TypeDef} (h : typeDef e = .ok t) :
    ∃ name, e.attribute? "name" = some name ∧ t.name = Typename.normalize name ∧
      (t.isOpaque = true → e.tag = "opaque") := by
  have named {f : String → Except Fault TypeDef} (h : typeName e "name" >>= f = .ok t)
      (hf : ∀ name, f name = .ok t → t.name = name ∧ (t.isOpaque = true → e.tag = "opaque")) :
      ∃ name, e.attribute? "name" = some name ∧ t.name = Typename.normalize name ∧
        (t.isOpaque = true → e.tag = "opaque") := by
    obtain ⟨name, hname, h⟩ := of_bind_ok h
    obtain ⟨value, hvalue, hnormal⟩ := of_bind_ok hname
    obtain rfl := Except.ok.inj hnormal
    unfold required at hvalue
    split at hvalue
    · rename_i given
      cases hvalue
      exact ⟨value, given, hf _ h⟩
    · cases hvalue
  unfold typeDef at h
  split at h
  · refine named h fun name h => ?_
    obtain ⟨size, -, h⟩ := of_bind_ok h
    cases h
    exact ⟨rfl, nofun⟩
  · refine named h fun name h => ?_
    cases h
    exact ⟨rfl, nofun⟩
  · refine named h fun name h => ?_
    obtain ⟨values, -, h⟩ := of_bind_ok h
    cases h
    exact ⟨rfl, nofun⟩
  · refine named h fun name h => ?_
    obtain ⟨fields, -, h⟩ := of_bind_ok h
    cases h
    exact ⟨rfl, nofun⟩
  · refine named h fun name h => ?_
    obtain ⟨element, -, h⟩ := of_bind_ok h
    obtain ⟨dimension, -, h⟩ := of_bind_ok h
    cases h
    exact ⟨rfl, nofun⟩
  · refine named h fun name h => ?_
    obtain ⟨element, -, h⟩ := of_bind_ok h
    cases h
    exact ⟨rfl, nofun⟩
  · rename_i tag
    refine named h fun name h => ?_
    cases h
    exact ⟨rfl, fun _ => tag⟩
  · cases h

/-- A child of an element is one of its descendants. -/
theorem mem_descendants_of_mem_children {e child : Xml.Element} (h : child ∈ e.children) :
    child ∈ e.descendants := by
  have among (es : List Xml.Element) (h : child ∈ es) :
      child ∈ Xml.Element.descendants.descendantsOf es := by
    induction es with
    | nil => cases h
    | cons first rest ih =>
      rw [Xml.Element.descendants.descendantsOf]
      rcases List.mem_cons.1 h with rfl | h
      · obtain ⟨tag, attributes, children⟩ := child
        exact List.mem_append_left _ List.mem_cons_self
      · exact List.mem_append_right _ (ih h)
  obtain ⟨tag, attributes, children⟩ := e
  exact List.mem_cons_of_mem _ (among children h)

/-- The types of a descriptor have canonical names. -/
theorem names_of_types {text : String} {types : List TypeDef}
    (h : Descriptor.types text = .ok types) :
    ∀ t ∈ types, Typename.normalize t.name = t.name := by
  intro t ht
  obtain ⟨e, -, h⟩ := of_bind_ok h
  obtain ⟨entry, -, hentry⟩ := (mem_of_mapM_ok h).2 t ht
  obtain ⟨name, -, hname, -⟩ := name_of_typeDef hentry
  rw [hname, Typename.normalize_normalize]

/-- The rules of a descriptor are for canonical names. -/
theorem names_of_opaqueRules {text : String} {rules : List OpaqueRule}
    (h : opaqueRules text = .ok rules) :
    ∀ rule ∈ rules, Typename.normalize rule.typeName = rule.typeName := by
  intro rule mem
  obtain ⟨e, -, h⟩ := of_bind_ok h
  obtain ⟨entry, -, hentry⟩ := (mem_of_mapM_ok h).2 rule mem
  unfold opaqueRule at hentry
  split at hentry
  · obtain rfl := Except.ok.inj hentry
    exact Typename.normalize_normalize _
  · cases hentry

/-- The opaque types of a descriptor have rules. -/
theorem rules_of_types {text : String} {types : List TypeDef} {rules : List OpaqueRule}
    (htypes : Descriptor.types text = .ok types) (hrules : opaqueRules text = .ok rules) :
    ∀ t ∈ types, t.isOpaque = true → ∃ rule ∈ rules, rule.typeName = t.name := by
  intro t ht isOpaque
  obtain ⟨e, he, htypes⟩ := of_bind_ok htypes
  obtain ⟨e', he', hrules⟩ := of_bind_ok hrules
  obtain rfl : e = e' := Except.ok.inj (he.symm.trans he')
  obtain ⟨entry, child, hentry⟩ := (mem_of_mapM_ok htypes).2 t ht
  obtain ⟨name, hname, same, tag⟩ := name_of_typeDef hentry
  have among : entry ∈ e.allNamed "opaque" :=
    List.mem_filter.2 ⟨mem_descendants_of_mem_children child, by simpa using tag isOpaque⟩
  obtain ⟨rule, mem, hrule⟩ := (mem_of_mapM_ok hrules).1 entry among
  refine ⟨rule, mem, ?_⟩
  unfold opaqueRule at hrule
  rw [hname] at hrule
  split at hrule
  · rename_i given intermediate hgiven _
    obtain rfl := Except.ok.inj hrule
    cases hgiven
    exact same.symm
  · cases hrule

end Descriptor

namespace Typekit

variable {k : Typekit} {r : Registry}

/-- What has a rule keeps it as rules are added. -/
theorem Marshals.mono {k' : Typekit} {name : String} (h : k.Marshals name)
    (more : k.opaques ⊆ k'.opaques) :
    k'.Marshals name := by
  obtain ⟨rule, mem, same⟩ := h
  exact ⟨rule, more mem, same⟩

/-- Edits lose no rule. -/
theorem Edits.rules {kr kr' : Typekit × Registry} (h : Edits kr kr') :
    kr.1.opaques ⊆ kr'.1.opaques := by
  induction h with
  | refl => exact List.Subset.refl _
  | tail _ step ih =>
    refine List.Subset.trans ih ?_
    cases step with
    | rule => exact List.subset_append_left _ _
    | _ => exact List.Subset.refl _

/-- Whether the registry is the same and no rule is lost. -/
structure Supplied (kr kr' : Typekit × Registry) : Prop where
  registry : kr'.2 = kr.2
  rules : kr.1.opaques ⊆ kr'.1.opaques

/-- A typekit supplies what it has. -/
theorem Supplied.refl (kr : Typekit × Registry) : Supplied kr kr :=
  ⟨rfl, List.Subset.refl _⟩

/-- A rule that is added is there afterwards. -/
theorem ends_addRule (rule : OpaqueRule) (kr : Typekit × Registry) :
    Ends (addRule rule) kr (fun _ kr' => Supplied kr kr' ∧ rule ∈ kr'.1.opaques)
      fun _ kr' => Supplied kr kr' := by
  obtain ⟨k, r⟩ := kr
  refine ends_bind.2 ?_
  change Ends (if (k.opaqueRule? (.named rule.typeName)).isSome then _ else _) (k, r) _ _
  refine ends_ite.2 ⟨fun _ => .refl _, fun _ => ?_⟩
  cases r.closure rule.typeName with
  | error fault => exact .refl _
  | ok needed =>
    simp only
    split
    · exact ⟨⟨rfl, List.subset_append_left _ _⟩, List.mem_append_right _ List.mem_cons_self⟩
    · exact ⟨rfl, List.Subset.refl _⟩

/-- Exports leave the registry and the rules as they are. -/
theorem ends_exportTypes_supplied (names : List String) (interface : Bool)
    (kr : Typekit × Registry) :
    Ends (exportTypes names interface) kr (fun _ => Supplied kr) fun _ => Supplied kr := by
  have all : Keeps (Supplied kr) (fun _ => True) (exportTypes names interface) fun _ _ => True := by
    refine keeps_get.bind fun kr₁ => ?_
    dsimp only
    cases kr₁.1.checkMutable with
    | error fault => exact keeps_throw fault
    | ok _ =>
      refine keeps_forM fun name _ kr₂ supplied => ends_bind.2 (ends_get.2 ?_)
      dsimp only
      cases kr₂.2.get name with
      | error fault => exact fun _ => supplied
      | ok t => exact ⟨⟨supplied.registry, supplied.rules⟩, trivial⟩
  exact (all kr (.refl kr)).mono (fun _ _ h => h.1) fun _ _ h => h trivial

/-- An opaque type that is declared has a rule, and no other name is registered. -/
theorem ends_declareOpaque (name intermediate : String) (headers : List String) (needsCopy : Bool)
    (kr : Typekit × Registry) :
    Ends (declareOpaque name intermediate headers needsCopy) kr
      (fun _ kr' => kr'.1.Marshals (Typename.normalize name) ∧
        ∀ t ∈ kr'.2.types, t ∈ kr.2.types ∨ t.name = Typename.normalize name)
      fun _ _ => True := by
  obtain ⟨k, r⟩ := kr
  refine ends_declareOpaque_of (fun _ => trivial) (fun _ _ _ => trivial) (fun _ _ => trivial) ?_
  intro t _ rule
  refine (ends_addRule rule _).mono ?_ fun _ _ _ => trivial
  rintro _ ⟨k', r'⟩ ⟨⟨rfl, -⟩, mem⟩
  exact ⟨⟨rule, mem, rfl⟩, Registry.mem_withOpaqueType⟩

/-- A typekit with a rule for an opaque type, which it exports, that its own definitions did not
need before. -/
def withOpaque (k : Typekit) (t : TypeDef) (rule : OpaqueRule)
    (unneeded : k.opaqueRegistry.find? t.name = none) : Typekit :=
  withExport
    { k with opaqueRegistry := k.opaqueRegistry.append t unneeded, opaques := k.opaques ++ [rule] }
    t.name true

/-- A rule that is added comes last. It is for a registered type that had none. -/
theorem ends_addRule_last (rule : OpaqueRule) (k : Typekit) (r : Registry) :
    Ends (addRule rule) (k, r)
      (fun _ kr => kr.2 = r ∧ kr.1.opaques = k.opaques ++ [rule] ∧ kr.1.registry = k.registry ∧
        k.opaqueRule? (.named rule.typeName) = none ∧ ∃ d, r.get rule.typeName = .ok d)
      fun _ _ => True := by
  refine ends_bind.2 ?_
  change Ends (if (k.opaqueRule? (.named rule.typeName)).isSome then _ else _) (k, r) _ _
  refine ends_ite.2 ⟨fun _ => trivial, fun unruled => ?_⟩
  cases closure : r.closure rule.typeName with
  | error fault => exact trivial
  | ok needed =>
    obtain ⟨entry, found, -⟩ := (Registry.closure_ok closure).2 _ .refl
    have registered : ∃ d, r.get rule.typeName = .ok d :=
      ⟨entry.1, by rw [Registry.get, Registry.find?_of_entry found]⟩
    simp only
    split
    · exact ⟨rfl, rfl, rfl, by simpa using unruled, registered⟩
    · exact trivial

/-- A rule is added for a type that is registered and has no dependencies, if there is none yet. -/
theorem ends_addRule_leaf (rule : OpaqueRule) {t : TypeDef}
    (unruled : (k.opaqueRule? (.named rule.typeName)).isSome = false)
    (found : r.find? (Typename.normalize rule.typeName) = some t) (leaf : t.dependencies = [])
    (unneeded : k.opaqueRegistry.find? t.name = none) :
    Ends (addRule rule) (k, r)
      (fun _ kr => kr = ({ k with
        opaqueRegistry := k.opaqueRegistry.append t unneeded
        opaques := k.opaques ++ [rule] }, r))
      fun _ _ => False := by
  refine ends_bind.2 ?_
  change Ends (if (k.opaqueRule? (.named rule.typeName)).isSome then _ else _) (k, r) _ _
  rw [if_neg (by simp [unruled]), Registry.closure_of_leaf found leaf]
  simp only [EStateM.run, Registry.addAll_of_new unneeded]
  exact rfl

/-- An opaque type with a new name is declared if its intermediate type is registered. -/
theorem ends_declareOpaque_new {name intermediate : String} (headers : List String)
    (needsCopy : Bool) {t u : TypeDef}
    (ht : t = { name := Typename.normalize name, kind := .opaqueType }) (isOpen : k.frozen = false)
    (new : r.find? t.name = none) (unneeded : k.opaqueRegistry.find? t.name = none)
    (unruled : (k.opaqueRule? (.named t.name)).isSome = false)
    (found : r.get intermediate = .ok u) :
    Ends (declareOpaque name intermediate headers needsCopy) (k, r)
      (fun _ kr => kr = (k.withOpaque t
        { typeName := t.name, intermediateName := u.name, needsCopy, headers } unneeded,
        r.append t new))
      fun _ _ => False := by
  have spelled : Typename.normalize name = t.name := by rw [ht]
  have canonical : Typename.normalize t.name = t.name := by
    rw [← spelled, Typename.normalize_normalize]
  have leaf : t.dependencies = [] := by rw [ht]; rfl
  have here : (r.append t new).find? (Typename.normalize t.name) = some t := by
    rw [canonical]
    exact Registry.find?_of_mem (t := t) (List.mem_append_right _ List.mem_cons_self)
  have kept : (r.append t new).get intermediate = .ok u := Registry.Extends.get ⟨[t], rfl⟩ found
  have registered : r.withOpaqueType (Typename.normalize name) = r.append t new := by
    subst ht
    rw [Registry.withOpaqueType, dif_pos new]
  refine ends_declareOpaque_of ?_ ?_ ?_ ?_
  · intro frozen
    rw [isOpen] at frozen
    cases frozen
  · intro d known
    rw [spelled, new] at known
    cases known
  · intro fault missing
    rw [registered, kept] at missing
    cases missing
  · intro d intermediate rule
    rw [registered, kept] at intermediate
    obtain rfl := Except.ok.inj intermediate
    have same : rule = { typeName := t.name, intermediateName := u.name, needsCopy, headers } := by
      rw [← spelled]
    rw [registered]
    refine (ends_addRule_leaf rule ?_ ?_ leaf unneeded).mono ?_ fun _ _ h => h
    · rw [same]
      exact unruled
    · rw [same]
      exact here
    · rintro _ _ rfl
      rw [same, spelled]
      rfl

end Typekit

end Componentry
