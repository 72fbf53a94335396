import Mathlib.Data.List.Perm.Basic
import Componentry.Proofs.OpaqueRules

/-!
# The two readings of a descriptor

A descriptor is read for its types and for the marshalling rules of its opaque types. The types are
those of its entries, the elements directly inside the outermost one. The rules are those of all
opaque elements, the outermost one and those inside entries among them. So each opaque type that is
read gets a rule, and there are no other rules exactly if all opaque elements are entries.
-/

namespace Componentry

namespace Descriptor

open Xml

/-- The opaque elements of a descriptor that are no entries: the outermost one, and those inside
entries. -/
def strayOpaques (e : Element) : List Element :=
  [e].filter (·.tag = "opaque") ++ e.children.flatMap fun entry =>
    (Element.descendants.descendantsOf entry.children).filter (·.tag = "opaque")

/-- The descendants of an element are itself and those of its children. -/
theorem descendants_eq (e : Element) :
    e.descendants = e :: Element.descendants.descendantsOf e.children := by
  cases e
  rfl

/-- Of the elements that are or are inside some others, those come first that are among them. -/
theorem filter_descendantsOf_perm (p : Element → Bool) (es : List Element) :
    ((Element.descendants.descendantsOf es).filter p).Perm
      (es.filter p ++ es.flatMap
        fun e => (Element.descendants.descendantsOf e.children).filter p) := by
  induction es with
  | nil => exact .nil
  | cons e es ih =>
    let inside := (Element.descendants.descendantsOf e.children).filter p
    have unfolded : (Element.descendants.descendantsOf (e :: es)).filter p =
        [e].filter p ++ (inside ++ (Element.descendants.descendantsOf es).filter p) := by
      rw [Element.descendants.descendantsOf, descendants_eq, List.cons_append,
        ← List.singleton_append, List.filter_append, List.filter_append]
    have split : (e :: es).filter p = [e].filter p ++ es.filter p := by
      rw [← List.singleton_append, List.filter_append]
    rw [unfolded, split, List.flatMap_cons, List.append_assoc]
    refine List.Perm.append_left _ ((List.Perm.append_left inside ih).trans ?_)
    exact List.perm_append_comm_assoc ..

/-- The opaque elements of a descriptor are its opaque entries and those that are no entries. -/
theorem allNamed_perm (e : Element) :
    (e.allNamed "opaque").Perm (e.childrenNamed "opaque" ++ strayOpaques e) := by
  have unfolded : e.allNamed "opaque" =
      [e].filter (·.tag = "opaque") ++
      (Element.descendants.descendantsOf e.children).filter (·.tag = "opaque") := by
    rw [Element.allNamed, descendants_eq, ← List.singleton_append, List.filter_append]
  rw [unfolded]
  refine (List.Perm.append_left _ (filter_descendantsOf_perm _ e.children)).trans ?_
  exact List.perm_append_comm_assoc ..

/-- A rule is for the type that the element names. -/
theorem typeName_of_opaqueRule {e : Element} {rule : OpaqueRule} (h : opaqueRule e = .ok rule) :
    ∃ name, e.attribute? "name" = some name ∧ rule.typeName = Typename.normalize name := by
  unfold opaqueRule at h
  split at h
  · rename_i name intermediate given _
    obtain rfl := Except.ok.inj h
    exact ⟨name, given, rfl⟩
  · cases h

/-- A type is opaque if its element is. -/
theorem isOpaque_of_typeDef {e : Element} {t : TypeDef} (h : typeDef e = .ok t) :
    t.isOpaque = true ↔ e.tag = "opaque" := by
  constructor
  · obtain ⟨name, -, -, tag⟩ := name_of_typeDef h
    exact tag
  · intro tag
    have read : typeDef e = do return { name := ← typeName e "name", kind := .opaqueType } := by
      unfold typeDef
      simp only [tag]
    rw [read] at h
    obtain ⟨name, -, h⟩ := of_bind_ok h
    obtain rfl := Except.ok.inj h
    rfl

/-- The opaque entries give their rules to the opaque types that the entries define, in the same
order. -/
theorem typeNames_of_entries {entries : List Element} {types : List TypeDef}
    {rules : List OpaqueRule} (htypes : entries.mapM typeDef = .ok types)
    (hrules : (entries.filter (·.tag = "opaque")).mapM opaqueRule = .ok rules) :
    rules.map (·.typeName) = (types.filter (·.isOpaque)).map (·.name) := by
  induction mapM_eq_ok_iff.1 htypes generalizing rules with
  | nil =>
    cases hrules
    rfl
  | @cons entry t entries types read rest ih =>
    have htypes := mapM_eq_ok_iff.2 rest
    cases isOpaque : t.isOpaque with
    | false =>
      have tag : ¬entry.tag = "opaque" := by
        rw [← isOpaque_of_typeDef read, isOpaque]; exact Bool.false_ne_true
      rw [List.filter_cons_of_neg (by simpa using tag)] at hrules
      rw [List.filter_cons_of_neg (by simp [isOpaque])]
      exact ih htypes hrules
    | true =>
      have tag : entry.tag = "opaque" := (isOpaque_of_typeDef read).1 isOpaque
      rw [List.filter_cons_of_pos (by simpa using tag), List.mapM_cons] at hrules
      obtain ⟨rule, first, hrules⟩ := of_bind_ok hrules
      obtain ⟨others, hothers, hrules⟩ := of_bind_ok hrules
      cases hrules
      obtain ⟨name, given, same⟩ := typeName_of_opaqueRule first
      obtain ⟨name', given', same', -⟩ := name_of_typeDef read
      obtain rfl : name = name' := Option.some.inj (given.symm.trans given')
      rw [List.filter_cons_of_pos isOpaque, List.map_cons, List.map_cons, same, same',
        ih htypes hothers]

/-- Whether a descriptor has an outermost element, and is read as some types and some rules. -/
structure ReadAs (text : String) (e : Element) (types : List TypeDef)
    (rules : List OpaqueRule) : Prop where
  outermost : root text = .ok e
  types : e.children.mapM typeDef = .ok types
  rules : (e.allNamed "opaque").mapM opaqueRule = .ok rules

namespace ReadAs

variable {text : String} {e : Element} {types : List TypeDef} {rules : List OpaqueRule}

/-- A descriptor of which both types and rules are read is read as one element. -/
theorem of_readings (htypes : Descriptor.types text = .ok types)
    (hrules : opaqueRules text = .ok rules) :
    ∃ e, ReadAs text e types rules := by
  obtain ⟨e, outermost, htypes⟩ := of_bind_ok htypes
  obtain ⟨e', outermost', hrules⟩ := of_bind_ok hrules
  obtain rfl : e = e' := Except.ok.inj (outermost.symm.trans outermost')
  exact ⟨e, outermost, htypes, hrules⟩

/-- The rules are for the opaque types that are read, and one for each stray element. -/
theorem typeNames_perm (h : ReadAs text e types rules) :
    ∃ strays : List OpaqueRule, strays.length = (strayOpaques e).length ∧
      (rules.map (·.typeName)).Perm
      ((types.filter (·.isOpaque)).map (·.name) ++ strays.map (·.typeName)) := by
  obtain ⟨all, read, same⟩ :=
    List.perm_comp_forall₂ (allNamed_perm e).symm (mapM_eq_ok_iff.1 h.rules)
  have apart := mapM_eq_ok_iff.2 read
  rw [List.mapM_append] at apart
  obtain ⟨entries, hentries, apart⟩ := of_bind_ok apart
  obtain ⟨strays, hstrays, apart⟩ := of_bind_ok apart
  cases apart
  refine ⟨strays, (mapM_eq_ok_iff.1 hstrays).length_eq.symm, ?_⟩
  rw [← typeNames_of_entries h.types hentries, ← List.map_append]
  exact (same.map _).symm

/-- Each opaque type of a descriptor has a rule in it. -/
theorem exists_rule (h : ReadAs text e types rules) :
    ∀ d ∈ types, d.isOpaque = true → ∃ rule ∈ rules, rule.typeName = d.name := by
  intro d there isOpaque
  obtain ⟨strays, -, perm⟩ := h.typeNames_perm
  have named : d.name ∈ (types.filter (·.isOpaque)).map (·.name) :=
    List.mem_map_of_mem (List.mem_filter.2 ⟨there, isOpaque⟩)
  exact List.mem_map.1 (perm.mem_iff.2 (List.mem_append_left _ named))

/-- The two readings agree exactly if all opaque elements are entries. -/
theorem agree_iff (h : ReadAs text e types rules) :
    (rules.map (·.typeName)).Perm ((types.filter (·.isOpaque)).map (·.name)) ↔
      strayOpaques e = [] := by
  obtain ⟨strays, length, perm⟩ := h.typeNames_perm
  constructor
  · intro agree
    have none : strays.length = 0 := by simpa using agree.symm.trans perm |>.length_eq
    exact List.length_eq_zero_iff.1 (length ▸ none)
  · intro none
    have empty : strays = [] := List.length_eq_zero_iff.1 (by rw [length, none, List.length_nil])
    simpa [empty] using perm

end ReadAs

end Descriptor

end Componentry
