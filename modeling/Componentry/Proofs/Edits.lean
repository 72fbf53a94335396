import Componentry.Proofs.CanonicalNames
import Componentry.Proofs.Growth
import Componentry.Proofs.TypeClosures

/-!
# Edits of a typekit

What the operations on a typekit and its registry do is a sequence of edits: an opaque type is
registered, a registered type is exported, the definitions that a marshalling rule needs are taken
over, and the rule is added. Exports and rules have canonical names. A typekit that is edited is not
complete.
-/

namespace Componentry.Typekit

/-- One edit of a typekit and its registry. -/
inductive Edit : Typekit × Registry → Typekit × Registry → Prop where
  | register {k : Typekit} {r r' : Registry} {t : TypeDef} (opaqueType : t.kind = .opaqueType)
      (added : r'.types = r.types ++ [t]) : Edit (k, r) (k, r')
  | exported {k : Typekit} {r : Registry} {t : TypeDef} {name : String} (interface : Bool)
      (canonical : Typename.normalize name = name) (known : r.find? name = some t) :
      Edit (k, r) (k.withExport name interface, r)
  /-- A rule that cannot be added may leave some of the definitions that it needs. -/
  | need {k : Typekit} {r opaqueRegistry : Registry}
      (kept : k.opaqueRegistry.Extends opaqueRegistry)
      (registered : opaqueRegistry.types ⊆ k.opaqueRegistry.types ++ r.types) :
      Edit (k, r) ({ k with opaqueRegistry }, r)
  | rule {k : Typekit} {r opaqueRegistry : Registry} {rule : OpaqueRule} {needed : List TypeDef}
      (canonical : Typename.normalize rule.typeName = rule.typeName)
      (unruled : k.opaqueRule? (.named rule.typeName) = none)
        (closure : r.closure rule.typeName = .ok needed)
      (kept : k.opaqueRegistry.Extends opaqueRegistry)
      (registered : opaqueRegistry.types ⊆ k.opaqueRegistry.types ++ r.types)
      (held : ∀ t ∈ needed, t ∈ opaqueRegistry.types) :
      Edit (k, r) ({ k with opaqueRegistry, opaques := k.opaques ++ [rule] }, r)

/-- Any number of edits. -/
def Edits : Typekit × Registry → Typekit × Registry → Prop :=
  Relation.ReflTransGen Edit

/-- What edits leave as it is. -/
structure Kept (kr kr' : Typekit × Registry) : Prop where
  name : kr'.1.name = kr.1.name
  package : kr'.1.package = kr.1.package
  isVirtual : kr'.1.isVirtual = kr.1.isVirtual
  registry : kr'.1.registry = kr.1.registry
  frozen : kr'.1.frozen = kr.1.frozen
  types : kr.2.Extends kr'.2

/-- One edit keeps what is fixed of a typekit. -/
theorem Edit.kept {kr kr' : Typekit × Registry} (h : Edit kr kr') : Kept kr kr' := by
  cases h with
  | register opaqueType added => exact ⟨rfl, rfl, rfl, rfl, rfl, _, added.symm⟩
  | exported interface canonical known => exact ⟨rfl, rfl, rfl, rfl, rfl, Registry.Extends.refl _⟩
  | need => exact ⟨rfl, rfl, rfl, rfl, rfl, Registry.Extends.refl _⟩
  | rule => exact ⟨rfl, rfl, rfl, rfl, rfl, Registry.Extends.refl _⟩

/-- Edits keep what is fixed of a typekit. -/
theorem Edits.kept {kr kr' : Typekit × Registry} (h : Edits kr kr') : Kept kr kr' := by
  induction h with
  | refl => exact ⟨rfl, rfl, rfl, rfl, rfl, Registry.Extends.refl _⟩
  | tail _ step ih =>
    have last := step.kept
    exact ⟨last.name.trans ih.name, last.package.trans ih.package,
      last.isVirtual.trans ih.isVirtual,
      last.registry.trans ih.registry, last.frozen.trans ih.frozen, ih.types.trans last.types⟩

/-- A typekit that exports its interface types still does when it exports one more type. -/
theorem within_withExport {k : Typekit} (within : ∀ n ∈ k.types.interface, n ∈ k.types.exported)
    (name : String) (interface : Bool) :
    ∀ n ∈ (k.withExport name interface).types.interface,
      n ∈ (k.withExport name interface).types.exported := by
  intro n mem
  refine NameSet.mem_insert.2 ?_
  cases interface with
  | false => exact .inr (within n mem)
  | true => exact (NameSet.mem_insert.1 mem).imp_right (within n)

/-- A typekit that exports its interface types still does after edits. -/
theorem Edits.within {kr kr' : Typekit × Registry} (h : Edits kr kr')
    (within : ∀ n ∈ kr.1.types.interface, n ∈ kr.1.types.exported) :
    ∀ n ∈ kr'.1.types.interface, n ∈ kr'.1.types.exported := by
  induction h with
  | refl => exact within
  | tail _ step ih =>
    cases step with
    | exported interface => exact within_withExport ih _ interface
    | _ => exact ih

/-- What operations on a typekit may do that is not complete. -/
def editing : Effect Fault (Typekit × Registry) where
  holds kr := kr.1.frozen = false
  change := Edits
  fault fault := fault.isCycle = false
  refl _ := .refl
  trans := .trans

/-- A single edit is within the effect of editing. -/
private theorem edited {kr kr' : Typekit × Registry} (open_ : kr.1.frozen = false)
    (h : Edit kr kr') :
    kr'.1.frozen = false ∧ Edits kr kr' :=
  ⟨h.kept.frozen.trans open_, .single h⟩

/-- A rule of a canonical name is added in edits. -/
theorem covers_addRule {rule : OpaqueRule}
    (canonical : Typename.normalize rule.typeName = rule.typeName) :
    editing.Covers (addRule rule) := by
  refine Effect.covers_get_bind fun (k, r) hk => ?_
  simp only
  split
  · exact ⟨hk, .refl, rfl⟩
  · rename_i unruled
    cases hclosure : r.closure rule.typeName with
    | error fault => exact ⟨hk, .refl, r.cycleFree_closure _ fault hclosure⟩
    | ok needed =>
      have ends := (Registry.ends_addAll needed k.opaqueRegistry).and
        (Registry.ends_addAll_subset needed k.opaqueRegistry)
      have registered {types : List TypeDef} (sub : types ⊆ k.opaqueRegistry.types ++ needed) :
          types ⊆ k.opaqueRegistry.types ++ r.types := by
        refine List.Subset.trans sub
          (List.append_subset.2 ⟨List.subset_append_left _ _, fun t ht => ?_⟩)
        exact List.mem_append_right _ ((Registry.closure_ok hclosure).1 t ht)
      simp only
      split
      · rename_i names opaqueRegistry hadd
        obtain ⟨⟨fresh, happ, -, -, held⟩, sub⟩ := ends.of_ok hadd
        refine edited hk (.rule canonical ?_ hclosure ⟨fresh, happ.symm⟩ (registered sub) held)
        simpa using unruled
      · rename_i fault opaqueRegistry hadd
        obtain ⟨⟨kept, name, rfl⟩, sub⟩ := ends.of_error hadd
        obtain ⟨hk', edits⟩ := edited hk (Edit.need kept (registered sub))
        exact ⟨hk', edits, rfl⟩

/-- An open typekit may be changed. -/
theorem checkMutable_of_open {k : Typekit} {r : Registry} (hk : editing.holds (k, r)) :
    k.checkMutable = .ok () := by
  change k.frozen = false at hk
  rw [checkMutable, hk]
  rfl

/-- Types are exported by a typekit that is not complete only. -/
theorem exportTypes_frozen {k : Typekit} (frozen : k.frozen = true) (r : Registry)
    (names : List String) (interface : Bool) :
    exportTypes names interface (k, r) = .error (.frozenTypekit k.name) (k, r) := by
  have ends : Ends (exportTypes names interface) (k, r) (fun _ _ => False) fun fault kr =>
      fault = .frozenTypekit k.name ∧ kr = (k, r) := by
    refine ends_bind.2 (ends_get.2 ?_)
    dsimp only
    rw [checkMutable, if_pos frozen]
    exact ⟨rfl, rfl⟩
  obtain ⟨_, _, refused, rfl, rfl⟩ := ends.exists_error
  exact refused

/-- Types are exported in edits. -/
theorem covers_exportTypes (names : List String) (interface : Bool) :
    editing.Covers (exportTypes names interface) := by
  refine Effect.covers_get_bind fun (k, r) hk => ?_
  simp only [checkMutable_of_open hk]
  refine Effect.covers_forM (fun name _ => ?_) (k, r) hk
  refine Effect.covers_get_bind fun (k, r) hk => ?_
  cases hget : r.get name with
  | error fault => exact ⟨hk, .refl, r.cycleFree_get name fault hget⟩
  | ok t =>
    have found : r.find? (Typename.normalize name) = some t := Registry.find?_of_get hget
    refine edited hk
      (.exported interface (t := t) ?_ (Registry.find?_of_mem (Registry.mem_of_find? found)))
    rw [Registry.name_of_find? found, Typename.normalize_normalize]

section DeclareOpaque

variable {k : Typekit} {r : Registry} {name intermediate : String} {headers : List String}
  {needsCopy : Bool}
  {P : OpaqueRule → Typekit × Registry → Prop} {F : Fault → Typekit × Registry → Prop}

/-- The last part of the declaration of an opaque type: its rule is added, and the type is
exported. -/
private theorem ends_ruled (missing : ∀ fault, r.get intermediate = .error fault → F fault (k, r))
    (ruled : ∀ t, r.get intermediate = .ok t →
      let rule : OpaqueRule := { typeName := name, intermediateName := t.name, needsCopy, headers }
      Ends (addRule rule) (k, r) (fun _ kr => P rule (kr.1.withExport name true, kr.2)) F) :
    Ends (do
      let (_, r) ← get
      match r.get intermediate with
      | .error fault => throw fault
      | .ok t =>
        let rule : OpaqueRule :=
          { typeName := name, intermediateName := t.name, needsCopy, headers }
        addRule rule
        modify fun (k, r) => (k.withExport name true, r)
        return rule) (k, r) P F := by
  refine ends_bind.2 ?_
  change Ends (match r.get intermediate with
    | .error fault => throw fault
    | .ok t => _) (k, r) _ _
  cases hget : r.get intermediate with
  | error fault => exact missing fault hget
  | ok t => exact ends_bind.2 ((ruled t hget).mono (fun _ _ h => h) fun _ _ h => h)

/-- An opaque type is declared in a typekit that is not complete. If no other type has the name, the
type is registered, and if the intermediate type is defined then, the rule is added and the type
exported. -/
theorem ends_declareOpaque_of (frozen : k.frozen = true → F (.frozenTypekit k.name) (k, r))
    (other : ∀ t, r.find? (Typename.normalize name) = some t → t.isOpaque = false →
      F (.notOpaque (Typename.normalize name)) (k, r))
    (missing : ∀ fault,
      (r.withOpaqueType (Typename.normalize name)).get intermediate = .error fault →
      F fault (k, r.withOpaqueType (Typename.normalize name)))
    (ruled : ∀ t, (r.withOpaqueType (Typename.normalize name)).get intermediate = .ok t →
      let rule : OpaqueRule :=
        { typeName := Typename.normalize name, intermediateName := t.name, needsCopy, headers }
      Ends (addRule rule) (k, r.withOpaqueType (Typename.normalize name))
        (fun _ kr => P rule (kr.1.withExport (Typename.normalize name) true, kr.2)) F) :
    Ends (declareOpaque name intermediate headers needsCopy) (k, r) P F := by
  refine ends_bind.2 (ends_get.2 ?_)
  have canonical := Typename.normalize_normalize name
  cases complete : k.frozen with
  | true =>
    dsimp only
    rw [checkMutable, if_pos complete]
    exact frozen complete
  | false =>
    dsimp only
    rw [checkMutable_of_open (r := r) complete]
    simp only
    cases found : r.find? (Typename.normalize name) with
    | some t =>
      rw [Registry.withOpaqueType_of_known (Option.isSome_of_mem found)] at missing ruled
      rw [Registry.get, canonical, found]
      simp only
      split
      · rename_i kind
        exact other t found (by simpa using kind)
      · exact ends_ruled missing ruled
    | none =>
      rw [Registry.get, canonical, found]
      simp only [EStateM.run, Registry.add_opaqueType found]
      exact ends_ruled missing ruled

end DeclareOpaque

/-- Opaque types are declared in a typekit that is not complete only. -/
theorem declareOpaque_frozen {k : Typekit} (frozen : k.frozen = true) (r : Registry)
    (name intermediate : String) (headers : List String) (needsCopy : Bool) :
    declareOpaque name intermediate headers needsCopy (k, r) =
      .error (.frozenTypekit k.name) (k, r) := by
  have ends : Ends (declareOpaque name intermediate headers needsCopy) (k, r) (fun _ _ => False)
      fun fault kr =>
      fault = .frozenTypekit k.name ∧ kr = (k, r) := by
    refine ends_bind.2 (ends_get.2 ?_)
    dsimp only
    rw [checkMutable, if_pos frozen]
    exact ⟨rfl, rfl⟩
  obtain ⟨_, _, refused, rfl, rfl⟩ := ends.exists_error
  exact refused

/-- The registration of an opaque type is an edit, or changes nothing. -/
theorem edits_withOpaqueType (k : Typekit) (r : Registry) (name : String) :
    Edits (k, r) (k, r.withOpaqueType name) := by
  cases found : r.find? name with
  | none => exact .single (.register rfl (Registry.types_withOpaqueType_of_new found))
  | some t =>
    rw [Registry.withOpaqueType_of_known (Option.isSome_of_mem found)]
    exact .refl

/-- An opaque type is declared in edits. -/
theorem covers_declareOpaque (name intermediate : String) (headers : List String)
    (needsCopy : Bool) :
    editing.Covers (declareOpaque name intermediate headers needsCopy) := by
  rintro ⟨k, r⟩ hk
  have isOpen : k.frozen = false := hk
  have registered := edits_withOpaqueType k r (Typename.normalize name)
  have canonical := Typename.normalize_normalize name
  refine ends_declareOpaque_of (fun _ => ⟨hk, .refl, rfl⟩) (fun _ _ _ => ⟨hk, .refl, rfl⟩) ?_ ?_
  · exact fun fault missing =>
      ⟨isOpen, registered, Registry.cycleFree_get _ intermediate fault missing⟩
  · intro t _ rule
    have named : Typename.normalize rule.typeName = rule.typeName := canonical
    have ruled := covers_addRule named (k, r.withOpaqueType (Typename.normalize name)) isOpen
    refine Ends.mono ruled ?_ fun fault kr ⟨hkr, edits, hf⟩ => ⟨hkr, registered.trans edits, hf⟩
    rintro _ ⟨k', r'⟩ ⟨hk', edits⟩
    have known := edits.kept.types.find? (Registry.find?_withOpaqueType r (Typename.normalize name))
    obtain ⟨hkr, exported⟩ := edited hk' (.exported true canonical known)
    exact ⟨hkr, (registered.trans edits).trans exported⟩

end Componentry.Typekit
