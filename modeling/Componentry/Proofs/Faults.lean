import Componentry.Scope.Loading
import Mathlib.Data.List.Forall2

/-!
# Faults of import cycles

Only an import that is asked for while it is under way fails as a cycle. The computations that
declarations are made of, none of which imports anything, never do.
-/

namespace Componentry

/-- Whether a fault is that of an import that is asked for while it is under way. -/
def Fault.isCycle : Fault → Bool
  | .importCycle _ => true
  | _ => false

/-- A fault that is an import cycle names the library that closed it. -/
theorem Fault.of_isCycle {fault : Fault} (h : fault.isCycle = true) :
    ∃ name, fault = .importCycle name := by
  unfold isCycle at h
  split at h
  · exact ⟨_, rfl⟩
  · cases h

/-- A computation that does not fail as a cycle of imports. -/
def CycleFree {α : Type} (x : Except Fault α) : Prop :=
  ∀ fault, x = .error fault → fault.isCycle = false

section Rules

variable {α β : Type}

/-- A value is no import cycle. -/
theorem cycleFree_ok (a : α) : CycleFree (.ok a) := by
  intro fault h
  cases h

/-- A fault of another kind is no import cycle. -/
theorem cycleFree_error {fault : Fault} (h : fault.isCycle = false) :
    CycleFree (.error fault : Except Fault α) := by
  intro fault' h'
  cases h'
  exact h

/-- One computation after another raises no import cycle if neither does. -/
theorem CycleFree.bind {x : Except Fault α} {f : α → Except Fault β} (hx : CycleFree x)
    (hf : ∀ a, CycleFree (f a)) : CycleFree (x >>= f) := by
  intro fault h
  cases hxe : x with
  | ok a => rw [hxe] at h; exact hf a fault h
  | error e => rw [hxe] at h; cases h; exact hx _ hxe

/-- Items are mapped without an import cycle if each of them is. -/
theorem cycleFree_mapM {f : α → Except Fault β} (hf : ∀ a, CycleFree (f a)) (as : List α) :
    CycleFree (as.mapM f) := by
  induction as with
  | nil => exact cycleFree_ok _
  | cons a as ih =>
    rw [List.mapM_cons]
    exact (hf a).bind fun b => ih.bind fun bs => cycleFree_ok _

/-- A computation in two steps gives a value if both do. -/
theorem of_bind_ok {x : Except Fault α} {f : α → Except Fault β} {b : β} (h : x >>= f = .ok b) :
    ∃ a, x = .ok a ∧ f a = .ok b := by
  cases hx : x with
  | ok a => exact ⟨a, rfl, by rw [hx] at h; exact h⟩
  | error fault => rw [hx] at h; cases h

/-- Two computations in a row fail as one of them does. -/
theorem of_bind_error {x : Except Fault α} {f : α → Except Fault β} {fault : Fault}
    (h : x >>= f = .error fault) :
    x = .error fault ∨ ∃ a, x = .ok a ∧ f a = .error fault := by
  cases hx : x with
  | ok a => exact .inr ⟨a, rfl, by rwa [hx] at h⟩
  | error fault' =>
    rw [hx] at h
    cases h
    exact .inl rfl

/-- What computations for the elements of a list give is what each of them gives. -/
theorem mapM_eq_ok_iff {f : α → Except Fault β} {as : List α} {bs : List β} :
    as.mapM f = .ok bs ↔ List.Forall₂ (fun a b => f a = .ok b) as bs := by
  induction as generalizing bs with
  | nil =>
    rw [List.forall₂_nil_left_iff]
    exact ⟨fun h => (Except.ok.inj h).symm, fun h => congrArg Except.ok h.symm⟩
  | cons a as ih =>
    rw [List.mapM_cons]
    constructor
    · intro h
      obtain ⟨b, hb, h⟩ := of_bind_ok h
      obtain ⟨rest, hrest, h⟩ := of_bind_ok h
      cases h
      exact .cons hb (ih.1 hrest)
    · rintro (_ | ⟨hb, hrest⟩)
      rw [hb, ih.2 hrest]
      rfl

/-- In lists whose elements are related one by one, each element has a related one. -/
theorem mem_of_forall₂ {R : α → β → Prop} {as : List α} {bs : List β} (h : List.Forall₂ R as bs) :
    (∀ a ∈ as, ∃ b ∈ bs, R a b) ∧ ∀ b ∈ bs, ∃ a ∈ as, R a b := by
  induction h with
  | nil => exact ⟨List.forall_mem_nil _, List.forall_mem_nil _⟩
  | @cons a b as bs related _ ih =>
    constructor
    · refine List.forall_mem_cons.2 ⟨⟨b, List.mem_cons_self, related⟩, fun a' ha' => ?_⟩
      obtain ⟨b', hb', related'⟩ := ih.1 a' ha'
      exact ⟨b', List.mem_cons_of_mem b hb', related'⟩
    · refine List.forall_mem_cons.2 ⟨⟨a, List.mem_cons_self, related⟩, fun b' hb' => ?_⟩
      obtain ⟨a', ha', related'⟩ := ih.2 b' hb'
      exact ⟨a', List.mem_cons_of_mem a ha', related'⟩

/-- What is related to each item of a list stands in the other list. -/
theorem exists_of_forall₂ {R : α → β → Prop} {as : List α} {bs : List β}
    (h : List.Forall₂ R as bs) :
    ∀ a ∈ as, ∃ b, R a b := by
  intro a mem
  obtain ⟨b, -, related⟩ := (mem_of_forall₂ h).1 a mem
  exact ⟨b, related⟩

/-- Mapping a list gives the values of its items, and of no others. -/
theorem mem_of_mapM_ok {f : α → Except Fault β} {as : List α} {bs : List β}
    (h : as.mapM f = .ok bs) :
    (∀ a ∈ as, ∃ b ∈ bs, f a = .ok b) ∧ ∀ b ∈ bs, ∃ a ∈ as, f a = .ok b :=
  mem_of_forall₂ (mapM_eq_ok_iff.1 h)

/-- Computations for the elements of a list give something if each of them does. -/
theorem exists_mapM_ok_iff {f : α → Except Fault β} {as : List α} :
    (∃ bs, as.mapM f = .ok bs) ↔ ∀ a ∈ as, ∃ b, f a = .ok b := by
  simp only [mapM_eq_ok_iff]
  constructor
  · rintro ⟨bs, each⟩
    exact exists_of_forall₂ each
  · intro each
    induction as with
    | nil => exact ⟨[], .nil⟩
    | cons a as ih =>
      obtain ⟨⟨b, made⟩, each⟩ := List.forall_mem_cons.1 each
      obtain ⟨bs, rest⟩ := ih each
      exact ⟨b :: bs, .cons made rest⟩

/-- A computation in two steps gives something if the first step does, and the second one whatever
the first one gives. -/
theorem exists_bind_ok_iff {x : Except Fault α} {f : α → Except Fault β} {p : Prop}
    (second : ∀ a, (∃ b, f a = .ok b) ↔ p) : (∃ b, x >>= f = .ok b) ↔ (∃ a, x = .ok a) ∧ p := by
  cases x with
  | ok a => exact (second a).trans (and_iff_right ⟨a, rfl⟩).symm
  | error fault =>
    constructor
    · rintro ⟨b, h⟩
      cases h
    · rintro ⟨⟨a, h⟩, -⟩
      cases h

/-- A computation followed by a pure function gives a value where it gives one by itself. -/
theorem exists_bind_pure_ok_iff {x : Except Fault α} {g : α → β} :
    (∃ b, (x >>= fun a => pure (g a)) = .ok b) ↔ ∃ a, x = .ok a :=
  (exists_bind_ok_iff fun _ => iff_of_true ⟨_, rfl⟩ trivial).trans (and_iff_left trivial)

/-- Computations for the elements of a list fail as one of them does. -/
theorem exists_of_mapM_error {f : α → Except Fault β} {as : List α} {fault : Fault}
    (h : as.mapM f = .error fault) :
    ∃ a ∈ as, f a = .error fault := by
  induction as with
  | nil => cases h
  | cons a as ih =>
    rw [List.mapM_cons] at h
    cases ha : f a with
    | error fault' =>
      rw [ha] at h
      cases h
      exact ⟨a, List.mem_cons_self, ha⟩
    | ok b =>
      cases has : as.mapM f with
      | error fault' =>
        rw [ha, has] at h
        cases h
        obtain ⟨a', ha', same⟩ := ih has
        exact ⟨a', List.mem_cons_of_mem a ha', same⟩
      | ok rest => rw [ha, has] at h; cases h

/-- Items are folded without an import cycle if each of them is. -/
theorem cycleFree_foldlM {f : β → α → Except Fault β} (hf : ∀ b a, CycleFree (f b a)) (as : List α)
    (b : β) :
    CycleFree (as.foldlM f b) := by
  induction as generalizing b with
  | nil => exact cycleFree_ok b
  | cons a as ih =>
    rw [List.foldlM_cons]
    exact (hf b a).bind fun c => ih c

end Rules

namespace Descriptor

open Xml (Element)

/-- The root of a descriptor is read without an import cycle. -/
theorem cycleFree_root (text : String) : CycleFree (root text) := by
  unfold root
  split
  · exact cycleFree_ok _
  · exact cycleFree_error rfl

/-- An attribute that is required is read without an import cycle. -/
theorem cycleFree_required (e : Element) (key : String) : CycleFree (required e key) := by
  unfold required
  split
  · exact cycleFree_ok _
  · exact cycleFree_error rfl

/-- An attribute that holds an integer is read without an import cycle. -/
theorem cycleFree_integer? (e : Element) (key : String) : CycleFree (integer? e key) := by
  unfold integer?
  split
  · exact cycleFree_ok _
  · split
    · exact cycleFree_ok _
    · exact cycleFree_error rfl

/-- The name of a type is read without an import cycle. -/
theorem cycleFree_typeName (e : Element) (key : String) : CycleFree (typeName e key) :=
  (cycleFree_required e key).bind fun _ => cycleFree_ok _

/-- A field is read without an import cycle. -/
theorem cycleFree_field (e : Element) : CycleFree (field e) :=
  (cycleFree_required e "name").bind fun _ =>
    (cycleFree_typeName e "type").bind fun _ => cycleFree_ok _

/-- The definition of a type is read without an import cycle. -/
theorem cycleFree_typeDef (e : Element) : CycleFree (typeDef e) := by
  unfold typeDef
  split
  · exact (cycleFree_typeName e _).bind fun _ =>
      (cycleFree_integer? e _).bind fun _ => cycleFree_ok _
  · exact (cycleFree_typeName e _).bind fun _ => cycleFree_ok _
  · exact (cycleFree_typeName e _).bind fun _ =>
      (cycleFree_mapM (fun v => cycleFree_required v _) _).bind fun _ => cycleFree_ok _
  · exact (cycleFree_typeName e _).bind fun _ =>
      (cycleFree_mapM cycleFree_field _).bind fun _ => cycleFree_ok _
  · exact (cycleFree_typeName e _).bind fun _ => (cycleFree_typeName e _).bind fun _ =>
      (cycleFree_integer? e _).bind fun _ => cycleFree_ok _
  · exact (cycleFree_typeName e _).bind fun _ =>
      (cycleFree_typeName e _).bind fun _ => cycleFree_ok _
  · exact (cycleFree_typeName e _).bind fun _ => cycleFree_ok _
  · exact cycleFree_error rfl

/-- The opaque rules of a descriptor are read without an import cycle. -/
theorem cycleFree_opaqueRules (text : String) : CycleFree (opaqueRules text) := by
  refine (cycleFree_root text).bind fun e => cycleFree_mapM (fun e => ?_) _
  unfold opaqueRule
  split
  · exact cycleFree_ok _
  · exact cycleFree_error rfl

end Descriptor

namespace Registry

/-- A type is looked up in a registry without an import cycle. -/
theorem cycleFree_get (r : Registry) (name : String) : CycleFree (r.get name) := by
  unfold get
  split
  · exact cycleFree_ok _
  · exact cycleFree_error rfl

/-- An entry is looked up in a registry without an import cycle. -/
theorem cycleFree_entry (r : Registry) (name : String) : CycleFree (r.entry name) := by
  unfold entry
  split
  · exact cycleFree_ok _
  · exact cycleFree_error rfl

/-- The types reached in a registry are gathered without an import cycle. -/
theorem cycleFree_reach (r : Registry) (reached : List TypeDef) (pending : List r.Entry) :
    CycleFree (r.reach reached pending) := by
  fun_induction reach r reached pending with
  | case1 reached => exact cycleFree_ok reached
  | case2 reached t ht rest hc ih => exact ih
  | case3 reached t ht rest hc _ next hn ih => exact ih
  | case4 reached t ht rest hc _ fault hn =>
    exact cycleFree_error (cycleFree_mapM r.cycleFree_entry _ fault hn)

/-- The closure of a type is gathered without an import cycle. -/
theorem cycleFree_closure (r : Registry) (name : String) : CycleFree (r.closure name) :=
  (r.cycleFree_entry name).bind fun _ => r.cycleFree_reach _ _

end Registry

/-- A typelist is read without an import cycle. -/
theorem Typelist.cycleFree_parse (text : String) : CycleFree (Typelist.parse text) := by
  refine cycleFree_foldlM (fun list line => ?_) _ _
  unfold Typelist.addLine
  simp only
  split
  · exact cycleFree_ok _
  · split
    · exact cycleFree_error rfl
    · exact cycleFree_ok _

/-- A typekit is made without an import cycle. -/
theorem Typekit.cycleFree_new (name : String) (registry : RegistryId)
    (exported interface : List String) (package : Option Package) :
    CycleFree (Typekit.new name registry exported interface package) := by
  unfold Typekit.new
  simp only
  split
  · exact cycleFree_ok _
  · exact cycleFree_error rfl

/-- Whether a project may be changed is checked without an import cycle. -/
theorem Project.cycleFree_checkMutable (p : Project) : CycleFree p.checkMutable := by
  unfold Project.checkMutable
  split
  · exact cycleFree_error rfl
  · exact cycleFree_ok _

/-- Whether a type may stand alone is checked without an import cycle. -/
theorem TypeDef.cycleFree_checkToplevel (t : TypeDef) : CycleFree t.checkToplevel := by
  unfold TypeDef.checkToplevel
  split
  · exact cycleFree_error rfl
  · split
    · exact cycleFree_error rfl
    · exact cycleFree_ok _

/-- The retention of a port is read without an import cycle. -/
theorem Retention.cycleFree_ofScalar (value : Scalar) : CycleFree (Retention.ofScalar value) := by
  unfold Retention.ofScalar
  split
  · split
    · exact cycleFree_ok _
    · exact cycleFree_error rfl
  · exact cycleFree_error rfl

/-- The name of a hook is read without an import cycle. -/
theorem Hook.cycleFree_ofName (name : String) : CycleFree (Hook.ofName name) := by
  unfold Hook.ofName
  split
  · exact cycleFree_ok _
  · exact cycleFree_error rfl

/-- Whether a name is unused in a lineage is checked without an import cycle. -/
theorem Lineage.cycleFree_checkUnused (l : Lineage) (id : ComponentId) (name : String) :
    CycleFree (l.checkUnused id name) := by
  unfold Lineage.checkUnused
  split
  · exact cycleFree_error rfl
  · exact cycleFree_ok _

/-- The rule of an opaque type is looked up without an import cycle. -/
theorem Store.cycleFree_opaqueRule (s : Store) (p : ProjectId) (type : TypeRef) :
    CycleFree (s.opaqueRule p type) := by
  unfold Store.opaqueRule
  split
  · exact cycleFree_ok _
  · exact cycleFree_error rfl

/-- What a description can be refused for is said of the description alone. -/
theorem Description.Project.cycleFree_parse (label text : String) :
    CycleFree (Description.Project.parse label text) := by
  unfold Description.Project.parse
  split
  · unfold Description.Project.ofValue
    split
    · split
      · exact cycleFree_ok _
      · exact cycleFree_error rfl
    · exact cycleFree_error rfl
  · exact cycleFree_error rfl
  · rename_i problem _
    cases problem <;> exact cycleFree_error rfl

end Componentry
