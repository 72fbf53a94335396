import Componentry.Proofs.FailedOpaques
import Componentry.Proofs.FrozenModels
import Componentry.Proofs.PortTriggers

/-!
# What failed declarations leave behind

A declaration checks all that it is given before it changes anything. So a call that fails leaves
what is declared as it was, but for types that came into registries while types were looked up.
Three calls do otherwise: when ports are made triggers one after the other, those before the first
name that is not an input port stay triggers; and an opaque type stays registered whose rule cannot
be added, also where it is declared for a pointer.
-/

namespace Componentry

open Declares

/-- Whether the same is declared in a later state as in an earlier one: the same components, and the
same in each project and in the typekit that it builds. Registries may have further types, all from
typekits that were loaded. -/
structure Store.SameDeclared (s t : Store) : Prop where
  components : t.components = s.components
  models : ∀ p, t.model p = s.model p
  kept : ∀ p, (s.registry (s.project p).registry).Extends (t.registry (t.project p).registry)
  types : ∀ p, ∀ d ∈ (t.registry (t.project p).registry).types,
    d ∈ (s.registry (s.project p).registry).types ∨ ∃ id, t.LoadedTypekit id ∧ d ∈ t.typesOf id

/-- Lookups of types declare nothing. -/
theorem Store.Looked.sameDeclared {s t : Store} (reached : s.Reachable) (h : s.Looked t) :
    s.SameDeclared t := by
  have typekit {p : ProjectId} {id : TypekitId} (own : (s.project p).typekit = some id) :
      t.typekit id = s.typekit id := by
    obtain ⟨more, longer⟩ := h.typekits
    rw [typekit, ← longer, List.getElem?_append_left (reached.typekits.builds p id own).made,
      typekit]
  refine ⟨h.steps.2, fun p => ?_, fun p => ?_, fun p d hd => h.types p d (h.registry_eq p ▸ hd)⟩
  · obtain ⟨components, own⟩ := h.projects p
    rw [model, model, components, own, Model.mk.injEq]
    refine ⟨List.map_congr_left fun c _ => ?_, Option.map_congr
      fun id own => congrArg (id, ·) (typekit own)⟩
    rw [component, h.steps.2, component]
  · rw [h.registry_eq]
    exact h.steps.1.evolves.grows.1 _

namespace Work

variable {α β : Type}

/-- Whether an operation leaves no more behind than lookups of types do when it fails. -/
def Atomic (x : Work α) : Prop :=
  ∀ s, looking.holds s → Ends x s (fun _ _ => True) fun _ t => s.Looked t

/-- A lookup leaves no more behind than lookups do. -/
theorem atomic_of_looking {x : Work α} (h : looking.Covers x) : Atomic x :=
  fun s hs => (h s hs).mono (fun _ _ _ => trivial) fun _ _ h => h.2.1

/-- Changes are made last, and do not fail. -/
theorem atomic_of_total {x : Work α} (h : ∀ s, ∃ a t, x s = .ok a t) : Atomic x := fun s _ => by
  obtain ⟨a, t, ok⟩ := h s
  exact ends_of_eq_ok ok trivial

/-- Checks and lookups come first. -/
theorem Atomic.after {x : Work α} {f : α → Work β} (hx : looking.Covers x)
    (hf : ∀ a, Atomic (f a)) :
    Atomic (x >>= f) := by
  intro s hs
  refine (hx s hs).ends_bind (fun _ _ _ looked _ => looked) fun a t ht looked => ?_
  exact (hf a t ht).mono (fun _ _ _ => trivial) fun _ _ h => looked.trans h

/-- A result may be put through a function. -/
theorem Atomic.map {x : Work α} (h : Atomic x) (f : α → β) : Atomic (f <$> x) :=
  fun s hs => ends_map.2 (h s hs)

/-- An operation of two cases is atomic if both are. -/
theorem Atomic.ite {c : Prop} [Decidable c] {x y : Work α} (hx : Atomic x) (hy : Atomic y) :
    Atomic (if c then x else y) :=
  fun s hs => ends_ite.2 ⟨fun _ => hx s hs, fun _ => hy s hs⟩

end Work

open Work

namespace ComponentId

variable (c : ComponentId)

/-- Whether a component may be changed is checked without a declaration. -/
theorem looking_checkMutable : looking.Covers c.checkMutable :=
  Effect.covers_get.bind fun _ => Effect.covers_get.bind fun _ => looking_looks.ofExcept _

/-- Whether a member can be declared is checked without a declaration. -/
theorem looking_checkDeclarable (name : String) : looking.Covers (c.checkDeclarable name) :=
  (c.looking_checkMutable).bind fun _ => Effect.covers_get.bind fun _ => looking_looks.ofExcept _

/-- The type of a member is looked up without a declaration. -/
theorem looking_findType (type : TypeRef) : looking.Covers (c.findType type) :=
  Effect.covers_get.bind fun _ => looking_looks.findType _ type

/-- The type of a member that may stand alone is looked up without a declaration. -/
theorem looking_toplevelType (type : TypeRef) : looking.Covers (c.toplevelType type) :=
  (c.looking_findType type).bind fun _ =>
    (looking_looks.ofExcept _).bind fun _ => Effect.covers_pure _

/-- A member is added when its name and its type have been checked. -/
theorem atomic_addPort (p : Port) : Atomic (c.addPort p) :=
  .after (c.looking_checkDeclarable p.name) fun _ => atomic_of_total fun _ => ⟨_, _, rfl⟩

/-- An operation that was made before is declared as a whole or not at all. -/
theorem atomic_addOperation (o : Operation) : Atomic (c.addOperation o) :=
  .after (c.looking_checkDeclarable o.name) fun _ => atomic_of_total fun _ => ⟨_, _, rfl⟩

/-- An input port is declared as a whole or not at all. -/
theorem atomic_declareInput (name : String) (type : TypeRef) (doc : Option String)
    (clearOnStart : Bool) :
    Atomic (c.declareInput name type doc clearOnStart) :=
  .after (c.looking_toplevelType type) fun _ => c.atomic_addPort _

/-- An output port is declared as a whole or not at all. -/
theorem atomic_declareOutput (name : String) (type : TypeRef) (doc : Option String)
    (keep : Scalar) :
    Atomic (c.declareOutput name type doc keep) :=
  .after (c.looking_toplevelType type) fun _ =>
    .after (looking_looks.ofExcept _) fun _ => c.atomic_addPort _

/-- A template for ports is declared as a whole or not at all. -/
theorem atomic_declareDynamic (direction : Direction) (name : String) (type : Option TypeRef)
    (doc : Option String) :
    Atomic (c.declareDynamic direction name type doc) := by
  refine .after (c.looking_checkDeclarable name) fun _ => ?_
  cases type with
  | none => exact atomic_of_total fun _ => ⟨_, _, rfl⟩
  | some type =>
    exact .after (c.looking_toplevelType type).map fun _ => atomic_of_total fun _ => ⟨_, _, rfl⟩

/-- A property or an attribute. -/
theorem atomic_declareProperty (name : String) (type : TypeRef) (default : Scalar)
    (doc : Option String) :
    Atomic (c.declareProperty name type default doc) :=
  .after (c.looking_checkDeclarable name) fun _ => .after (c.looking_toplevelType type) fun _ =>
    atomic_of_total fun _ => ⟨_, _, rfl⟩

/-- An attribute is declared as a whole or not at all. -/
theorem atomic_declareAttribute (name : String) (type : TypeRef) (default : Scalar)
    (doc : Option String) :
    Atomic (c.declareAttribute name type default doc) :=
  .after (c.looking_checkDeclarable name) fun _ => .after (c.looking_toplevelType type) fun _ =>
    atomic_of_total fun _ => ⟨_, _, rfl⟩

/-- A declaration that needs an open project only. -/
theorem atomic_open {α : Type} {x : Work α} (h : Atomic x) : Atomic (do
    c.checkMutable
    x) :=
  .after c.looking_checkMutable fun _ => h

/-- An extension is added as a whole or not at all. -/
theorem atomic_addExtension (extension : ComponentExtension) :
    Atomic (c.addExtension extension) := by
  refine c.atomic_open (.after Effect.covers_get fun s => ?_)
  exact .ite (atomic_of_looking (Effect.covers_throw_bind trivial _))
    (atomic_of_total fun _ => ⟨_, _, rfl⟩)

end ComponentId

namespace OperationRef

variable (r : OperationRef)

/-- The change of an operation that was declared does not fail. -/
theorem total_update (f : Operation → Operation) (s : Store) : ∃ a t, r.update f s = .ok a t := by
  cases r <;> exact ⟨_, _, rfl⟩

/-- The type that an operation names is looked up without a declaration. -/
theorem looking_resolveType (type : String) : looking.Covers (r.resolveType type) := by
  cases r with
  | owned c name => exact (c.looking_findType _).bind fun _ => Effect.covers_pure _
  | free index => exact Effect.covers_pure _

/-- An operation is changed when the type has been found. -/
theorem atomic_addArgument (name type : String) (doc : Option String) :
    Atomic (r.addArgument name type doc) :=
  .after (r.looking_resolveType type) fun _ => atomic_of_total (r.total_update _)

/-- The type that an operation returns is set as a whole or not at all. -/
theorem atomic_setReturn (type : Option String) : Atomic (r.setReturn type) := by
  cases type with
  | none => exact atomic_of_total (r.total_update _)
  | some type =>
    exact .after (r.looking_resolveType type).map fun _ => atomic_of_total (r.total_update _)

end OperationRef

/-- A component is declared in a project that has no other one of the name. -/
theorem ProjectId.atomic_declareComponent (p : ProjectId) (name : String) (superclass : Superclass)
    (doc : Option String) :
    Atomic (p.declareComponent name superclass doc) :=
  fun s _ => (p.ends_declareComponent name superclass doc s).mono (fun _ _ _ => trivial)
    fun _ _ same => same ▸ .refl s

/-- A component is looked up without a declaration. -/
theorem ProjectId.atomic_findComponent (p : ProjectId) (name : String) :
    Atomic (p.findComponent name) :=
  fun s _ => (p.ends_findComponent name s).mono (fun _ _ _ => trivial)
    fun _ _ same => same.1 ▸ .refl s

/-- Whether a failed declaration of an opaque type leaves something behind: the type, or the typekit
of the project. -/
def Store.LeavesOpaque (s : Store) (p : ProjectId) (name : String) (t : Store) : Prop :=
  s.TakesOpaques p ∧
    (p.index < s.projects.items.length ∧ (s.project p).typekit = none ∨
      (s.registry (s.project p).registry).find? (Typename.normalize name) = none) ∧
    t = p.withOpaqueType (Typename.normalize name) s

/-- An opaque type that was declared is found. A declaration that fails leaves the type behind, or
nothing. -/
theorem ProjectId.ends_declareOpaque_left {s : Store} (reached : s.Reachable) (p : ProjectId)
    (name intermediate : String) (headers : List String) (needsCopy : Bool) :
    Ends (p.declareOpaque name intermediate headers needsCopy) s
      (fun _ t => t.components = s.components ∧ ∃ d, (t.registryOf p).get name = .ok d)
      fun _ t => s.LeavesOpaque p name t ∨ (∀ u, ¬s.LeavesOpaque p name u) ∧ s.Looked t := by
  by_cases takes : s.TakesOpaques p
  · refine (p.ends_declareOpaque_open reached takes name intermediate headers needsCopy).mono ?_ ?_
    · rintro _ t ⟨components, projects, registries⟩
      exact ⟨components, get_of_declared reached takes.isMain projects registries⟩
    rintro _ _ rfl
    by_cases fresh : p.index < s.projects.items.length ∧ (s.project p).typekit = none ∨
        (s.registry (s.project p).registry).find? (Typename.normalize name) = none
    · exact .inl ⟨takes, fresh, rfl⟩
    · refine .inr ⟨fun u left => fresh left.2.1, ?_⟩
      obtain ⟨built, known⟩ := not_or.1 fresh
      have known := Option.isSome_iff_ne_none.2 known
      cases own : (s.project p).typekit with
      | some id =>
        rw [withOpaqueType_eq_self own known]
        exact .refl s
      | none =>
        exact looked_withOpaqueType_of_past reached takes (fun made => built ⟨made, own⟩) known
  · refine (ends_declareOpaque_refused reached takes name intermediate headers needsCopy).mono
      (fun _ _ => False.elim) ?_
    exact fun _ t looked => .inr ⟨fun u left => takes left.1, looked⟩

/-- The name of the type of smart pointers to a type of a name. -/
def Pointer.typeName (pointer : Pointer) (target : String) : String :=
  s!"{(ComponentId.pointerTemplate pointer).1}<{target}>"

/-- Whether the declaration of a pointer type leaves something behind when it fails: the type that
it points to was found, the pointer type was not, and its declaration as an opaque type leaves
something behind. -/
def Store.LeavesPointer (s : Store) (c : ComponentId) (pointer : Pointer) (type : TypeRef)
    (t : Store) : Prop :=
  ∃ target u missing v, c.findType type s = .ok target u ∧
    c.findType (.named (pointer.typeName target.name)) u = .error (.typeNotFound missing) v ∧
    v.LeavesOpaque (v.interface c).project (pointer.typeName target.name) t

/-- What a failed declaration of a pointer type leaves behind. -/
theorem ComponentId.ends_pointerType_failed {s : Store} (reached : s.Reachable) (c : ComponentId)
    (pointer : Pointer) (type : TypeRef) :
    Ends (c.pointerType pointer type) s (fun _ _ => True)
      fun _ t => s.LeavesPointer c pointer type t ∨ (∀ u, ¬s.LeavesPointer c pointer type u) ∧
      s.Looked t := by
  have looked := c.looking_findType type s reached.looking
  refine ends_bind.2 (ends_iff.2 ⟨fun target u found => ?_, fun fault t failed => ?_⟩)
  · obtain ⟨hu, looked⟩ := looked.of_ok found
    have reached := reached.looked hu looked
    have again := c.looking_findType (.named (pointer.typeName target.name)) u hu
    refine ends_tryCatch.2
      (ends_bind.2 (ends_iff.2 ⟨fun _ _ _ => trivial, fun fault v failed => ?_⟩))
    obtain ⟨hv, looked', -⟩ := again.of_error failed
    have looked := looked.trans looked'
    -- The target and the states of the lookups are those that were found.
    have same {t : Store} (left : s.LeavesPointer c pointer type t) :
        ∃ missing, fault = .typeNotFound missing ∧
        v.LeavesOpaque (v.interface c).project (pointer.typeName target.name) t := by
      obtain ⟨target', u', missing, v', found', failed', left⟩ := left
      obtain ⟨rfl, rfl⟩ := EStateM.Result.ok.inj (found.symm.trans found')
      obtain ⟨rfl, rfl⟩ := EStateM.Result.error.inj (failed.symm.trans failed')
      exact ⟨missing, rfl, left⟩
    split
    · rename_i missing
      refine ends_bind.2 (ends_get.2 (ends_bind.2 ?_))
      have declared := (v.interface c).project.ends_declareOpaque_left (reached.looked hv looked')
        (pointer.typeName target.name) target.name [(pointerTemplate pointer).2] false
      refine declared.mono ?_ ?_
      · rintro _ t ⟨components, d, get⟩
        have interface : t.interface c = v.interface c := by
          rw [Store.interface, Store.component, components, Store.interface, Store.component]
        refine ends_bind.2 (ends_bind.2 (ends_get.2 ?_))
        rw [interface]
        exact ends_of_eq_ok (ProjectId.findType_of_get get) trivial
      · rintro _ t (left | ⟨none, looked''⟩)
        · exact .inl ⟨target, u, missing, v, found, failed, left⟩
        · refine .inr ⟨fun t left => ?_, looked.trans looked''⟩
          obtain ⟨_, -, left⟩ := same left
          exact none t left
    · rename_i other
      refine .inr ⟨fun t left => ?_, looked⟩
      obtain ⟨missing, h, -⟩ := same left
      exact other missing h
  · refine .inr ⟨?_, (looked.of_error failed).2.1⟩
    rintro t ⟨target, u, _, _, found, -⟩
    rw [failed] at found
    cases found

/-- Whether more is declared in a later state: components have changed, a project builds a typekit,
or an opaque type is registered of which nothing was known. -/
def Store.Altered (s t : Store) : Prop :=
  t.components ≠ s.components ∨
    (∃ p, (s.project p).typekit = none ∧ (t.project p).typekit.isSome = true) ∨
    ∃ p name, (s.registry (s.project p).registry).find? name = none ∧
      (t.registry (s.project p).registry).find? name = some { name, kind := .opaqueType }

/-- A failed declaration of an opaque type that leaves something behind alters the model. -/
theorem Store.LeavesOpaque.altered {s t : Store} (reached : s.Reachable) {p : ProjectId}
    {name : String} (h : s.LeavesOpaque p name t) : s.Altered t := by
  obtain ⟨-, ⟨made, none⟩ | new, rfl⟩ := h
  · refine .inr (.inl ⟨p, none, ?_⟩)
    change ((p.withOwnTypekit s).projects.get p).typekit.isSome = true
    rw [ProjectId.withOwnTypekit, none, Projects.get_modify, if_pos ⟨rfl, made⟩]
    rfl
  · refine .inr (.inr ⟨p, _, new, ?_⟩)
    rw [ProjectId.registry_withOpaqueType reached, Registry.find?_withOpaqueType, new,
      Option.getD_none]

/-- What is more than after lookups is more than before them. -/
theorem Store.Looked.altered {s t u : Store} (h : s.Looked t) (altered : t.Altered u) :
    s.Altered u := by
  rcases altered with components | ⟨p, none, built⟩ | ⟨p, name, none, registered⟩
  · exact .inl (h.steps.2 ▸ components)
  · exact .inr (.inl ⟨p, (h.projects p).2 ▸ none, built⟩)
  · rw [h.registry_eq] at none registered
    refine .inr (.inr ⟨p, name, ?_, registered⟩)
    have grown := h.steps.1.evolves.grows.1 (s.project p).registry
    cases found : (s.registry (s.project p).registry).find? name with
    | none => rfl
    | some d =>
      rw [grown.find? found] at none
      cases none

namespace Declaration

/-- Whether a call declares something in a project: a component, a member or a part of one, code, or
an opaque type. -/
def declaresModel : Declaration → Bool
  | declareOpaque .. => true
  | d => !d.concernsTypes

/-- What a failed call leaves behind: ports that have become triggers, up to the first name that is
not that of an input port, or an opaque type. -/
def Leaves : Declaration → Store → Store → Prop
  | portDriven c names, s, t =>
    let inputs := names.takeWhile (s.interface c).hasInput
    (s.project (s.interface c).project).frozen = false ∧
      (∃ p ∈ (s.interface c).ports, p.name ∈ inputs ∧ p.isTrigger = false) ∧
      t = c.triggeredBy inputs s
  | declareOpaque p name _ _ _, s, t => s.LeavesOpaque p name t
  | pointerType c pointer type, s, t => s.LeavesPointer c pointer type t
  | _, _, _ => False

variable {d : Declaration} {s t : Store}

/-- A failed declaration that leaves something behind alters the model. -/
theorem Leaves.altered (reached : s.Reachable) (h : d.Leaves s t) : s.Altered t := by
  cases d with
  | portDriven c names =>
    obtain ⟨-, ⟨p, mem, named, idle⟩, rfl⟩ := h
    exact .inl (ComponentId.components_triggeredBy_ne mem named idle)
  | declareOpaque p name intermediate headers needsCopy =>
    exact Store.LeavesOpaque.altered reached h
  | pointerType c pointer type =>
    obtain ⟨target, u, missing, v, found, failed, left⟩ := h
    obtain ⟨hu, looked⟩ := (c.looking_findType type s reached.looking).of_ok found
    obtain ⟨hv, looked', -⟩ := (c.looking_findType _ u hu).of_error failed
    have looked := looked.trans looked'
    exact looked.altered (left.altered (reached.looked hv looked))
  | _ => exact h.elim

/-- A declaration that fails leaves nothing behind, but for what it is told to leave. -/
theorem ends_run_failed (reached : s.Reachable) (declares : d.declaresModel = true) :
    Ends d.run s (fun _ _ => True) fun _ t => d.Leaves s t ∨ (∀ u, ¬d.Leaves s u) ∧ s.Looked t := by
  have whole {α : Type} {x : Work α} (h : Atomic x) (none : ∀ u, ¬d.Leaves s u) :
      Ends x s (fun _ _ => True) fun _ t => d.Leaves s t ∨ (∀ u, ¬d.Leaves s u) ∧ s.Looked t :=
    (h s reached.looking).mono (fun _ _ _ => trivial) fun _ _ looked => .inr ⟨none, looked⟩
  have discarded {α : Type} {x : Work α} (h : Atomic x) (none : ∀ u, ¬d.Leaves s u) :
      Ends (discard x) s (fun _ _ => True) fun _ t =>
        d.Leaves s t ∨ (∀ u, ¬d.Leaves s u) ∧ s.Looked t :=
    whole (h.map _) none
  cases d with
  | portDriven c names =>
    refine (c.ends_portDriven_failed names s).mono (fun _ _ _ => trivial) ?_
    rintro _ _ (⟨frozen, rfl⟩ | ⟨isOpen, rfl⟩)
    · refine .inr ⟨fun u left => ?_, .refl _⟩
      rw [left.1] at frozen
      cases frozen
    · by_cases idle : ∃ p ∈ (s.interface c).ports,
          p.name ∈ names.takeWhile (s.interface c).hasInput ∧ p.isTrigger = false
      · exact .inl ⟨isOpen, idle, rfl⟩
      · refine .inr ⟨fun u left => idle left.2.1, ?_⟩
        rw [ComponentId.triggeredBy_eq_self]
        · exact .refl s
        · exact fun p mem named => by simpa using fun isIdle => idle ⟨p, mem, named, isIdle⟩
  | declareOpaque p name intermediate headers needsCopy =>
    exact ends_map.2 ((p.ends_declareOpaque_left reached _ _ _ _).mono (fun _ _ _ => trivial)
      fun _ _ h => h)
  | pointerType c pointer type => exact ends_map.2 (c.ends_pointerType_failed reached pointer type)
  | declareComponent p name superclass doc =>
    exact discarded (p.atomic_declareComponent name superclass doc) fun _ => id
  | findComponent p name => exact discarded (p.atomic_findComponent name) fun _ => id
  | declareInput c name type doc clearOnStart =>
    exact discarded (c.atomic_declareInput name type doc clearOnStart) fun _ => id
  | declareOutput c name type doc keep =>
    exact discarded (c.atomic_declareOutput name type doc keep) fun _ => id
  | declareDynamic c direction name type doc =>
    exact discarded (c.atomic_declareDynamic direction name type doc) fun _ => id
  | declareProperty c name type default doc =>
    exact discarded (c.atomic_declareProperty name type default doc) fun _ => id
  | declareAttribute c name type default doc =>
    exact discarded (c.atomic_declareAttribute name type default doc) fun _ => id
  | declareOperation c name doc methodName | declareHiddenOperation c name body doc methodName =>
    exact discarded (c.atomic_addOperation _) fun _ => id
  | fixInitialState c | needConfiguration c | addHeaderCode c snippet
  | addImplementationCode c snippet | addHandler c handler =>
    exact whole (c.atomic_open (atomic_of_total fun _ => ⟨_, _, rfl⟩)) fun _ => id
  | addHookCode c hook code =>
    refine whole (c.atomic_open (.after (looking_looks.ofExcept _) fun _ => ?_)) fun _ => id
    exact atomic_of_total fun _ => ⟨_, _, rfl⟩
  | addExtension c extension => exact whole (c.atomic_addExtension extension) fun _ => id
  | newOperation o => exact whole (atomic_of_total fun _ => ⟨_, _, rfl⟩) fun _ => id
  | addArgument r name type doc => exact whole (r.atomic_addArgument name type doc) fun _ => id
  | setReturn r type => exact whole (r.atomic_setReturn type) fun _ => id
  | runInCallerThread r | setHidden r hidden | setBody r body =>
    exact whole (atomic_of_total (r.total_update _)) fun _ => id
  | _ => cases declares

end Declaration

/-- A declaration that fails in a state that calls reach leaves something behind in three cases
only: when ports are made triggers, an opaque type is declared, or a pointer type. What it leaves
then is told, and it is more than was declared. In all other cases the same is declared as before
the call, but for types of typekits that were loaded. -/
theorem failedDeclaration_leaves (files : Files.Tree) (packageMaps : List PackageMap)
    (name : String) (baseDir : Files.Path) (packages : PackageMapId) (calls : List Call)
    (d : Declaration) (declares : d.declaresModel = true) (fault : Fault) (t : Store) :
    let s := Call.runAll calls (Store.withMain { files, packageMaps } name baseDir packages none)
    d.run s = .error fault t → d.Leaves s t ∧ s.Altered t ∨ (∀ u, ¬d.Leaves s u) ∧
      s.SameDeclared t := by
  intro s failed
  have reached : s.Reachable := .of_run files packageMaps name baseDir packages calls
  rcases (Declaration.ends_run_failed reached declares).of_error failed with left | ⟨none, looked⟩
  · exact .inl ⟨left, left.altered reached⟩
  · exact .inr ⟨none, looked.sameDeclared reached⟩

/-- A run that declares a component with an input port. -/
def inputDeclared : List Call :=
  [.declare (.declareComponent ⟨0⟩ "A" .framework none),
    .declare (.declareInput ⟨0⟩ "in" (.named "double") none true)]

/-- The second of two names is not that of a port; the port of the first name has become a
trigger. -/
theorem run_missingPort :
    ∃ t, (Declaration.portDriven ⟨0⟩ ["in", "missing"]).run
        (Call.runAll inputDeclared (Store.withMain {} "tasks" ⟨"/", []⟩ ⟨0⟩ none)) =
          .error (.noInputPort "tasks::A" "missing") t ∧
      (t.interface ⟨0⟩).ports.map (·.isTrigger) = [true] := by
  obtain ⟨_, t, failed, rfl, after⟩ : ∃ fault t, (Declaration.portDriven ⟨0⟩ ["in", "missing"]).run
      (Call.runAll inputDeclared (Store.withMain {} "tasks" ⟨"/", []⟩ ⟨0⟩ none)) = .error fault t ∧
        fault = .noInputPort "tasks::A" "missing" ∧
          (t.interface ⟨0⟩).ports.map (·.isTrigger) = [true] :=
    Ends.exists_error (by decide +kernel)
  exact ⟨t, failed, after⟩

/-- The port stays a trigger after the call has failed. -/
theorem failedDeclaration_missingPort :
    let s := Call.runAll inputDeclared (Store.withMain {} "tasks" ⟨"/", []⟩ ⟨0⟩ none)
    let d := Declaration.portDriven ⟨0⟩ ["in", "missing"]
    d.declaresModel = true ∧ (s.interface ⟨0⟩).ports.map (·.isTrigger) = [false] ∧
      ∃ t, d.run s = .error (.noInputPort "tasks::A" "missing") t ∧ d.Leaves s t ∧ s.Altered t ∧
        (t.interface ⟨0⟩).ports.map (·.isTrigger) = [true] := by
  have before : (((Call.runAll inputDeclared
      (Store.withMain {} "tasks" ⟨"/", []⟩ ⟨0⟩ none)).interface ⟨0⟩).ports.map
      (·.isTrigger)) = [false] := by decide +kernel
  obtain ⟨t, failed, after⟩ := run_missingPort
  have leaves := failedDeclaration_leaves {} [] "tasks" ⟨"/", []⟩ ⟨0⟩ inputDeclared
    (.portDriven ⟨0⟩ ["in", "missing"]) rfl (.noInputPort "tasks::A" "missing") t failed
  generalize Call.runAll inputDeclared (Store.withMain {} "tasks" ⟨"/", []⟩ ⟨0⟩ none) =
    s at before failed leaves ⊢
  refine ⟨rfl, before, t, failed, ?_⟩
  rcases leaves with left | ⟨-, same⟩
  · exact ⟨left.1, left.2, after⟩
  · rw [Store.interface, Store.component, same.components, ← Store.component, ← Store.interface,
      before] at after
    cases after

end Componentry
