import Componentry.Scope.Declarations
import Componentry.Proofs.TypeLookups

/-!
# Declaring components and members

Components and their members are declared by steps of declarations, each taken in a project whose
declarations have not ended, and under a name that is new there. Types are looked up between the
check of the name and the declaration; that leaves the components and the ends of declarations as
they are.
-/

namespace Componentry

open Declares

/-- A step that changes no project. -/
theorem Work.declaring_step {s t : Store} (hs : declaring.holds s) (h : Declared s t)
    (same : t.projects = s.projects) :
    declaring.holds t ∧ declaring.change s t := by
  have project (p : ProjectId) : t.project p = s.project p := by
    rw [Store.project, same, Store.project]
  refine ⟨⟨fun p name => ?_, fun p => ?_⟩, .single h⟩
  · rw [project]
    exact hs.1 p name
  · rw [project]
    exact hs.2 p

/-- A component after one of the components was changed. -/
theorem Components.get_modify (cs : Components) (id q : ComponentId) (f : Component → Component) :
    (cs.modify id f).get q =
      if q = id ∧ id.index < cs.items.length then
        { f (cs.get q) with
          interface :=
            { (f (cs.get q)).interface with superclass := (cs.get q).interface.superclass } }
      else cs.get q := by
  obtain ⟨i⟩ := id
  obtain ⟨j⟩ := q
  simp only [get, modify, List.getElem?_modify, ComponentId.mk.injEq]
  by_cases h : j = i
  · subst h
    by_cases hlt : j < cs.items.length
    · simp [hlt]
    · simp [hlt]
  · simp [h, Ne.symm h]

/-- A component after one more was declared. -/
theorem Components.get_push (cs : Components) (k : Component)
    (h : ∀ s, k.interface.superclass = some s → s.index < cs.items.length) (q : ComponentId) :
    (cs.push k h).get q = if q = cs.next then k else cs.get q := by
  rw [get, push, getD_append_singleton, get, next]
  cases q
  simp only [ComponentId.mk.injEq]

/-- What a change of a component leaves as it is, is left as it is in every component. -/
theorem Components.apply_modify {β : Type} (g : Component → β) {f : Component → Component}
    (hf : ∀ k, g
      { f k with interface := { (f k).interface with superclass := k.interface.superclass } } = g k)
    (cs : Components) (id q : ComponentId) : g ((cs.modify id f).get q) = g (cs.get q) := by
  rw [get_modify]
  split
  · exact hf _
  · rfl

namespace ProjectId

/-- A component is looked up without a change of the state. -/
theorem ends_findComponent (p : ProjectId) (name : String) (s : Store) :
    Ends (p.findComponent name) s (fun _ t => t = s) fun fault t =>
      t = s ∧ fault.isCycle = false := by
  refine ends_bind.2 ?_
  simp only [ends_get]
  split
  · exact rfl
  · exact ⟨rfl, rfl⟩

/-- A component is added to an open project under a name that is new there. -/
private theorem declaring_addComponent {p : ProjectId} {s : Store} (hs : declaring.holds s)
    (isOpen : (s.project p).frozen = false) {name : String}
    (unused : ∀ c ∈ (s.project p).components, (s.interface c).name ≠ name)
    (base : Option ComponentId) (doc : Option String) :
    declaring.From s (p.addComponent
      { name, project := p, superclass := base, isExternal := (s.project p).isImported, doc }) := by
  refine ends_bind.2 ?_
  simp only [ends_get]
  split
  · rename_i known
    have added : Declared s _ := .addComponent p name base doc isOpen unused known
    have slots := Projects.apply_modify (·.typekitSlots)
      (f := fun q => { q with components := q.components ++ [s.components.next] })
      (fun _ => by rfl) s.projects p
    have own := Projects.apply_modify (·.ownTypekitSlot)
      (f := fun q => { q with components := q.components ++ [s.components.next] })
      (fun _ => by rfl) s.projects p
    refine ⟨⟨fun q name' => ?_, fun q => ?_⟩, .single added⟩
    · change Project.slotOf ((s.projects.modify p _).get q).typekitSlots name' ≠ .resolving
      rw [slots q]
      exact hs.1 q name'
    · change ((s.projects.modify p _).get q).ownTypekitSlot ≠ .resolving
      rw [own q]
      exact hs.2 q
  · exact ⟨hs, declaring.refl s, rfl⟩

/-- A component is declared under a name that no other component of the project has. -/
theorem declaring_declareComponent (p : ProjectId) (name : String) (superclass : Superclass)
    (doc : Option String) :
    declaring.Covers (p.declareComponent name superclass doc) := by
  intro s hs
  refine ends_bind.2
    (p.ends_checkMutable.2 ⟨fun isOpen => ?_, fun _ => ⟨hs, declaring.refl s, rfl⟩⟩)
  refine ends_bind.2 (ends_ite.2 ⟨fun _ => ⟨hs, declaring.refl s, rfl⟩, fun taken => ?_⟩)
  have unused :
      ∀ c ∈ (s.project p).components, (s.interface c).name ≠ (s.project p).qualify name := by
    simpa using taken
  cases superclass with
  | framework => exact declaring_addComponent hs isOpen unused none doc
  | given base => exact declaring_addComponent hs isOpen unused (some base) doc
  | named base =>
    refine ends_bind.2 (ends_map.2 ((ends_findComponent p base s).mono ?_ ?_))
    · rintro c t rfl
      exact declaring_addComponent hs isOpen unused (some c) doc
    · rintro fault t ⟨rfl, hf⟩
      exact ⟨hs, declaring.refl _, hf⟩

/-- The state in which a project has one more component. -/
def withComponent (p : ProjectId) (k : Component) (s : Store)
    (h : ∀ b, k.interface.superclass = some b → b.index < s.components.items.length) : Store :=
  { s with
    components := s.components.push k h
    projects := s.projects.modify p fun q =>
      { q with components := q.components ++ [s.components.next] } }

/-- The component that the superclass of a declaration stands for, as it is found from the
project. -/
def Superclass.Gives (p : ProjectId) (s : Store) : Superclass → Option ComponentId → Prop
  | framework, base => base = none
  | given c, base => base = some c
  | named name, base => ∃ c, base = some c ∧ p.findComponent name s = .ok c s

/-- A component is the newest one, with what was declared of it, or else nothing is declared. -/
theorem ends_declareComponent_made (p : ProjectId) (name : String) (superclass : Superclass)
    (doc : Option String) (s : Store) :
    Ends (p.declareComponent name superclass doc) s
      (fun c t => c = s.components.next ∧ ∃ base known, superclass.Gives p s base ∧
        t = p.withComponent { interface :=
            { name := (s.project p).qualify name, project := p, superclass := base
              isExternal := (s.project p).isImported, doc } } s known)
      fun _ t => t = s := by
  have added (base : Option ComponentId) (gives : superclass.Gives p s base) : Ends (p.addComponent
      { name := (s.project p).qualify name, project := p, superclass := base,
        isExternal := (s.project p).isImported, doc })
      s (fun c t => c = s.components.next ∧ ∃ base known, superclass.Gives p s base ∧
        t = p.withComponent { interface :=
            { name := (s.project p).qualify name, project := p, superclass := base
              isExternal := (s.project p).isImported, doc } } s known)
      fun _ t => t = s := by
    refine ends_bind.2 ?_
    simp only [ends_get]
    split
    · rename_i known
      exact ⟨rfl, base, known, gives, rfl⟩
    · exact rfl
  refine ends_bind.2 (p.ends_checkMutable.2 ⟨fun _ => ?_, fun _ => rfl⟩)
  refine ends_bind.2 (ends_ite.2 ⟨fun _ => rfl, fun _ => ?_⟩)
  cases superclass with
  | framework => exact added none rfl
  | given base => exact added (some base) rfl
  | named base =>
    cases found : p.findComponent base s with
    | ok c t =>
      obtain rfl : t = s := (ends_findComponent p base s).of_ok found
      exact ends_bind.2 (ends_map.2 (ends_of_eq_ok found (added (some c) ⟨c, rfl, found⟩)))
    | error fault t =>
      obtain ⟨rfl, -⟩ : t = s ∧ _ := (ends_findComponent p base s).of_error found
      exact ends_bind.2 (ends_map.2 (ends_iff.2 (by simp [found])))

/-- A component comes without members. -/
theorem ends_declareComponent (p : ProjectId) (name : String) (superclass : Superclass)
    (doc : Option String) (s : Store) :
    Ends (p.declareComponent name superclass doc) s
      (fun c t => c = s.components.next ∧
        ∃ k h, k.interface.project = p ∧ k.interface.members = [] ∧ t = p.withComponent k s h)
      fun _ t => t = s := by
  refine (p.ends_declareComponent_made name superclass doc s).mono ?_ fun _ _ same => same
  rintro c t ⟨newest, base, known, -, made⟩
  exact ⟨newest, _, known, rfl, rfl, made⟩

end ProjectId

namespace ComponentId

/-- Declarations may be made in a component whose project is not frozen. -/
theorem ends_checkMutable (c : ComponentId) (s : Store) :
    Ends c.checkMutable s (fun _ t => t = s ∧ (s.project (s.interface c).project).frozen = false)
      fun fault t => t = s ∧ fault.isCycle = false :=
  (ProjectId.ends_checkMutable _).2 ⟨fun isOpen => ⟨rfl, isOpen⟩, fun _ => ⟨rfl, rfl⟩⟩

/-- The type of a member is found by declarations of types. -/
theorem typing_findType (c : ComponentId) (type : TypeRef) : typing.Covers (c.findType type) :=
  Effect.covers_get.bind fun _ => ProjectId.typing_findType _ type

/-- The type of a member that may stand alone is found by declarations of types. -/
theorem typing_toplevelType (c : ComponentId) (type : TypeRef) :
    typing.Covers (c.toplevelType type) := by
  refine (typing_findType c type).bind fun t => ?_
  refine (Work.typing_of_offline (Work.offline_ofExcept (TypeDef.cycleFree_checkToplevel t))).bind
    fun _ => ?_
  exact Effect.covers_pure _

/-- Whether a member of a name can be declared in a state. -/
def Declarable (c : ComponentId) (name : String) (s : Store) : Prop :=
  (s.project (s.interface c).project).frozen = false ∧ s.lineage.checkUnused c name = .ok ()

/-- The check before a declaration changes nothing, and passes where the member can be declared. -/
theorem ends_checkDeclarable (c : ComponentId) (name : String) (s : Store) :
    Ends (c.checkDeclarable name) s (fun _ t => t = s ∧ c.Declarable name s)
      fun fault t => t = s ∧ fault.isCycle = false := by
  refine ends_bind.2 ((ends_checkMutable c s).mono ?_ fun fault t h => h)
  rintro - t ⟨rfl, isOpen⟩
  refine Work.ends_ofExcept.2 ⟨fun _ unused => ⟨rfl, isOpen, unused⟩, fun fault h => ⟨rfl, ?_⟩⟩
  exact Lineage.cycleFree_checkUnused _ c name fault h

/-- A member that can be declared can also be declared after types were looked up. -/
theorem Declarable.mono {c : ComponentId} {name : String} {s t : Store} (h : c.Declarable name s)
    (hst : DeclaresTypes s t) : c.Declarable name t := by
  obtain ⟨isOpen, unused⟩ := h
  have frozen := congrArg Project.frozen (hst.1.frame.outline (s.interface c).project)
  refine ⟨?_, ?_⟩
  · rw [Store.interface, Store.component, hst.2]
    exact frozen.trans isOpen
  · rw [Store.lineage, hst.2]
    exact unused

/-- A member is declared. -/
theorem declaring_addMember {c : ComponentId} {m : Member} {s : Store} (hs : declaring.holds s)
    (h : c.Declarable m.name s) {f : Interface → Interface} (hf : ∀ i, f i = i.withMember m) :
    declaring.From s (Work.modifyInterface c f) := by
  have hf : f = fun i => i.withMember m := funext hf
  subst hf
  exact Work.declaring_step hs (.addMember c m h.1 h.2) rfl

/-- A member is declared after its name was checked and its type was looked up. -/
private theorem declaring_checked {α β : Type} {c : ComponentId} {name : String} {lookup : Work β}
    (hlookup : typing.Covers lookup) {m : β → Member} (hname : ∀ b, (m b).name = name)
    {f : β → Interface → Interface} (hf : ∀ b i, f b i = i.withMember (m b)) (result : β → α) :
    declaring.Covers (do
      c.checkDeclarable name
      let b ← lookup
      Work.modifyInterface c (f b)
      return result b) := by
  intro s hs
  refine ends_bind.2 ((ends_checkDeclarable c name s).mono ?_ ?_)
  · rintro - t ⟨rfl, declarable⟩
    refine ends_bind.2 ((hlookup t hs).mono ?_ ?_)
    · rintro b u ⟨hu, htu⟩
      have declarable' : c.Declarable (m b).name u := by
        rw [hname]
        exact declarable.mono htu
      have declared := declaring_addMember hu declarable' (hf b)
      exact (declared.bind fun _ v hv _ => Effect.covers_pure (result b) v hv).after htu.1
    · exact fun fault u ⟨hu, htu, hf⟩ => ⟨hu, htu.1, hf⟩
  · rintro fault t ⟨rfl, hf⟩
    exact ⟨hs, declaring.refl _, hf⟩

/-- A member is declared after its name was checked. -/
private theorem declaring_atOnce {α : Type} {c : ComponentId} {m : Member}
    {f : Interface → Interface} (hf : ∀ i, f i = i.withMember m) (result : α) :
    declaring.Covers (do
      c.checkDeclarable m.name
      Work.modifyInterface c f
      return result) := by
  have declared :=
    declaring_checked (c := c) (Effect.covers_pure ()) (m := fun _ => m) (fun _ => rfl)
    (fun _ => hf) fun _ => result
  simpa only [pure_bind] using declared

/-- A port that is not made while the component runs. -/
theorem declaring_addPort (c : ComponentId) {p : Port} (static : p.isDynamic = false) :
    declaring.Covers (c.addPort p) :=
  declaring_atOnce (m := .port p) (fun i => by simp [Interface.withMember, static]) p

/-- An input port is declared. -/
theorem declaring_declareInput (c : ComponentId) (name : String) (type : TypeRef)
    (doc : Option String) (clearOnStart : Bool) :
    declaring.Covers (c.declareInput name type doc clearOnStart) :=
  (Work.declaring_of_typing (typing_toplevelType c type)).bind fun _ => declaring_addPort c rfl

/-- An output port is declared. -/
theorem declaring_declareOutput (c : ComponentId) (name : String) (type : TypeRef)
    (doc : Option String) (keep : Scalar) :
    declaring.Covers (c.declareOutput name type doc keep) := by
  refine (Work.declaring_of_typing (typing_toplevelType c type)).bind fun _ => ?_
  refine Effect.Covers.bind ?_ fun _ => declaring_addPort c rfl
  exact Work.declaring_of_typing
    (Work.typing_of_offline (Work.offline_ofExcept (Retention.cycleFree_ofScalar keep)))

/-- A template for ports is declared, whether it has a type or not. -/
theorem declaring_declareDynamic (c : ComponentId) (direction : Direction) (name : String)
    (type : Option TypeRef) (doc : Option String) :
    declaring.Covers (c.declareDynamic direction name type doc) := by
  cases type with
  | none =>
    exact declaring_atOnce
      (m := .port { name, doc, direction, typeName := none, isDynamic := true }) (fun _ => rfl) _
  | some type =>
    exact declaring_checked (Effect.Covers.map (typing_toplevelType c type))
      (m := fun typeName => .port { name, doc, direction, typeName, isDynamic := true })
      (fun _ => rfl) (fun _ _ => rfl) _

/-- A property is declared. -/
theorem declaring_declareProperty (c : ComponentId) (name : String) (type : TypeRef)
    (default : Scalar) (doc : Option String) :
    declaring.Covers (c.declareProperty name type default doc) :=
  declaring_checked (typing_toplevelType c type)
    (m := fun typeName => .property { name, doc, typeName, default })
    (fun _ => rfl) (fun _ _ => rfl) _

/-- An attribute is declared. -/
theorem declaring_declareAttribute (c : ComponentId) (name : String) (type : TypeRef)
    (default : Scalar) (doc : Option String) :
    declaring.Covers (c.declareAttribute name type default doc) :=
  declaring_checked (typing_toplevelType c type)
    (m := fun typeName => .attribute { name, doc, typeName, default })
    (fun _ => rfl) (fun _ _ => rfl) _

/-- An operation that was made before is declared. -/
theorem declaring_addOperation (c : ComponentId) (o : Operation) :
    declaring.Covers (c.addOperation o) :=
  declaring_atOnce (m := .operation o) (fun _ => rfl) (OperationRef.owned c o.name)

/-- An operation is declared. -/
theorem declaring_declareOperation (c : ComponentId) (name : String)
    (doc methodName : Option String) :
    declaring.Covers (c.declareOperation name doc methodName) :=
  declaring_addOperation c _

/-- An operation that users do not see is declared. -/
theorem declaring_declareHiddenOperation (c : ComponentId) (name : String)
    (body doc methodName : Option String) :
    declaring.Covers (c.declareHiddenOperation name body doc methodName) :=
  declaring_addOperation c _

/-- A declaration that needs an open project only. -/
private theorem declaring_open {α : Type} {c : ComponentId} {x : Work α}
    (hx : ∀ s, declaring.holds s → (s.project (s.interface c).project).frozen = false →
        declaring.From s x) :
    declaring.Covers (do
      c.checkMutable
      x) := by
  intro s hs
  refine ends_bind.2 ((ends_checkMutable c s).mono ?_ ?_)
  · rintro - t ⟨rfl, isOpen⟩
    exact hx t hs isOpen
  · rintro fault t ⟨rfl, hf⟩
    exact ⟨hs, declaring.refl _, hf⟩

/-- The initial state is fixed while the project is open. -/
theorem declaring_fixInitialState (c : ComponentId) : declaring.Covers c.fixInitialState :=
  declaring_open fun _ hs isOpen => Work.declaring_step hs (.fixInitialState c isOpen) rfl

/-- The need of a configuration is declared while the project is open. -/
theorem declaring_needConfiguration (c : ComponentId) : declaring.Covers c.needConfiguration :=
  declaring_open fun _ hs isOpen => Work.declaring_step hs (.needConfiguration c isOpen) rfl

/-- Code is added to a component of an open project. -/
private theorem declaring_modifyCode {c : ComponentId} {s : Store} (hs : declaring.holds s)
    (isOpen : (s.project (s.interface c).project).frozen = false) (f : AddedCode → AddedCode) :
    declaring.From s (Work.modifyCode c f) :=
  Work.declaring_step hs (.addCode c f isOpen) rfl

/-- Code for the header is added while the project is open. -/
theorem declaring_addHeaderCode (c : ComponentId) (snippet : Snippet) :
    declaring.Covers (c.addHeaderCode snippet) :=
  declaring_open fun _ hs isOpen => declaring_modifyCode hs isOpen _

/-- Code for the implementation is added while the project is open. -/
theorem declaring_addImplementationCode (c : ComponentId) (snippet : Snippet) :
    declaring.Covers (c.addImplementationCode snippet) :=
  declaring_open fun _ hs isOpen => declaring_modifyCode hs isOpen _

/-- A handler is added while the project is open. -/
theorem declaring_addHandler (c : ComponentId) (handler : Handler) :
    declaring.Covers (c.addHandler handler) :=
  declaring_open fun _ hs isOpen => declaring_modifyCode hs isOpen _

/-- Code for a hook is added while the project is open. -/
theorem declaring_addHookCode (c : ComponentId) (hook : String) (code : Code) :
    declaring.Covers (c.addHookCode hook code) := by
  refine declaring_open fun s hs isOpen =>
    ends_bind.2 (Work.ends_ofExcept.2 ⟨fun hook _ => ?_, fun fault h => ?_⟩)
  · exact declaring_modifyCode hs isOpen _
  · exact ⟨hs, declaring.refl s, Hook.cycleFree_ofName hook fault h⟩

/-- An extension is added while the project is open. -/
theorem declaring_addExtension (c : ComponentId) (extension : ComponentExtension) :
    declaring.Covers (c.addExtension extension) := by
  refine declaring_open fun s hs isOpen => ends_bind.2 (ends_ite.2 ⟨fun _ => ?_, fun _ => ?_⟩)
  · exact ⟨hs, declaring.refl s, rfl⟩
  · exact declaring_modifyCode hs isOpen _

/-- Ports of a component become triggers while its project stays open. -/
private def triggering (c : ComponentId) : Effect Fault Store where
  holds s := declaring.holds s ∧ (s.project (s.interface c).project).frozen = false
  change := Declares
  fault fault := fault.isCycle = false
  refl := declaring.refl
  trans := declaring.trans

/-- One port becomes a trigger, found by its name. -/
private theorem triggering_triggerBy (c : ComponentId) (name : String) :
    (triggering c).Covers (c.triggerBy name) := by
  rintro s ⟨hs, isOpen⟩
  refine ends_bind.2
    (ends_ite.2 ⟨fun isInput => ?_, fun _ => ⟨⟨hs, isOpen⟩, declaring.refl s, rfl⟩⟩)
  have isInput : ∃ p ∈ (s.interface c).ports, p.name = name ∧ p.isInput = true := by
    simpa using isInput
  have triggered : Declared s _ := .trigger c name isOpen isInput
  obtain ⟨ht, change⟩ := Work.declaring_step hs triggered rfl
  refine ⟨⟨ht, ?_⟩, change⟩
  change (s.project ((s.components.modify c _).get c).interface.project).frozen = false
  rw [Components.apply_modify (·.interface.project) fun _ => by rfl]
  exact isOpen

/-- All ports of a list become triggers, up to the first that is not found. -/
theorem declaring_portDriven (c : ComponentId) (names : List String) :
    declaring.Covers (c.portDriven names) := by
  refine declaring_open fun s hs isOpen => ends_bind.2 ?_
  refine (Effect.covers_forM (fun name _ => triggering_triggerBy c name) s ⟨hs, isOpen⟩).mono ?_ ?_
  · exact fun _ t ⟨ht, hst⟩ => ⟨ht.1, hst⟩
  · exact fun fault t ⟨ht, hst, hf⟩ => ⟨ht.1, hst, hf⟩

/-- A pointer type is declared as an opaque type if it is not defined. -/
theorem typing_pointerType (c : ComponentId) (pointer : Pointer) (type : TypeRef) :
    typing.Covers (c.pointerType pointer type) := by
  refine (typing_findType c type).bind fun target => ?_
  refine Effect.Covers.tryCatch ((typing_findType c _).bind fun _ => Effect.covers_pure _)
    fun fault hf => ?_
  split
  · refine Effect.covers_get.bind fun s =>
      (ProjectId.typing_declareOpaque _ _ _ _ _).bind fun _ => ?_
    exact (typing_findType c _).bind fun _ => Effect.covers_pure _
  · exact Effect.covers_throw hf

end ComponentId

namespace OperationRef

/-- An operation that belongs to no component is made. -/
theorem declaring_newFree (o : Operation) : declaring.Covers (newFree o) :=
  fun _ hs => Work.declaring_step hs (.newOperation o) rfl

/-- The operation that is referred to is changed. -/
theorem declaring_update (r : OperationRef) {f : Operation → Operation}
    (kept : ∀ o, (f o).outline = o.outline) :
    declaring.Covers (r.update f) := by
  intro s hs
  cases r with
  | owned c name => exact Work.declaring_step hs (.changeOperation c name f kept) rfl
  | free index => exact Work.declaring_step hs (.changeFreeOperation index f) rfl

/-- The type that an operation names is found by declarations of types. -/
theorem typing_resolveType (r : OperationRef) (type : String) :
    typing.Covers (r.resolveType type) := by
  cases r with
  | owned c name => exact (c.typing_findType _).bind fun _ => Effect.covers_pure _
  | free index => exact Effect.covers_pure type

/-- An argument is added to an operation. -/
theorem declaring_addArgument (r : OperationRef) (name type : String) (doc : Option String) :
    declaring.Covers (r.addArgument name type doc) :=
  (Work.declaring_of_typing (r.typing_resolveType type)).bind fun _ =>
    r.declaring_update fun _ => rfl

/-- The type that an operation returns is set. -/
theorem declaring_setReturn (r : OperationRef) (type : Option String) :
    declaring.Covers (r.setReturn type) := by
  cases type with
  | none => exact r.declaring_update fun _ => rfl
  | some type =>
    exact (Work.declaring_of_typing (r.typing_resolveType type)).map.bind fun _ =>
      r.declaring_update fun _ => rfl

end OperationRef

end Componentry
