import Componentry.Proofs.MemberDeclarations

/-!
# Ports that trigger a component

The ports that a call names become triggers one after the other. The call stops at the first name
that is not that of an input port; which names these are does not change on the way.
-/

namespace Componentry

namespace Interface

/-- Whether an interface has an input port of a name. -/
def hasInput (i : Interface) (name : String) : Bool :=
  i.ports.any fun p => p.name == name && p.isInput

/-- The interface whose ports of given names are triggers. -/
def triggeredBy (names : List String) (i : Interface) : Interface :=
  { i with
    ports := i.ports.map fun p => if p.name ∈ names then { p with isTrigger := true } else p }

variable (i : Interface)

/-- Ports stay input ports when they become triggers. -/
@[simp] theorem hasInput_triggeredBy (names : List String) (name : String) :
    (i.triggeredBy names).hasInput name = i.hasInput name := by
  rw [hasInput, triggeredBy, List.any_map, hasInput]
  congr 1
  funext p
  by_cases named : p.name ∈ names <;> simp [named, Port.isInput]

/-- Ports that become triggers in two steps may become so at once. -/
theorem triggeredBy_triggeredBy (names names' : List String) :
    (i.triggeredBy names).triggeredBy names' = i.triggeredBy (names ++ names') := by
  simp only [triggeredBy, List.map_map, Interface.mk.injEq, true_and, and_true]
  refine List.map_congr_left fun p _ => ?_
  by_cases first : p.name ∈ names <;> by_cases last : p.name ∈ names' <;> simp [first, last]

/-- Nothing is changed if all ports of the names are triggers. -/
theorem triggeredBy_eq_self {names : List String} :
    i.triggeredBy names = i ↔ ∀ p ∈ i.ports, p.name ∈ names → p.isTrigger = true := by
  have same (p : Port) : (if p.name ∈ names then { p with isTrigger := true } else p) = p ↔
      (p.name ∈ names → p.isTrigger = true) := by
    by_cases named : p.name ∈ names
    · cases p
      simp [named, eq_comm]
    · simp [named]
  have ports : i.triggeredBy names = i ↔
      i.ports.map (fun p => if p.name ∈ names then { p with isTrigger := true } else p) =
        i.ports.map id := by
    rw [List.map_id]
    exact ⟨congrArg Interface.ports, fun h => by rw [triggeredBy, h]⟩
  rw [ports, List.map_inj_left]
  exact forall₂_congr fun p _ => same p

end Interface

namespace Components

/-- Components are the same if their items are. -/
theorem eq_of_items {cs ds : Components} (h : cs.items = ds.items) : cs = ds := by
  cases cs
  cases ds
  cases h
  rfl

/-- Two changes of a component are one. -/
theorem modify_modify (cs : Components) (c : ComponentId) {f g : Component → Component}
    (base : ∀ k, (f k).interface.superclass = k.interface.superclass) :
    (cs.modify c f).modify c g = cs.modify c (g ∘ f) := by
  have kept (k : Component) :
      { f k with interface := { (f k).interface with superclass := k.interface.superclass } } =
          f k := by
        rw [← base k]
  apply eq_of_items
  simp only [modify, List.modify_modify_eq]
  congr 1
  funext k
  simp only [Function.comp, kept]

/-- A change that leaves the component as it is. -/
theorem modify_eq_self {cs : Components} {c : ComponentId} {f : Component → Component}
    (same : f (cs.get c) = cs.get c) :
    cs.modify c f = cs := by
  apply eq_of_items
  apply List.ext_getElem?
  intro i
  rw [modify, List.getElem?_modify]
  cases found : cs.items[i]? with
  | none => rfl
  | some k =>
    by_cases here : c.index = i
    · have k_eq : cs.get c = k := by rw [get, here, found, Option.getD_some]
      rw [k_eq] at same
      simp [here, same]
    · simp [here]

end Components

namespace ComponentId

variable (c : ComponentId)

/-- The state in which ports of given names are triggers of a component. -/
def triggeredBy (names : List String) (s : Store) : Store :=
  c.changed (fun k => { k with interface := k.interface.triggeredBy names }) s

variable {c}

/-- Ports stay input ports in the state with triggers. -/
theorem hasInput_triggeredBy (names : List String) (s : Store) (name : String) :
    ((c.triggeredBy names s).interface c).hasInput name = (s.interface c).hasInput name :=
  Components.apply_modify (·.interface.hasInput name)
    (fun k => k.interface.hasInput_triggeredBy names name) s.components c c

/-- States with triggers in two steps have them at once. -/
theorem triggeredBy_triggeredBy (names names' : List String) (s : Store) :
    c.triggeredBy names' (c.triggeredBy names s) = c.triggeredBy (names ++ names') s := by
  have components := s.components.modify_modify c
    (f := fun k => { k with interface := k.interface.triggeredBy names })
    (g := fun k => { k with interface := k.interface.triggeredBy names' }) fun _ => rfl
  simp only [triggeredBy, changed, components, Function.comp_def, Interface.triggeredBy_triggeredBy]

/-- Ports that are triggers stay what they are. -/
theorem triggeredBy_eq_self {names : List String} {s : Store}
    (triggers : ∀ p ∈ (s.interface c).ports, p.name ∈ names → p.isTrigger = true) :
    c.triggeredBy names s = s := by
  have same := (s.interface c).triggeredBy_eq_self.2 triggers
  rw [triggeredBy, changed, Components.modify_eq_self]
  change { s.component c with interface := (s.interface c).triggeredBy names } = s.component c
  rw [same, Store.interface]

/-- A port that was no trigger becomes one. -/
theorem components_triggeredBy_ne {names : List String} {s : Store} {p : Port}
    (mem : p ∈ (s.interface c).ports) (named : p.name ∈ names) (idle : p.isTrigger = false) :
    (c.triggeredBy names s).components ≠ s.components := by
  intro same
  have made : c.index < s.components.items.length := by
    by_contra past
    rw [Store.interface, Store.component, Components.get,
      List.getElem?_eq_none (Nat.not_lt.1 past)] at mem
    cases mem
  have triggered : (c.triggeredBy names s).interface c = (s.interface c).triggeredBy names := by
    rw [Store.interface, Store.component, triggeredBy, changed, Components.get_modify,
      if_pos ⟨rfl, made⟩]
    rfl
  rw [Store.interface, Store.component, same] at triggered
  have trigger := (s.interface c).triggeredBy_eq_self.1 triggered.symm p mem named
  rw [idle] at trigger
  cases trigger

/-- A port becomes a trigger if it is an input port. -/
theorem ends_triggerBy (name : String) (s : Store) :
    Ends (c.triggerBy name) s
      (fun _ t => (s.interface c).hasInput name = true ∧ t = c.triggeredBy [name] s)
      fun _ t => (s.interface c).hasInput name = false ∧ t = s := by
  refine ends_bind.2
    (ends_get.2 (ends_ite.2 ⟨fun isInput => ⟨isInput, ?_⟩, fun other => ⟨?_, rfl⟩⟩))
  · simp only [triggeredBy, changed, Interface.triggeredBy, List.mem_singleton, beq_iff_eq]
  · exact Bool.not_eq_true _ ▸ other

/-- Ports become triggers one after the other, up to the first name that is not an input port. -/
theorem ends_triggers (names : List String) (s : Store) :
    Ends (names.forM c.triggerBy) s (fun _ _ => True)
      fun _ t => (∃ name ∈ names, (s.interface c).hasInput name = false) ∧
        t = c.triggeredBy (names.takeWhile (s.interface c).hasInput) s := by
  induction names generalizing s with
  | nil => exact trivial
  | cons name names ih =>
    refine ends_bind.2 ((ends_triggerBy name s).mono ?_ ?_)
    · rintro _ _ ⟨isInput, rfl⟩
      refine (ih _).mono (fun _ _ _ => trivial) ?_
      rintro _ _ ⟨⟨other, mem, missing⟩, rfl⟩
      have inputs : ((c.triggeredBy [name] s).interface c).hasInput = (s.interface c).hasInput :=
        funext (hasInput_triggeredBy [name] s)
      rw [inputs] at missing ⊢
      refine ⟨⟨other, List.mem_cons_of_mem _ mem, missing⟩, ?_⟩
      rw [triggeredBy_triggeredBy, List.takeWhile_cons_of_pos isInput, List.singleton_append]
    · rintro _ _ ⟨missing, rfl⟩
      refine ⟨⟨name, List.mem_cons_self, missing⟩, ?_⟩
      rw [List.takeWhile_cons_of_neg (by simp [missing]), triggeredBy_eq_self (by simp)]

/-- If not all names are those of input ports, the ports before the first other name have become
triggers. -/
theorem ends_portDriven_failed (names : List String) (s : Store) :
    Ends (c.portDriven names) s (fun _ _ => True) fun _ t =>
      (s.project (s.interface c).project).frozen = true ∧ t = s ∨
        (s.project (s.interface c).project).frozen = false ∧
          t = c.triggeredBy (names.takeWhile (s.interface c).hasInput) s := by
  refine ends_bind.2
    ((ProjectId.ends_checkMutable _).2 ⟨fun isOpen => ?_, fun frozen => .inl ⟨frozen, rfl⟩⟩)
  refine ends_bind.2 (ends_get.2 ?_)
  cases names with
  | nil =>
    refine (ends_triggers _ s).mono (fun _ _ _ => trivial) ?_
    rintro _ _ ⟨⟨name, mem, missing⟩, -⟩
    obtain ⟨p, input, rfl⟩ := List.mem_map.1 mem
    obtain ⟨mem, isInput⟩ := List.mem_filter.1 input
    have there : (s.interface c).hasInput p.name = true :=
      List.any_eq_true.2 ⟨p, mem, by simp [isInput]⟩
    rw [there] at missing
    cases missing
  | cons name names =>
    exact (ends_triggers (name :: names) s).mono (fun _ _ _ => trivial)
      fun _ _ h => .inr ⟨isOpen, h.2⟩

end ComponentId

end Componentry
