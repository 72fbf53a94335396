import Componentry.Proofs.ComponentLoads

/-!
# What calls leave of components

A declaration in a component leaves all other components as they are, and a load changes only
components that it declares itself. In a component of a frozen project nothing is declared: types
may be looked up first, but the declaration is refused before the component is changed. What is left
are the calls that change an operation through its handle, which no project is asked for.
-/

namespace Componentry

open Declares

/-- Whether components of a kind are as they were, and none was taken away. -/
def Components.Retains (old : ComponentId → Prop) (cs ds : Components) : Prop :=
  cs.items.length ≤ ds.items.length ∧ ∀ d, old d → ds.get d = cs.get d

section Retains

variable {old : ComponentId → Prop} {cs ds : Components}

/-- Old components are retained when a new one is changed. -/
theorem Components.Retains.modify (h : cs.Retains old ds) {c : ComponentId} (new : ¬old c)
    (f : Component → Component) :
    cs.Retains old (ds.modify c f) := by
  refine ⟨?_, fun d hd => ?_⟩
  · rw [Components.modify, List.length_modify]
    exact h.1
  · rw [get_modify, if_neg]
    · exact h.2 d hd
    · rintro ⟨rfl, -⟩
      exact new hd

/-- Old components are retained when one more is declared. -/
theorem Components.Retains.push (h : cs.Retains old ds)
    (made : ∀ d, old d → d.index < cs.items.length) (k : Component)
    (known : ∀ s, k.interface.superclass = some s → s.index < ds.items.length) :
    cs.Retains old (ds.push k known) := by
  refine ⟨?_, fun d hd => ?_⟩
  · rw [Components.push, List.length_append]
    exact Nat.le_trans h.1 (Nat.le_add_right _ _)
  · have older := Nat.lt_of_lt_of_le (made d hd) h.1
    rw [get_push, if_neg]
    · exact h.2 d hd
    · rintro rfl
      exact absurd older (Nat.lt_irrefl _)

/-- Declarations in a component leave the others as they are. -/
theorem ComponentId.upheld_retains {c : ComponentId} (new : ¬old c) :
    Upheld c (Store.SettledWith (cs.Retains old)) (fun _ => True) (fun _ _ => True)
      fun _ => True where
  settled _ hs := hs.1
  finds name := (Work.keeps_of_typing (c.typing_findType (.named name)) _).mono (fun _ _ _ h => h)
    fun _ => id
  pointer s name target header hs := by
    have typing := (s.interface c).project.typing_declareOpaque name target [header] false
    exact (Work.keeps_of_typing typing _ s hs).mono (fun _ _ h => h.1) fun _ _ h => h
  member _ _ hs _ _ _ _ := ⟨hs.1, hs.2.modify new _⟩
  change _ f hs _ := ⟨hs.1, hs.2.modify new f⟩
  free _ _ hs := hs

/-- The replay of a component leaves those that were declared before as they are. -/
theorem ProjectId.keeps_retains_replayComponent (made : ∀ d, old d → d.index < cs.items.length)
    (p : ProjectId) (d : Description.Component) :
    Keeps (Store.SettledWith (cs.Retains old)) (fun _ => True) (p.replayComponent d)
      fun _ _ => True := by
  intro s hs
  refine ends_bind.2
    (((p.declaring_declareComponent _ _ _ s hs.1).and (p.ends_declareComponent _ _ _ s)).mono ?_ ?_)
  · rintro c _ ⟨⟨settled, -⟩, rfl, k, known, -, -, rfl⟩
    have new : ¬old s.components.next := fun h =>
      absurd (Nat.lt_of_lt_of_le (made _ h) hs.2.1) (Nat.lt_irrefl s.components.items.length)
    exact (ComponentId.upheld_retains new).replay (fun _ => trivial) d _
      ⟨settled, hs.2.push made k known⟩
  · rintro _ _ ⟨-, rfl⟩ -
    exact hs

end Retains

/-- The component that an operation belongs to. -/
def OperationRef.component? : OperationRef → Option ComponentId
  | .owned c _ => some c
  | .free _ => none

namespace Declaration

/-- The operation that a call changes through its handle. -/
def amended? : Declaration → Option OperationRef
  | addArgument r .. | setReturn r _ | runInCallerThread r | setHidden r _ | setBody r _ => some r
  | _ => none

/-- The component in which a call declares something. -/
def component? : Declaration → Option ComponentId
  | declareInput c .. | declareOutput c .. | declareDynamic c .. | portDriven c _
  | declareProperty c .. | declareAttribute c .. | declareOperation c ..
  | declareHiddenOperation c .. | fixInitialState c | needConfiguration c | addHookCode c ..
  | addHeaderCode c _ | addImplementationCode c _ | addHandler c _ | addExtension c _ => some c
  | addArgument r .. | setReturn r _ | runInCallerThread r | setHidden r _ | setBody r _ =>
    r.component?
  | _ => none

/-- An operation that is amended belongs to the component that is changed. -/
theorem component?_of_amended? {d : Declaration} {r : OperationRef} (h : d.amended? = some r) :
    d.component? = r.component? := by
  cases d <;> cases h <;> rfl

/-- A declaration leaves the components as they are in which it is not made. -/
theorem keeps_retains {old : ComponentId → Prop} {cs : Components}
    (made : ∀ d, old d → d.index < cs.items.length) {d : Declaration}
    (aside : ∀ c, d.component? = some c → ¬old c) :
    Keeps (Store.SettledWith (cs.Retains old)) (fun _ => True) d.run fun _ _ => True := by
  have discarded {α : Type} {x : Work α}
      (hx : Keeps (Store.SettledWith (cs.Retains old)) (fun _ => True) x fun _ _ => True) :
      Keeps (Store.SettledWith (cs.Retains old)) (fun _ => True) (discard x) fun _ _ => True :=
        hx.map fun _ _ _ => trivial
  have looked (c : ComponentId) (type : TypeRef) :
      c.Finds (Store.SettledWith (cs.Retains old)) (fun _ => True) (fun _ _ => True) type :=
    (Work.keeps_of_typing (c.typing_findType type) _).mono (fun _ _ _ h => h) fun _ => id
  have amends {r : OperationRef} (h : d.amended? = some r) : ∃ c, r.In c ∧ ¬old c := by
    cases r with
    | owned c name => exact ⟨c, rfl, aside c (component?_of_amended? h)⟩
    | free index =>
      -- The operation belongs to no component, so any component that is not kept will do.
      exact ⟨cs.next, trivial, fun h => absurd (made _ h) (Nat.lt_irrefl cs.items.length)⟩
  cases d with
  | declareComponent p name superclass doc =>
    refine discarded fun s hs => ?_
    refine ((p.declaring_declareComponent name superclass doc s hs.1).and
      (p.ends_declareComponent name superclass doc s)).mono ?_ ?_
    · rintro c _ ⟨⟨settled, -⟩, -, k, known, -, -, rfl⟩
      exact ⟨⟨settled, hs.2.push made k known⟩, trivial⟩
    · rintro _ _ ⟨-, rfl⟩ -
      exact hs
  | findComponent p name => exact discarded (p.keeps_findComponent name)
  | pointerType c pointer type =>
    exact Work.keeps_of_typing (c.typing_pointerType pointer type).map _
  | newOperation o => exact discarded fun s hs => ⟨hs, trivial⟩
  | addArgument | setReturn | runInCallerThread | setHidden | setBody =>
    obtain ⟨c, hr, new⟩ := amends rfl
    exact (ComponentId.upheld_retains new).run hr fun _ mem => nomatch mem
  | declareInput | declareOutput | declareDynamic | portDriven | declareProperty | declareAttribute
  | declareOperation | declareHiddenOperation | fixInitialState | needConfiguration | addHookCode
  | addHeaderCode | addImplementationCode | addHandler | addExtension =>
    exact (ComponentId.upheld_retains (aside _ rfl)).run rfl fun type _ => looked _ type
  | _ => exact Work.keeps_of_typing (typing_run rfl) _

end Declaration

namespace ComponentId

/-- What declarations in a component may do while its project is frozen. -/
def refusing (c : ComponentId) : Effect Fault Store where
  holds s := declaring.holds s ∧ (s.project (s.interface c).project).frozen = true
  change s t := t.components = s.components
  fault _ := True
  refl _ := rfl
  trans h h' := h'.trans h

variable {c : ComponentId} {α : Type}

/-- Declarations of types are made for a component that refuses changes. -/
theorem refusing_of_typing {x : Work α} (hx : typing.Covers x) : c.refusing.Covers x := by
  rintro s ⟨hs, frozen⟩
  have kept {t : Store} (ht : declaring.holds t) (hst : DeclaresTypes s t) :
      c.refusing.holds t ∧ t.components = s.components := by
    have interface : t.interface c = s.interface c := by
      rw [Store.interface, Store.component, hst.2]; rfl
    refine ⟨⟨ht, ?_⟩, hst.2⟩
    rw [interface]
    exact (congrArg Project.frozen (hst.1.frame.outline _)).trans frozen
  exact (hx s hs).mono (fun _ _ h => kept h.1 h.2) fun _ _ h =>
    ⟨(kept h.1 h.2.1).1, h.2.1.2, trivial⟩

/-- No declaration is made that asks the project first. -/
theorem refusing_checkMutable (x : Work α) : c.refusing.Covers (do
    c.checkMutable
    x) := by
  rintro s ⟨hs, frozen⟩
  refine ends_bind.2 ((c.ends_checkMutable s).mono ?_ ?_)
  · rintro _ t ⟨rfl, isOpen⟩
    rw [isOpen] at frozen
    cases frozen
  · rintro _ t ⟨rfl, -⟩
    exact ⟨⟨hs, frozen⟩, rfl, trivial⟩

/-- A component that refuses changes lets no member be declared. -/
theorem refusing_checkDeclarable (name : String) (x : Work α) : c.refusing.Covers (do
    c.checkDeclarable name
    x) := by
  rintro s ⟨hs, frozen⟩
  refine ends_bind.2 ((c.ends_checkDeclarable name s).mono ?_ ?_)
  · rintro _ t ⟨rfl, isOpen, -⟩
    rw [isOpen] at frozen
    cases frozen
  · rintro _ t ⟨rfl, -⟩
    exact ⟨⟨hs, frozen⟩, rfl, trivial⟩

/-- In a component of a frozen project nothing is declared. -/
theorem refusing_run {d : Declaration} (within : d.component? = some c)
    (unamended : d.amended? = none) :
    c.refusing.Covers d.run := by
  cases d with
  | declareInput _ name type doc clearOnStart =>
    cases within
    exact ((refusing_of_typing (c.typing_toplevelType type)).bind
      fun _ => refusing_checkDeclarable name _).map
  | declareOutput _ name type doc keep =>
    cases within
    have policy :=
      Work.typing_of_offline (Work.offline_ofExcept (Retention.cycleFree_ofScalar keep))
    exact ((refusing_of_typing (c.typing_toplevelType type)).bind fun _ =>
      (refusing_of_typing policy).bind fun _ => refusing_checkDeclarable name _).map
  | declareDynamic _ direction name type doc =>
    cases within
    exact (refusing_checkDeclarable name _).map
  | declareProperty _ name type default doc | declareAttribute _ name type default doc =>
    cases within
    exact (refusing_checkDeclarable name _).map
  | declareOperation _ name doc methodName | declareHiddenOperation _ name body doc methodName =>
    cases within
    exact (refusing_checkDeclarable name _).map
  | portDriven | fixInitialState | needConfiguration | addHookCode | addHeaderCode
  | addImplementationCode | addHandler | addExtension =>
    cases within
    exact refusing_checkMutable _
  | addArgument | setReturn | runInCallerThread | setHidden | setBody => cases unamended
  | _ => cases within

end ComponentId

/-- A call that changes no operation of a component through its handle leaves the component as it is
if its project is frozen. -/
theorem Call.component_after {s : Store} (hs : declaring.holds s) {c : ComponentId}
    (made : c.index < s.components.items.length)
    (frozen : (s.project (s.interface c).project).frozen = true) {call : Call}
    (unamended : ∀ d name, call = .declare d → d.amended? ≠ some (.owned c name)) :
    (call.run.after s).component c = s.component c := by
  by_cases within : ∃ d, call = .declare d ∧ d.component? = some c
  · obtain ⟨d, rfl, within⟩ := within
    have unamended : d.amended? = none := by
      cases h : d.amended? with
      | none => rfl
      | some r =>
        rw [Declaration.component?_of_amended? h] at within
        cases r with
        | owned _ name =>
          cases within
          exact absurd h (unamended d name rfl)
        | free => cases within
    have same : (d.run.after s).components = s.components :=
      ((ComponentId.refusing_run within unamended).after ⟨hs, frozen⟩).2
    change (d.run.after s).components.get c = s.components.get c
    rw [same]
  · have made : ∀ d, d = c → d.index < s.components.items.length := fun d same => same ▸ made
    have kept : Keeps (Store.SettledWith (s.components.Retains (· = c))) (fun _ => True) call.run
        fun _ _ => True :=
      Call.keeps_of_replays (P := s.components.Retains (· = c))
        (ProjectId.keeps_retains_replayComponent made)
        fun d same => d.keeps_retains made fun c' within' same' => within ⟨d, same, same' ▸ within'⟩
    have start : Store.SettledWith (s.components.Retains (· = c)) s :=
      ⟨hs, Nat.le_refl _, fun _ _ => rfl⟩
    exact Work.after_of_ends (Q := fun t => t.component c = s.component c)
      ((kept s start).mono (fun _ _ h => h.1.2.2 c rfl) fun _ _ h => (h trivial).2.2 c rfl)

end Componentry
