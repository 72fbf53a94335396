import Componentry.Proofs.ComponentFrames
import Componentry.Proofs.DataMembers
import Componentry.Proofs.OwnTypekits

/-!
# What is declared in frozen projects

When declarations end in a project, its components and the typekit that it builds stay as they are
in all that follows, with one exception: an operation may be changed through its handle, which asks
no project. Such a change concerns the arguments, the result, the thread, the visibility and the
body of the operation only. So the declared model stays the same exactly as long as no operation of
the project is changed.
-/

namespace Componentry

open Declares

/-- What a component keeps once its project is frozen. -/
def Component.outline (k : Component) : Component :=
  { k with interface := { k.interface with operations := k.interface.operations.map (·.outline) } }

/-- A component with the operation of a name changed, but for its name. -/
def Component.amended (name : String) (f : Operation → Operation) (k : Component) : Component :=
  { k with interface := { k.interface with
    operations := k.interface.operations.map fun o =>
      if o.name == name then { f o with name := o.name } else o } }

/-- An operation that keeps its outline leaves that of the component. -/
theorem Component.outline_amended (k : Component) (name : String) {f : Operation → Operation}
    (kept : ∀ o, (f o).outline = o.outline) : (k.amended name f).outline = k.outline := by
  have outlines (o : Operation) :
      (if o.name == name then { f o with name := o.name } else o).outline = o.outline := by
    split
    · have same := kept o
      simp only [Operation.outline, Operation.mk.injEq] at same ⊢
      simp [same]
    · rfl
  simpa [Component.outline, amended] using fun o _ => outlines o

/-- What is declared in a project: its components, and the typekit that it builds. -/
structure Model where
  components : List (ComponentId × Component)
  typekit : Option (TypekitId × Typekit)

/-- What a model keeps once its project is frozen. -/
def Model.outline (m : Model) : Model :=
  { m with components := m.components.map fun (c, k) => (c, k.outline) }

namespace Store

/-- What is declared in a project. -/
def model (s : Store) (p : ProjectId) : Model where
  components := (s.project p).components.map fun c => (c, s.component c)
  typekit := (s.project p).typekit.map fun id => (id, s.typekit id)

variable {s t : Store} {p : ProjectId}

/-- The outline of a model is made up of those of its components and of its typekit. -/
theorem model_outline_eq (components : (t.project p).components = (s.project p).components)
    (typekit : (t.project p).typekit = (s.project p).typekit)
    (outlines : ∀ c ∈ (s.project p).components, (t.component c).outline = (s.component c).outline)
    (kept : ∀ id, (s.project p).typekit = some id → t.typekit id = s.typekit id) :
    (t.model p).outline = (s.model p).outline := by
  simp only [model, Model.outline, components, typekit, List.map_map, Model.mk.injEq]
  refine ⟨List.map_congr_left fun c mem => ?_, Option.map_congr fun id own => ?_⟩
  · exact congrArg (c, ·) (outlines c mem)
  · rw [kept id own]

/-- Models that agree in what they keep differ in components only. -/
theorem model_eq_iff (same : (t.model p).outline = (s.model p).outline) :
    t.model p = s.model p ↔ ∀ c ∈ (s.project p).components, t.component c = s.component c := by
  obtain ⟨components, typekit⟩ := Model.mk.inj same
  have listed : (t.project p).components = (s.project p).components := by
    have ids := congrArg (List.map Prod.fst) components
    simpa [model, List.map_map, Function.comp_def] using ids
  constructor
  · intro h c mem
    have pairs := (Model.mk.inj h).1
    rw [listed, List.map_inj_left] at pairs
    exact congrArg Prod.snd (pairs c mem)
  · intro h
    have pairs : (t.model p).components = (s.model p).components := by
      simp only [model, listed]
      exact List.map_congr_left fun c mem => congrArg (c, ·) (h c mem)
    exact congrArg₂ Model.mk pairs typekit

end Store

/-- Whether each project lists components that were declared in it. -/
def Store.OwnComponents (s : Store) : Prop :=
  ∀ p, ∀ c ∈ (s.project p).components, c.index < s.components.items.length ∧
    (s.interface c).project = p

/-- Without projects no component is listed. -/
theorem Store.OwnComponents.of_empty {s : Store} (none : s.projects.items = []) :
    s.OwnComponents := by
  intro p c mem
  rw [project, Projects.get, none] at mem
  cases mem

namespace Evolved

variable {s t : Store}

/-- Every step keeps the components of each project in it. -/
theorem ownComponents (step : Evolved s t) (h : s.OwnComponents) : t.OwnComponents := by
  intro p c mem
  have older (before : c ∈ (s.project p).components) :
      c.index < t.components.items.length ∧ (t.interface c).project = p := by
    obtain ⟨made, home⟩ := h p c before
    exact ⟨made.trans_le step.components_length, (step.interface_lasts made).project.trans home⟩
  cases step.project p with
  | made changed | madeLibrary changed =>
    rw [changed] at mem
    cases mem
  | withComponent changed _ _ longer home =>
    rw [changed] at mem
    rcases List.mem_append.1 mem with before | new
    · exact older before
    · obtain rfl := List.mem_singleton.1 new
      rw [longer]
      exact ⟨Nat.lt_succ_self _, home⟩
  | _ changed =>
    rw [changed] at mem
    exact older mem

/-- Every step leaves a frozen project frozen, with the components and the typekit that it has. -/
theorem project_frozen (step : Evolved s t) {p : ProjectId}
    (made : p.index < s.projects.items.length) (frozen : (s.project p).frozen = true) :
    (t.project p).frozen = true ∧
      (t.project p).components = (s.project p).components ∧
      (t.project p).typekit = (s.project p).typekit := by
  cases step.project p with
  | made _ next | madeLibrary _ next => exact absurd next (Projects.ne_next made)
  | withTypekit _ _ _ isOpen | withComponent _ _ isOpen =>
    rw [frozen] at isOpen
    cases isOpen
  | withFrozen h =>
    rw [h]
    exact ⟨rfl, rfl, rfl⟩
  | _ h =>
    rw [h]
    exact ⟨frozen, rfl, rfl⟩

/-- Every step leaves a component of a frozen project as it is, but for its operations. -/
theorem component_outline (step : Evolved s t) {c : ComponentId}
    (made : c.index < s.components.items.length)
    (frozen : (s.project (s.interface c).project).frozen = true) :
    (t.component c).outline = (s.component c).outline := by
  have aside (d : ComponentId) {f : Component → Component}
      (components : t.components = s.components.modify d f)
      (isOpen : (s.project (s.interface d).project).frozen = false) :
      (t.component c).outline = (s.component c).outline := by
    have other : ¬(c = d ∧ d.index < s.components.items.length) := by
      rintro ⟨rfl, -⟩
      rw [frozen] at isOpen
      cases isOpen
    rw [Store.component, components, Components.get_modify, if_neg other]
    rfl
  cases step with
  | declared step =>
    cases step with
    | addComponent q name base doc isOpen unused known =>
      change ((s.components.push _ known).get c).outline = _
      rw [Components.get_push, if_neg]
      · rfl
      · rintro rfl
        exact absurd made (Nat.lt_irrefl _)
    | addMember d m isOpen => exact aside d rfl isOpen
    | trigger d name isOpen => exact aside d rfl isOpen
    | fixInitialState d isOpen | needConfiguration d isOpen => exact aside d rfl isOpen
    | addCode d f isOpen => exact aside d rfl isOpen
    | changeOperation d name f kept =>
      exact Components.apply_modify Component.outline (f := Component.amended name f)
        (fun k => k.outline_amended name kept) s.components d c
    | _ => rfl
  | _ => rfl

end Evolved

/-- Steps keep the components of projects their own. -/
theorem Evolves.ownComponents {s t : Store} (steps : Evolves s t) (h : s.OwnComponents) :
    t.OwnComponents := by
  induction steps with
  | refl => exact h
  | tail _ step ih => exact step.ownComponents ih

/-- Whether declarations have ended in a project and in the typekit that it builds, in a state that
a run reaches. -/
structure Store.Frozen (s : Store) (p : ProjectId) : Prop where
  made : p.index < s.projects.items.length
  frozen : (s.project p).frozen = true
  complete : ∀ id, (s.project p).typekit = some id → (s.typekit id).frozen = true
  typekits : OwnTypekits s
  components : s.OwnComponents
  names : s.OwnNames

namespace Store.Frozen

variable {s t : Store} {p : ProjectId}

/-- Every step leaves the typekit of a frozen project as it is. -/
theorem typekit_kept (h : s.Frozen p) (step : Evolved s t) {id : TypekitId}
    (own : (s.project p).typekit = some id) :
    t.typekit id = s.typekit id := by
  obtain ⟨made, -, registry, -⟩ := h.typekits.builds p id own
  rcases step.reworked made (registry ▸ h.typekits.registries p h.made) with
    same | completed | ⟨isOpen, -⟩
  · exact same
  · rw [completed, ← h.complete id own]
  · rw [h.complete id own] at isOpen
    cases isOpen

/-- Every step leaves a project frozen, and what is declared in it as it is, but for the
operations. -/
theorem evolved (h : s.Frozen p) (step : Evolved s t) :
    t.Frozen p ∧ (t.model p).outline = (s.model p).outline := by
  obtain ⟨frozen, components, typekit⟩ := step.project_frozen h.made h.frozen
  refine ⟨⟨?_, frozen, fun id own => ?_, h.typekits.evolved step, step.ownComponents h.components,
    step.ownNames h.names⟩, Store.model_outline_eq components typekit (fun c mem => ?_)
      fun id => h.typekit_kept step⟩
  · exact Nat.lt_of_lt_of_le h.made step.placed.1
  · rw [typekit] at own
    rw [h.typekit_kept step own, h.complete id own]
  · obtain ⟨made, own⟩ := h.components p c mem
    exact step.component_outline made (own.symm ▸ h.frozen)

/-- A frozen project stays so along steps, with the outline of its model. -/
theorem evolves (h : s.Frozen p) (steps : Evolves s t) :
    t.Frozen p ∧ (t.model p).outline = (s.model p).outline := by
  induction steps with
  | refl => exact ⟨h, rfl⟩
  | tail _ step ih => exact ⟨(ih.1.evolved step).1, (ih.1.evolved step).2.trans ih.2⟩

end Store.Frozen

/-- The end of declarations in a project freezes it. -/
theorem ProjectId.ends_freeze_frozen {p : ProjectId} {s : Store}
    (made : p.index < s.projects.items.length) (typekits : OwnTypekits s)
    (components : s.OwnComponents) (names : s.OwnNames) :
    Ends p.freeze s (fun _ t => t.Frozen p) fun _ _ => False := by
  have reached {t : Store} (steps : Evolves s t) (frozen : (t.project p).frozen = true)
      (complete : ∀ id, (t.project p).typekit = some id → (t.typekit id).frozen = true) :
      t.Frozen p :=
    ⟨Nat.lt_of_lt_of_le made steps.grows.2.1, frozen, complete, typekits.evolves steps,
      steps.ownComponents components, steps.ownNames names⟩
  have step : Evolved s (p.withFrozen s) := .freeze p
  have frozen : ((p.withFrozen s).project p).frozen = true := by
    rw [Store.project, withFrozen, Projects.get_modify, if_pos ⟨rfl, made⟩]
  have typekit : ((p.withFrozen s).project p).typekit = (s.project p).typekit :=
    Projects.apply_modify (·.typekit) (fun _ => by rfl) s.projects p p
  refine p.ends_freeze_of (fun imported => ?_) fun id own _ => ?_
  · refine reached (.single step) frozen fun id own => ?_
    obtain ⟨-, isMain, -⟩ := typekits.builds p id (typekit.symm.trans own)
    rw [imported id (typekit.symm.trans own)] at isMain
    cases isMain
  · refine reached (.tail (.single step) (.completeTypekit id)) frozen fun id' own' => ?_
    obtain rfl : id = id' := Option.some.inj (own.symm.trans (typekit.symm.trans own'))
    obtain ⟨made, -⟩ := (typekits.evolved step).builds p id (typekit.trans own)
    simp [TypekitId.withFrozen, Store.typekit, made]

namespace Declaration

/-- An operation is changed through its handle, or else the components stay as they are. -/
theorem ends_amended {d : Declaration} {c : ComponentId} {name : String}
    (h : d.amended? = some (.owned c name)) {s : Store} (hs : declaring.holds s) :
    Ends d.run s (fun _ t => ∃ f : Operation → Operation,
      t.components = s.components.modify c (Component.amended name f))
      fun _ t => t.components = s.components := by
  have updated (f : Operation → Operation) {t : Store} (same : t.components = s.components) :
      Ends ((OperationRef.owned c name).update f) t
        (fun _ u => ∃ f : Operation → Operation,
          u.components = s.components.modify c (Component.amended name f))
        fun _ u => u.components = s.components := by
    rw [← same]
    exact ⟨f, rfl⟩
  have resolved {α : Type} {x : Work α} (hx : typing.Covers x) (f : α → Operation → Operation) :
      Ends (do (OperationRef.owned c name).update (f (← x))) s
        (fun _ u => ∃ f : Operation → Operation,
          u.components = s.components.modify c (Component.amended name f))
        fun _ u => u.components = s.components :=
    ends_bind.2 ((hx s hs).mono (fun a _ ht => updated (f a) ht.2.2) fun _ _ ht => ht.2.1.2)
  cases d with
  | addArgument r argument type doc =>
    cases h
    exact resolved (OperationRef.typing_resolveType _ type) fun typeName o =>
      o.withArgument ⟨argument, typeName, doc⟩
  | setReturn r type =>
    cases h
    cases type with
    | none => exact updated _ rfl
    | some type =>
      exact resolved (OperationRef.typing_resolveType _ type).map
        fun returnType o => { o with returnType }
  | runInCallerThread r | setHidden r hidden | setBody r body =>
    cases h
    exact updated _ rfl
  | _ => cases h

end Declaration

/-- Whether a call changes an operation of a project through its handle. -/
def Call.Amends (call : Call) (p : ProjectId) (s : Store) : Prop :=
  ∃ d c name, call = .declare d ∧ d.amended? = some (.owned c name) ∧ c ∈ (s.project p).components ∧
    (OperationRef.owned c name).find (call.run.after s) ≠ (OperationRef.owned c name).find s

/-- An operation is found by its name. -/
theorem Interface.find?_operation {i : Interface} (names : i.memberNames.Nodup) {o : Operation}
    (mem : o ∈ i.operations) :
    i.operations.find? (·.name == o.name) = some o := by
  have distinct : (i.operations.map (·.name)).Nodup := by
    simp only [memberNames, members, List.map_append, List.append_assoc] at names
    simpa [Function.comp_def, Member.name] using (List.nodup_append.1 names).1
  exact find?_of_distinct distinct mem

/-- A component is as it was if the operation is that was changed. -/
theorem Component.amended_eq_self {k : Component} (names : k.interface.memberNames.Nodup)
    (name : String) {f : Operation → Operation} (default : Operation)
    (same : ((k.amended name f).interface.operations.find? (·.name == name)).getD default =
        (k.interface.operations.find? (·.name == name)).getD default) : k.amended name f = k := by
  let g (o : Operation) : Operation := if o.name == name then { f o with name := o.name } else o
  have named (o : Operation) : (g o).name = o.name := by
    simp only [g]
    split <;> rfl
  have unchanged : k.interface.operations.map g = k.interface.operations := by
    refine (List.map_congr_left fun o mem => ?_).trans (List.map_id _)
    by_cases here : o.name = name
    · subst here
      have found := Interface.find?_operation names mem
      have after :
          (k.amended o.name f).interface.operations.find? (·.name == o.name) = some (g o) := by
        change (k.interface.operations.map g).find? (·.name == o.name) = some (g o)
        simp only [List.find?_map, Function.comp_def, named, found, Option.map_some]
      rw [after, found] at same
      exact same
    · exact if_neg (fun h => here (beq_iff_eq.1 h))
  change { k with interface := { k.interface with operations := k.interface.operations.map g } } = k
  rw [unchanged]

/-- In a frozen project, a call leaves what is declared as it is exactly if it changes no
operation. -/
theorem Store.Frozen.model_after_iff {s : Store} {p : ProjectId} (h : s.Frozen p)
    (settled : declaring.holds s) (call : Call) :
    (call.run.after s).model p = s.model p ↔ ¬call.Amends p s := by
  have steps : Evolves s (call.run.after s) := (call.covers_run.after settled).2
  rw [Store.model_eq_iff (h.evolves steps).2]
  constructor
  · rintro kept ⟨d, c, name, rfl, -, mem, differs⟩
    refine differs ?_
    rw [OperationRef.find, OperationRef.find, Store.interface, kept c mem]
    rfl
  · intro unamended c mem
    obtain ⟨made, own⟩ := h.components p c mem
    by_cases other : ∀ d name, call = .declare d → d.amended? ≠ some (.owned c name)
    · exact Call.component_after settled made (own.symm ▸ h.frozen) other
    push Not at other
    obtain ⟨d, name, rfl, amended⟩ := other
    have same :
        (OperationRef.owned c name).find (d.run.after s) = (OperationRef.owned c name).find s := by
      by_contra differs
      exact unamended ⟨d, c, name, rfl, amended, mem, differs⟩
    have components := Work.after_of_ends
      (Q := fun t => (∃ f, t.components = s.components.modify c (Component.amended name f)) ∨
        t.components = s.components)
      ((Declaration.ends_amended amended settled).mono (fun _ _ h => .inl h) fun _ _ h => .inr h)
    rcases components with ⟨f, changed⟩ | kept
    · have component : (d.run.after s).component c = (s.component c).amended name f := by
        rw [Store.component, changed, Components.get_modify, if_pos ⟨rfl, made⟩]
        rfl
      rw [OperationRef.find, OperationRef.find, Store.interface, component] at same
      exact component.trans (Component.amended_eq_self (h.names c) name _ same)
    · change (d.run.after s).components.get c = s.components.get c
      rw [kept]

/-- Once declarations have ended in a project, what is declared in it stays as it is, through all
calls on any projects, exactly as long as none of its operations is changed through its handle. Also
then all is kept but the arguments, the result, the thread, the visibility and the body of
operations. -/
theorem frozenModel_kept_iff (files : Files.Tree) (packageMaps : List PackageMap)
    (setup : List Call) (p : ProjectId)
    (made : p.index < (Call.runAll setup { files, packageMaps }).projects.items.length)
    (calls : List Call) :
    let s := Call.runAll (setup ++ [.freeze p]) { files, packageMaps }
    ((∀ before, before <+: calls → (Call.runAll before s).model p = s.model p) ↔
        ∀ before call after, calls = before ++ call :: after →
          ¬call.Amends p (Call.runAll before s)) ∧
      ((Call.runAll calls s).model p).outline = (s.model p).outline := by
  intro s
  let start : Store := { files, packageMaps }
  obtain ⟨settled, steps⟩ := Call.evolves_runAll (settled_of_empty (s := start) rfl) setup
  have typekits : OwnTypekits start := .of_empty rfl
  have frozen : s.Frozen p := by
    have ends :=
      p.ends_freeze_frozen made (typekits.evolves steps) (steps.ownComponents (.of_empty rfl))
      (steps.ownNames fun _ => .nil)
    have after : s = (Call.freeze p).run.after (Call.runAll setup start) :=
      Call.runAll_append setup [.freeze p] start
    rw [after]
    exact Work.after_of_ends (ends.mono (fun _ _ h => h) fun _ _ h => h.elim)
  have ready : declaring.holds s := (Call.evolves_runAll (settled_of_empty (s := start) rfl) _).1
  have reached (calls : List Call) := Call.evolves_runAll ready calls
  refine ⟨?_, (frozen.evolves (reached calls).2).2⟩
  have step (call : Call) (t : Store)
      (ht : (declaring.holds t ∧ t.Frozen p) ∧ t.model p = s.model p) :
      ((declaring.holds (call.run.after t) ∧ (call.run.after t).Frozen p) ∧
        (call.run.after t).model p = s.model p) ↔ ¬call.Amends p t := by
    obtain ⟨⟨settled, frozen⟩, same⟩ := ht
    obtain ⟨settled', steps⟩ := Call.evolves_runAll settled [call]
    rw [← same, frozen.model_after_iff settled call |>.symm]
    exact and_iff_right ⟨settled', (frozen.evolves steps).1⟩
  refine Iff.trans (forall₂_congr fun before _ => ?_)
    (Call.forall_prefix_iff (Q := fun call t => ¬call.Amends p t) step ⟨⟨ready, frozen⟩, rfl⟩ calls)
  exact (and_iff_right ⟨(reached before).1, (frozen.evolves (reached before).2).1⟩).symm

/-- A project with one component and one operation. -/
def oneOperation : List Call :=
  [.newProject "tasks" ⟨"/", []⟩ ⟨0⟩ none none,
    .declare (.declareComponent ⟨0⟩ "A" .framework none),
    .declare (.declareOperation ⟨0⟩ "go" none none)]

/-- A call that makes the operation run in the thread of its caller. -/
def lateCallerThread : List Call :=
  [.declare (.runInCallerThread (.owned ⟨0⟩ "go"))]

/-- The operation is changed after the end of declarations. -/
theorem frozenModel_lateCallerThread :
    0 < (Call.runAll oneOperation {}).projects.items.length ∧
      let s := Call.runAll (oneOperation ++ [.freeze ⟨0⟩]) {}
      ((Call.runAll lateCallerThread s).model ⟨0⟩).outline = (s.model ⟨0⟩).outline ∧
        (Call.runAll lateCallerThread s).model ⟨0⟩ ≠ s.model ⟨0⟩ ∧
        ¬∀ before call after, lateCallerThread = before ++ call :: after →
          ¬call.Amends ⟨0⟩ (Call.runAll before s) := by
  have made : 0 < (Call.runAll oneOperation {}).projects.items.length := by decide +kernel
  obtain ⟨kept, outline⟩ := frozenModel_kept_iff {} [] oneOperation ⟨0⟩ made lateCallerThread
  have differs :
      (Call.runAll lateCallerThread (Call.runAll (oneOperation ++ [.freeze ⟨0⟩]) {})).model ⟨0⟩ ≠
      (Call.runAll (oneOperation ++ [.freeze ⟨0⟩]) {}).model ⟨0⟩ := by
    intro same
    have threads := congrArg
      (fun m : Model => m.components.map (·.2.interface.operations.map (·.runsInCallerThread))) same
    revert threads
    decide +kernel
  refine ⟨made, outline, differs, fun unamended => differs ?_⟩
  exact kept.2 unamended lateCallerThread (List.prefix_refl _)

end Componentry
