import Componentry.Generation.Collection
import Componentry.Proofs.ComponentDeclarations
import Componentry.Proofs.Keeping

/-!
# What is collected for a component

What goes into the generated classes of a component are contributions one after the other: that of
the operations that every component has, those of its members, those that its extensions and
generation handlers make, and the code that was added to it. When the contributions are collected
each of them was made, and together they passed the check. The records of each sort are then those
of the contributions, one after the other.
-/

namespace Componentry

open Declares

namespace Contribution

variable {α : Type}

/-- Contributions one after the other have the records of each of them. -/
theorem concat_eq (parts : List Contribution) :
    concat parts = {
      declarations := parts.flatMap (·.declarations)
      constructions := parts.flatMap (·.constructions)
      hooks := parts.flatMap (·.hooks)
      baseMethods := parts.flatMap (·.baseMethods)
      userMethods := parts.flatMap (·.userMethods)
      headerCode := parts.flatMap (·.headerCode)
      implementationCode := parts.flatMap (·.implementationCode) } := by
  have after (first : Contribution) :
      parts.foldl append first = {
        declarations := first.declarations ++ parts.flatMap (·.declarations)
        constructions := first.constructions ++ parts.flatMap (·.constructions)
        hooks := first.hooks ++ parts.flatMap (·.hooks)
        baseMethods := first.baseMethods ++ parts.flatMap (·.baseMethods)
        userMethods := first.userMethods ++ parts.flatMap (·.userMethods)
        headerCode := first.headerCode ++ parts.flatMap (·.headerCode)
        implementationCode :=
          first.implementationCode ++ parts.flatMap (·.implementationCode) } := by
    induction parts generalizing first with
    | nil => simp only [List.foldl_nil, List.flatMap_nil, List.append_nil]
    | cons part parts ih =>
      simp only [List.foldl_cons, ih, append, List.flatMap_cons, List.append_assoc]
  exact after empty

/-- What was contributed for some things is what each of them contributes. -/
theorem filterMap_of_forall₂ {contribute : α → Except Fault Contribution} {as : List α}
    {ks : List Contribution} (h : List.Forall₂ (fun a k => contribute a = .ok k) as ks) :
    as.filterMap (fun a => (contribute a).toOption) = ks := by
  induction h with
  | nil => rfl
  | cons made _ ih => rw [List.filterMap_cons, made, ih]; rfl

/-- A handler that contributes nothing might as well contribute no records. -/
theorem concat_of_forall₂ {contribute : α → Except Fault (Option Contribution)} {as : List α}
    {ks : List (Option Contribution)} (h : List.Forall₂ (fun a k => contribute a = .ok k) as ks)
    (before after : List Contribution) :
    concat (before ++ ks.map (·.getD .empty) ++ after) =
      concat (before ++ as.filterMap (fun a => (contribute a).toOption.join) ++ after) := by
  have records {β : Type} (f : Contribution → List β) (none : f .empty = []) :
      (ks.map (·.getD .empty)).flatMap f =
        (as.filterMap fun a => (contribute a).toOption.join).flatMap f := by
    induction h with
    | nil => rfl
    | @cons a k as ks made _ ih =>
      rw [List.map_cons, List.flatMap_cons, ih, List.filterMap_cons, made]
      cases k with
      | none => rw [Option.getD_none, none]; rfl
      | some k => rfl
  simp only [concat_eq, List.flatMap_append, records (·.declarations) rfl,
    records (·.constructions) rfl, records (·.hooks) rfl, records (·.baseMethods) rfl,
    records (·.userMethods) rfl, records (·.headerCode) rfl, records (·.implementationCode) rfl]

end Contribution

/-- Whether a contribution is what a member contributes to a component, for some answers on which
arguments of an operation are numbers. -/
def Interface.Contributes (i : Interface) : Member → Contribution → Prop
  | .port p, k => p.contribution = .ok k
  | .property s, k => s.propertyContribution = .ok k
  | .attribute s, k => s.attributeContribution = .ok k
  | .operation o, k =>
    ∃ numeric : List Bool, numeric.length = o.arguments.length ∧ o.contribution i numeric = .ok k
  | .plain .., k => k = .empty

namespace ComponentId

/-- What the extensions and the generation handlers of a component contribute. -/
def plugged (c : ComponentId) (s : Store) : List Contribution :=
  (s.component c).code.extensions.filterMap (fun e => (e.contribute c s.lineage).toOption) ++
    (s.component c).code.handlers.filterMap fun h => (h c s.lineage).toOption.join

/-- The code that was added to a component. -/
def addedCode (c : ComponentId) (s : Store) : Contribution :=
  { headerCode := (s.component c).code.header,
    implementationCode := (s.component c).code.implementation }

/-- The contributions to a component one after the other, given those of the operations that every
component has and of its members. -/
def gathered (c : ComponentId) (s : Store) (implicit : Contribution)
    (members : List Contribution) : Contribution :=
  .concat ([implicit] ++ members ++ c.plugged s ++ [c.addedCode s])

/-- How what is collected for a component is put together. -/
structure Collects (c : ComponentId) (s : Store) (implicit : Contribution)
    (members : List Contribution) (k : Contribution) : Prop where
  ofFramework : Generation.implicitContribution (s.interface c) = .ok implicit
  ofMembers : List.Forall₂ (s.interface c).Contributes (s.interface c).members members
  checked : Generation.checkDuplicates (s.interface c) (c.gathered s implicit members) = .ok ()
  collected : k = Generation.withPureVirtuals (s.interface c) (c.gathered s implicit members)

/-- There is an answer for each argument, and the components stay as they are. -/
theorem keeps_numericArguments (c : ComponentId) (o : Operation) (cs : Components) :
    Keeps (Store.SettledWith (· = cs)) (fun _ => True) (c.numericArguments o) fun numeric _ =>
      numeric.length = o.arguments.length := by
  have each : Keeps (Store.SettledWith (· = cs)) (fun _ => True) (c.numericArguments o)
      fun numeric _ =>
      List.Forall₂ (fun _ _ => True) o.arguments numeric := by
    refine keeps_mapM fun a _ => ?_
    refine Work.keeps_of_typing ?_ (· = cs)
    exact (c.typing_findType _).bind fun _ => Effect.covers_pure _
  exact each.mono (fun _ _ _ h => h.length_eq.symm) fun _ h => h

/-- A member contributes what its kind tells, and components stay as they are. -/
theorem keeps_memberContribution (c : ComponentId) (m : Member) (cs : Components) :
    Keeps (Store.SettledWith (· = cs)) (fun _ => True) (c.memberContribution m) fun k _ =>
      (cs.get c).interface.Contributes m k := by
  match m with
  | .port p => exact Work.keeps_ofExcept fun k h => h
  | .property s | .attribute s => exact Work.keeps_ofExcept fun k h => h
  | .plain .. => exact keeps_pure fun _ _ => rfl
  | .operation o =>
    refine (c.keeps_numericArguments o cs).bind_of fun numeric s hs length =>
      ends_bind.2 (ends_get.2 ?_)
    refine Work.ends_ofExcept.2 ⟨fun k h => ⟨hs, numeric, length, ?_⟩, fun _ _ _ => hs⟩
    rw [← hs.2]
    exact h

/-- Whether each extension and each generation handler of a component makes its contribution. -/
structure PluginsSucceed (c : ComponentId) (s : Store) : Prop where
  extensions : ∀ e ∈ (s.component c).code.extensions, ∃ k, e.contribute c s.lineage = .ok k
  handlers : ∀ h ∈ (s.component c).code.handlers, ∃ k, h c s.lineage = .ok k

/-- Whenever something is collected for a component, all its contributions were made and passed the
check together, and the components stay as they are. -/
theorem ends_collect_of (c : ComponentId) {s : Store} (hs : declaring.holds s) :
    Ends c.collect s (fun k t => t.components = s.components ∧ c.PluginsSucceed s ∧
      ∃ implicit members, c.Collects s implicit members k) fun _ _ => True := by
  have each {α β : Type} (f : α → Except Fault β) (as : List α) :
      Keeps (Store.SettledWith (· = s.components)) (fun _ => True)
          (as.mapM fun a => Work.ofExcept (f a)) fun bs _ =>
        List.Forall₂ (fun a b => f a = .ok b) as bs :=
    keeps_mapM fun a _ => Work.keeps_ofExcept fun _ h => h
  refine ends_bind.2
    (ends_get.2 (ends_bind.2 (Work.ends_ofExcept.2 ⟨fun implicit made => ?_, fun _ _ => trivial⟩)))
  refine ends_bind.2 ((keeps_mapM (fun m _ => c.keeps_memberContribution m s.components) s
      ⟨hs, rfl⟩).mono ?_ fun _ _ _ =>
    trivial)
  rintro members t ⟨ht, declared⟩
  have lineage : t.lineage = s.lineage := by rw [Store.lineage, ht.2, Store.lineage]
  refine ends_bind.2 (ends_get.2 (ends_bind.2 ?_))
  rw [lineage]
  refine (each _ _ t ht).mono ?_ fun _ _ _ => trivial
  rintro extensions u ⟨hu, extended⟩
  refine ends_bind.2 ((each _ _ u hu).mono ?_ fun _ _ _ => trivial)
  rintro handlers v ⟨hv, handled⟩
  refine ends_bind.2 (Work.ends_ofExcept.2 ⟨fun _ checked => ?_, fun _ _ => trivial⟩)
  have gathered :
      Contribution.concat ([implicit] ++ members ++ extensions ++ handlers.map (·.getD .empty) ++
      [c.addedCode s]) = c.gathered s implicit members := by
    rw [Contribution.concat_of_forall₂ handled, ← Contribution.filterMap_of_forall₂ extended,
      ComponentId.gathered, plugged, List.append_assoc ([implicit] ++ members)]
  refine ends_pure.2 ⟨hv.2, ⟨exists_of_forall₂ extended, exists_of_forall₂ handled⟩,
    implicit, members, made, declared, ?_, ?_⟩
  · rw [← gathered]
    exact checked
  · rw [← gathered]
    rfl

/-- Whenever something is collected for a component, all its contributions were made and passed the
check together. -/
theorem ends_collect (c : ComponentId) {s : Store} (hs : declaring.holds s) :
    Ends c.collect s (fun k _ => ∃ implicit members, c.Collects s implicit members k)
      fun _ _ => True :=
  (c.ends_collect_of hs).mono (fun _ _ h => h.2.2) fun _ _ h => h

end ComponentId

end Componentry
