import Componentry.Generation.Classes
import Componentry.Proofs.Collecting
import Componentry.Proofs.DataMembers

/-!
# Methods of generated classes

The generated base class and the user class of a component share their methods by name. The methods
that serve operations, and whatever methods extensions and generation handlers contribute, go to one
of the two classes. Each contributed method of the user class must be declared in the base class
too, and each method that the base class leaves without body must be there in the user class. The
base class is completed when the contributions are collected, the user class when its parts are
made. Since no class has two methods of one name, the completed classes match.
-/

namespace Componentry

open Declares

/-- Whether two methods are called alike: a class that derives from the one overrides it by the
other. -/
structure MethodRecord.Overrides (m n : MethodRecord) : Prop where
  returnType : m.returnType = n.returnType
  name : m.name = n.name
  signature : m.signature = n.signature

/-- Whether methods serve operations, one each, for some answers on which arguments are numbers. -/
def Operation.ServedBy : List Operation → List MethodRecord → Prop :=
  List.Forall₂ fun o m => ∃ numeric : List Bool, numeric.length = o.arguments.length ∧
    m = o.method numeric

/-- The methods of the base class that a component has without declaring them: they serve the
operations that it has so, or tell the name of a component that derives from another. -/
def Interface.implicitMethods (i : Interface) : List MethodRecord :=
  if i.superclass.isSome then
    [{ returnType := "std::string", name := "getModelName",
       body := some (.text (Generation.modelNameBody i)) }]
  else i.implicitOperations.map (·.method [])

namespace ComponentId

/-- The methods that are contributed to the base class of a component, if some methods serve its
operations. -/
def contributedBase (c : ComponentId) (s : Store)
    (served : List MethodRecord) : List MethodRecord :=
  (s.interface c).implicitMethods ++ served.filter (·.inBase) ++
    (c.plugged s).flatMap (·.baseMethods)

/-- The methods that are contributed to the user class of a component, if some methods serve its
operations. -/
def contributedUser (c : ComponentId) (s : Store)
    (served : List MethodRecord) : List MethodRecord :=
  served.filter (!·.inBase) ++ (c.plugged s).flatMap (·.userMethods)

/-- How the methods of both classes come together from the contributions to a component. -/
structure CollectsMethods (c : ComponentId) (s : Store) (k : Contribution)
    (served added : List MethodRecord) : Prop where
  serves : Operation.ServedBy (s.interface c).operations served
  user : k.userMethods = c.contributedUser s served
  base : k.baseMethods = c.contributedBase s served ++ added
  /-- The methods added at the end stand for the user methods whose names no contributed base method
  has. -/
  adds : List.Forall₂ (fun m stub => stub.Overrides m ∧ stub.body = none)
    (k.userMethods.filter fun m => m.name ∉ (c.contributedBase s served).map (·.name)) added
  baseNames : (k.baseMethods.map (·.name)).Nodup
  userNames : (k.userMethods.map (·.name)).Nodup
  declared : ∀ m ∈ k.userMethods, m.name ∈ k.baseMethods.map (·.name)
  /-- Each operation is served by one method of the base class. -/
  operations : ∀ o ∈ (s.interface c).implicitOperations ++ (s.interface c).operations,
    (k.baseMethods.map (·.name)).count o.methodName = 1

end ComponentId

/-- The base methods without body that no user method is named like. -/
def Contribution.leftOpen (k : Contribution) : List MethodRecord :=
  k.baseMethods.filter fun m => m.body.isNone && m.name ∉ k.userMethods.map (·.name)

/-- Whether the user class of a component declares the user methods and `defaults` for the base
methods that are left open, each name once, and defines those of them that have a body. It can be
made unless the code of a user method fails. -/
structure Contribution.Implements (k : Contribution) (c : ComponentId) (s : Store)
    (defaults : List MethodRecord) : Prop where
  overrides :
    List.Forall₂ (fun m method => method.Overrides m ∧ method.body.isSome) k.leftOpen defaults
  names : ((k.userMethods ++ defaults).map (·.name)).Nodup
  declares : ∀ u, Generation.userClass s c k = .ok u →
    u.methodDeclarations = (k.userMethods ++ defaults).map (·.declaration)
  defines : ∀ u, Generation.userClass s c k = .ok u →
    List.Forall₂ (fun m text => m.definition s.lineage (s.interface c).basename = .ok (some text))
      (k.userMethods.filter (·.body.isSome) ++ defaults) u.methodDefinitions
  fails : ∀ fault, Generation.userClass s c k = .error fault →
    ∃ m ∈ k.userMethods, m.definition s.lineage (s.interface c).basename = .error fault

section Served

variable {i : Interface}

/-- The operation that a member is, if it is one. -/
def Member.operation? : Member → Option Operation
  | .operation o => some o
  | _ => none

/-- The members of a component that are operations are its operations. -/
theorem Interface.filterMap_operation (i : Interface) :
    i.members.filterMap (·.operation?) = i.operations := by
  have others {α : Type} (make : α → Member) (other : ∀ a, (make a).operation? = none)
      (as : List α) :
      (as.map make).filterMap (·.operation?) = [] := by
    rw [List.filterMap_map]
    exact List.filterMap_eq_nil_iff.2 fun a _ => other a
  have own : (i.operations.map Member.operation).filterMap (·.operation?) = i.operations := by
    rw [List.filterMap_map]
    exact List.filterMap_some
  simp only [members, List.filterMap_append, own, others Member.property fun _ => rfl,
    others Member.attribute fun _ => rfl, others Member.port fun _ => rfl, List.append_nil]

/-- What serves an operation is contributed to the class that it belongs to. -/
theorem Operation.methods_of_contribution {o : Operation} {numeric : List Bool} {k : Contribution}
    (h : o.contribution i numeric = .ok k) :
    k.baseMethods = [o.method numeric].filter (·.inBase) ∧
      k.userMethods = [o.method numeric].filter (!·.inBase) := by
  rw [contribution] at h
  split at h
  · cases h
  · cases h
    exact ⟨rfl, rfl⟩

/-- A member that is no operation contributes no methods. -/
theorem Interface.Contributes.no_methods {m : Member} {k : Contribution} (h : i.Contributes m k)
    (other : m.operation? = none) : k.baseMethods = [] ∧ k.userMethods = [] := by
  match m, h with
  | .port p, h =>
    rw [Contributes, Port.contribution] at h
    split at h
    · cases h
      exact ⟨rfl, rfl⟩
    · split at h
      · cases h
      · cases h
        exact ⟨rfl, rfl⟩
  | .property s, h | .attribute s, h =>
    obtain ⟨setUp, -, made⟩ := of_bind_ok h
    cases made
    exact ⟨rfl, rfl⟩
  | .plain .., h =>
    cases h
    exact ⟨rfl, rfl⟩

/-- The methods that members contribute serve the operations among them. -/
theorem Interface.served_of_forall₂ {ms : List Member} {ks : List Contribution}
    (h : List.Forall₂ i.Contributes ms ks) :
    ∃ served, Operation.ServedBy (ms.filterMap (·.operation?)) served ∧
      ks.flatMap (·.baseMethods) = served.filter (·.inBase) ∧
        ks.flatMap (·.userMethods) = served.filter (!·.inBase) := by
  induction h with
  | nil => exact ⟨[], .nil, rfl, rfl⟩
  | @cons m k ms ks made _ ih =>
    obtain ⟨served, serves, base, user⟩ := ih
    cases hm : m.operation? with
    | none =>
      obtain ⟨noBase, noUser⟩ := made.no_methods hm
      refine ⟨served, ?_, ?_, ?_⟩
      · rw [List.filterMap_cons_none hm]
        exact serves
      · rw [List.flatMap_cons, noBase, base, List.nil_append]
      · rw [List.flatMap_cons, noUser, user, List.nil_append]
    | some o =>
      obtain rfl : m = .operation o := by
        unfold Member.operation? at hm
        split at hm
        · cases hm
          rfl
        · cases hm
      obtain ⟨numeric, length, made⟩ := made
      obtain ⟨ownBase, ownUser⟩ := Operation.methods_of_contribution made
      refine ⟨o.method numeric :: served, ?_, ?_, ?_⟩
      · rw [List.filterMap_cons_some hm]
        exact .cons ⟨numeric, length, rfl⟩ serves
      · rw [List.flatMap_cons, ownBase, base, ← List.filter_append, List.singleton_append]
      · rw [List.flatMap_cons, ownUser, user, ← List.filter_append, List.singleton_append]

/-- Each operation is served by a method that has the name asked for. -/
theorem Operation.ServedBy.exists_method {os : List Operation} {ms : List MethodRecord}
    (h : ServedBy os ms) {o : Operation} (mem : o ∈ os) : ∃ m ∈ ms, m.name = o.methodName := by
  induction h with
  | nil => cases mem
  | @cons p m os ms serves _ ih =>
    rcases List.mem_cons.1 mem with rfl | mem
    · obtain ⟨numeric, -, rfl⟩ := serves
      exact ⟨_, List.mem_cons_self, rfl⟩
    · obtain ⟨n, listed, name⟩ := ih mem
      exact ⟨n, List.mem_cons_of_mem m listed, name⟩

/-- The methods that come by themselves are those of the base class only. -/
theorem Generation.methods_of_implicitContribution {k : Contribution}
    (h : implicitContribution i = .ok k) :
    k.baseMethods = i.implicitMethods ∧ k.userMethods = [] := by
  rw [implicitContribution] at h
  rw [Interface.implicitMethods]
  split at h
  · rename_i derived
    rw [if_pos derived]
    cases h
    exact ⟨rfl, rfl⟩
  · rename_i underived
    rw [if_neg underived, Interface.implicitOperations, if_neg underived]
    cases h
    exact ⟨rfl, rfl⟩

end Served

namespace Generation

variable {i : Interface} {k : Contribution}

/-- What passes the check has no two methods of one name in a class. -/
theorem methodNames_of_checkDuplicates (h : checkDuplicates i k = .ok ()) :
    (k.baseMethods.map (·.name)).Nodup ∧ (k.userMethods.map (·.name)).Nodup := by
  have distinct {ms : List MethodRecord} (checked : checkDuplicates.checkMethods i ms = .ok ()) :
      (ms.map (·.name)).Nodup := by
    rw [checkDuplicates.checkMethods] at checked
    split at checked
    · cases checked
    · rename_i none
      exact (firstRepeated?_eq_none.1 none).1
  obtain ⟨_, -, h⟩ := of_bind_ok h
  obtain ⟨_, -, h⟩ := of_bind_ok h
  obtain ⟨_, base, user⟩ := of_bind_ok h
  exact ⟨distinct base, distinct user⟩

/-- A method of the base class is added for each user method that has none, and all names stay
distinct. -/
theorem withPureVirtuals_spec (base : (k.baseMethods.map (·.name)).Nodup)
    (user : (k.userMethods.map (·.name)).Nodup) :
    ∃ added, (withPureVirtuals i k).baseMethods = k.baseMethods ++ added ∧
      List.Forall₂ (fun m stub => stub.Overrides m ∧ stub.body = none)
        (k.userMethods.filter fun m => m.name ∉ k.baseMethods.map (·.name)) added ∧
      ((withPureVirtuals i k).baseMethods.map (·.name)).Nodup ∧
      ∀ m ∈ k.userMethods, m.name ∈ (withPureVirtuals i k).baseMethods.map (·.name) := by
  let missing := k.userMethods.filter fun m => m.name ∉ k.baseMethods.map (·.name)
  have names : (missing.map (pureVirtual i)).map (·.name) = missing.map (·.name) := by
    rw [List.map_map]
    rfl
  refine ⟨missing.map (pureVirtual i), rfl, ?_, ?_, fun m mem => ?_⟩
  · exact List.forall₂_map_right_iff.2 (List.forall₂_same.2 fun m _ => ⟨⟨rfl, rfl, rfl⟩, rfl⟩)
  · change ((k.baseMethods ++ missing.map (pureVirtual i)).map (·.name)).Nodup
    rw [List.map_append, names]
    refine List.Nodup.append base (user.sublist (List.filter_sublist.map _))
      fun name there missed => ?_
    obtain ⟨m, mem, rfl⟩ := List.mem_map.1 missed
    exact of_decide_eq_true (List.mem_filter.1 mem).2 there
  · change m.name ∈ (k.baseMethods ++ missing.map (pureVirtual i)).map (·.name)
    rw [List.map_append, names, List.mem_append]
    by_cases there : m.name ∈ k.baseMethods.map (·.name)
    · exact .inl there
    · exact .inr (List.mem_map_of_mem (List.mem_filter.2 ⟨mem, decide_eq_true there⟩))

/-- Methods of distinct names are each the first of its name. -/
theorem distinct_of_nodup {seen : List String} {ms : List MethodRecord}
    (names : (ms.map (·.name)).Nodup) (fresh : ∀ m ∈ ms, m.name ∉ seen) :
    userMethods.distinct seen ms = ms := by
  induction ms generalizing seen with
  | nil => rfl
  | cons m ms ih =>
    obtain ⟨new, names⟩ := List.nodup_cons.1 names
    rw [userMethods.distinct, if_neg (fresh m List.mem_cons_self), ih names fun n mem => ?_]
    refine List.not_mem_cons_of_ne_of_not_mem (fun same => new ?_)
      (fresh n (List.mem_cons_of_mem m mem))
    exact List.mem_map.2 ⟨n, mem, same⟩

/-- The user class has the user methods and one method for each base method that is left open. -/
theorem userMethods_eq (base : (k.baseMethods.map (·.name)).Nodup) :
    userMethods k = k.userMethods ++ k.leftOpen.map defaultOverride := by
  have names : (k.leftOpen.map (·.name)).Nodup := base.sublist (List.filter_sublist.map _)
  rw [userMethods, ← Contribution.leftOpen, distinct_of_nodup names fun _ _ => List.not_mem_nil]

/-- The definitions of methods are those of the methods that have a body. -/
theorem definitions_of_mapM {l : Lineage} {className : String} {ms : List MethodRecord}
    {texts : List (Option String)} (h : ms.mapM (fun m => m.definition l className) = .ok texts) :
    List.Forall₂ (fun m text => m.definition l className = .ok (some text))
      (ms.filter (·.body.isSome)) (texts.filterMap id) := by
  induction ms generalizing texts with
  | nil =>
    cases h
    exact .nil
  | cons m ms ih =>
    rw [List.mapM_cons] at h
    obtain ⟨text, made, h⟩ := of_bind_ok h
    obtain ⟨rest, others, h⟩ := of_bind_ok h
    cases h
    cases body : m.body with
    | none =>
      obtain rfl : text = none := by
        rw [MethodRecord.definition, body] at made
        cases made
        rfl
      rw [List.filter_cons_of_neg (by rw [body]; exact Bool.false_ne_true),
        List.filterMap_cons_none rfl]
      exact ih others
    | some code =>
      obtain ⟨defined, rfl⟩ : ∃ defined, text = some defined := by
        rw [MethodRecord.definition, body] at made
        dsimp only at made
        cases rendered : code.render l 0 with
        | error fault =>
          rw [rendered] at made
          cases made
        | ok code =>
          rw [rendered] at made
          cases made
          exact ⟨_, rfl⟩
      rw [List.filter_cons_of_pos (by rw [body]; rfl), List.filterMap_cons_some (f := id) rfl]
      exact .cons made (ih others)

end Generation

/-- In the user class of a component the user methods and defaults for the methods that are left
open come together, provided that no class has two methods of one name. -/
theorem Contribution.implements_of_nodup {k : Contribution}
    (base : (k.baseMethods.map (·.name)).Nodup) (user : (k.userMethods.map (·.name)).Nodup)
    (c : ComponentId) (s : Store) :
    k.Implements c s (k.leftOpen.map Generation.defaultOverride) := by
  let defaults := k.leftOpen.map Generation.defaultOverride
  have together : Generation.userMethods k = k.userMethods ++ defaults :=
    Generation.userMethods_eq base
  have names : defaults.map (·.name) = k.leftOpen.map (·.name) := by
    rw [List.map_map]
    rfl
  have bodies : defaults.filter (·.body.isSome) = defaults := by
    refine List.filter_eq_self.2 fun m mem => ?_
    obtain ⟨n, -, rfl⟩ := List.mem_map.1 mem
    rfl
  have texts {u : Generation.UserClass} (made : Generation.userClass s c k = .ok u) :
      ∃ texts, (k.userMethods ++ defaults).mapM (·.definition s.lineage (s.interface c).basename) =
        .ok texts ∧ u = ⟨(k.userMethods ++ defaults).map (·.declaration), texts.filterMap id⟩ := by
    obtain ⟨both, made, rest⟩ := of_bind_ok made
    obtain ⟨texts, rendered, made⟩ := of_bind_ok made
    cases made
    cases rest
    rw [together] at rendered
    exact ⟨texts, rendered, by rw [together]⟩
  refine { overrides := ?_, names := ?_, declares := fun u made => ?_, defines := fun u made => ?_,
           fails := fun fault failed => ?_ }
  · exact List.forall₂_map_right_iff.2 (List.forall₂_same.2 fun m _ => ⟨⟨rfl, rfl, rfl⟩, rfl⟩)
  · rw [List.map_append, names]
    refine List.Nodup.append user (base.sublist (List.filter_sublist.map _))
      fun name there left => ?_
    obtain ⟨m, mem, rfl⟩ := List.mem_map.1 left
    exact of_decide_eq_true (Bool.and_eq_true_iff.1 (List.mem_filter.1 mem).2).2 there
  · obtain ⟨_, -, rfl⟩ := texts made
    rfl
  · obtain ⟨_, rendered, rfl⟩ := texts made
    have defined := Generation.definitions_of_mapM rendered
    rw [List.filter_append, bodies] at defined
    exact defined
  · rcases of_bind_error failed with failed | ⟨_, -, failed⟩
    · rcases of_bind_error failed with failed | ⟨_, -, failed⟩
      · rw [together] at failed
        obtain ⟨m, mem, failed⟩ := exists_of_mapM_error failed
        refine ⟨m, (List.mem_append.1 mem).resolve_right fun mem => ?_, failed⟩
        obtain ⟨n, -, rfl⟩ := List.mem_map.1 mem
        cases failed
      · cases failed
    · cases failed

/-- The methods of what is collected for a component come together from its contributions. -/
theorem ComponentId.Collects.methods {c : ComponentId} {s : Store} {implicit : Contribution}
    {members : List Contribution} {k : Contribution} (h : c.Collects s implicit members k) :
    ∃ served added, c.CollectsMethods s k served added := by
  obtain ⟨served, serves, memberBase, memberUser⟩ := Interface.served_of_forall₂ h.ofMembers
  obtain ⟨implicitBase, implicitUser⟩ := Generation.methods_of_implicitContribution h.ofFramework
  rw [Interface.filterMap_operation] at serves
  let all := c.gathered s implicit members
  have base : all.baseMethods = c.contributedBase s served := by
    simp only [all, gathered, contributedBase, Contribution.concat_eq, List.flatMap_append,
      List.flatMap_singleton, implicitBase, memberBase, addedCode, List.append_nil]
  have user : all.userMethods = c.contributedUser s served := by
    simp only [all, gathered, contributedUser, Contribution.concat_eq, List.flatMap_append,
      List.flatMap_singleton, implicitUser, memberUser, addedCode, List.append_nil, List.nil_append]
  obtain ⟨baseNames, userNames⟩ := Generation.methodNames_of_checkDuplicates h.checked
  obtain ⟨added, together, adds, names, declared⟩ :=
    Generation.withPureVirtuals_spec (i := s.interface c) baseNames userNames
  rw [base] at together adds
  rw [h.collected]
  refine ⟨served, added, serves, user, together, adds, names, userNames, declared, fun o mem => ?_⟩
  refine List.count_eq_one_of_mem names ?_
  rcases List.mem_append.1 mem with mem | mem
  · have listed : o.methodName ∈ (s.interface c).implicitMethods.map (·.name) := by
      rw [Interface.implicitMethods]
      rw [Interface.implicitOperations] at mem ⊢
      split at mem
      · cases mem
      · rename_i underived
        rw [if_neg underived, if_neg underived, List.map_map]
        exact List.mem_map.2 ⟨o, mem, rfl⟩
    rw [together, contributedBase, List.map_append, List.map_append, List.map_append]
    exact List.mem_append_left _ (List.mem_append_left _ (List.mem_append_left _ listed))
  · obtain ⟨m, mem, name⟩ := serves.exists_method mem
    rw [← name]
    cases belongs : m.inBase with
    | true =>
      refine List.mem_map_of_mem ?_
      rw [together, contributedBase]
      exact List.mem_append_left _
        (List.mem_append_left _ (List.mem_append_right _ (List.mem_filter.2 ⟨mem, belongs⟩)))
    | false =>
      refine declared m ?_
      change m ∈ all.userMethods
      rw [user]
      exact List.mem_append_left _ (List.mem_filter.2 ⟨mem, by rw [belongs]; rfl⟩)

/-- In every run, the methods of what is collected for a component come together from its
contributions, and the user class that is made from it implements what the base class leaves
open. -/
theorem collected_methods_match (files : Files.Tree) (packageMaps : List PackageMap)
    (calls : List Call) {c : ComponentId} {k : Contribution} {t : Store}
    (collected : c.collect (Call.runAll calls { files, packageMaps }) = .ok k t) :
    (∃ served added, c.CollectsMethods (Call.runAll calls { files, packageMaps }) k served added) ∧
      ∀ s, ∃ defaults, k.Implements c s defaults := by
  obtain ⟨ready, -⟩ :=
    Call.evolves_runAll (settled_of_empty rfl : declaring.holds { files, packageMaps }) calls
  obtain ⟨implicit, members, made⟩ := (c.ends_collect ready).of_ok collected
  obtain ⟨served, added, methods⟩ := made.methods
  exact ⟨⟨served, added, methods⟩,
    fun s => ⟨_, k.implements_of_nodup methods.baseNames methods.userNames c s⟩⟩

/-- A component has an operation, and an extension that asks for a method of each class, none of
them with a body. -/
def openMethods : List Call :=
  [.newProject "tasks" ⟨"/", []⟩ ⟨0⟩ none none,
    .declare (.declareComponent ⟨0⟩ "A" .framework none),
    .declare (.declareOperation ⟨0⟩ "Go" none none),
    .declare (.addExtension ⟨0⟩ ⟨"steps", fun _ _ => .ok {
      baseMethods := [{ returnType := "int", name := "step" }]
      userMethods := [{ returnType := "bool", name := "done" }] }⟩)]

/-- What is collected for the component has a base method for each of its user methods. -/
theorem collected_methods_openMethods :
    ∃ k t, ComponentId.collect ⟨0⟩ (Call.runAll openMethods {}) = .ok k t ∧
      k.baseMethods.map (·.name) = ["getModelName", "__taskgen_getTID", "step", "go", "done"] ∧
      k.userMethods.map (·.name) = ["go", "done"] ∧ k.leftOpen.map (·.name) = ["step"] ∧
      (∃ served added, ComponentId.CollectsMethods ⟨0⟩
        (Call.runAll openMethods {}) k served added) ∧
      ∀ s, ∃ defaults, k.Implements ⟨0⟩ s defaults := by
  have ends : Ends (ComponentId.collect ⟨0⟩) (Call.runAll openMethods {})
      (fun k _ => k.baseMethods.map (·.name) = ["getModelName", "__taskgen_getTID", "step", "go",
        "done"] ∧ k.userMethods.map (·.name) = ["go", "done"] ∧ k.leftOpen.map (·.name) = ["step"])
      fun _ _ => False := by
    decide +kernel
  obtain ⟨k, t, collected, base, user, left⟩ := ends.exists_ok
  exact ⟨k, t, collected, base, user, left, collected_methods_match {} [] openMethods collected⟩

end Componentry
