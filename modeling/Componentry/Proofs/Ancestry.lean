import Componentry.Proofs.FrozenModels
import Componentry.Proofs.InitialStates

/-!
# Chains of ancestors

The superclass of a component is found when the component is declared, by its name in the project,
the libraries that are used and the projects around, or given as a component. What is found was
declared before, and nothing changes it later. So no component is its own ancestor in any state of a
run: every walk from a component to its superclass and onwards ends, whether it is a loop that lists
the ancestors or a question that each component passes on to its superclass.
-/

namespace Componentry

open Declares

namespace Lineage

variable {l : Lineage} {a b c : ComponentId}

/-- Whether a component is the superclass of another one. -/
def IsSuperclass (l : Lineage) (a c : ComponentId) : Prop :=
  l.superclass? c = some a

/-- Following superclasses comes to an end. -/
theorem wellFounded_isSuperclass (l : Lineage) : WellFounded l.IsSuperclass :=
  Subrelation.wf (fun derives => superclass?_lt derives) (measure ComponentId.index).wf

/-- The ancestors are what is reached from superclass to superclass. -/
theorem mem_ancestors_iff : a ∈ l.ancestors c ↔ Relation.TransGen l.IsSuperclass a c := by
  constructor
  · intro h
    induction c using superclass_induction l with
    | base c none => simp [ancestors_of_none none] at h
    | derived c s derives ih =>
      rw [ancestors_of_superclass derives, List.mem_cons] at h
      rcases h with rfl | h
      · exact .single derives
      · exact (ih h).tail derives
  · intro h
    induction h with
    | single derives => simp [ancestors_of_superclass derives]
    | tail _ derives ih =>
      rw [ancestors_of_superclass derives]
      exact List.mem_cons_of_mem _ ih

/-- No component is its own ancestor. -/
theorem notMem_ancestors : c ∉ l.ancestors c := fun h => Nat.lt_irrefl _ (lt_of_mem_ancestors h).1

/-- Ancestors of ancestors are ancestors. -/
theorem ancestors_subset (h : b ∈ l.ancestors c) : l.ancestors b ⊆ l.ancestors c := by
  intro a ha
  rw [mem_ancestors_iff] at h ha ⊢
  exact ha.trans h

/-- No component is listed twice among the ancestors of another one. -/
theorem nodup_ancestors (l : Lineage) (c : ComponentId) : (l.ancestors c).Nodup := by
  induction c using superclass_induction l with
  | base c none => simp [ancestors_of_none none]
  | derived c s derives ih =>
    rw [ancestors_of_superclass derives, List.nodup_cons]
    exact ⟨notMem_ancestors, ih⟩

/-- There are no more ancestors than components that were declared before. -/
theorem length_ancestors_le (l : Lineage) (c : ComponentId) : (l.ancestors c).length ≤ c.index := by
  induction c using superclass_induction l with
  | base c none => simp [ancestors_of_none none]
  | derived c s derives ih =>
    have before := superclass?_lt derives
    rw [ancestors_of_superclass derives, List.length_cons]
    omega

/-- One round of the loop that lists the ancestors of a component: the component at hand is listed,
and its superclass is next. Without a component at hand the loop has ended. -/
def climb (l : Lineage) :
    List ComponentId × Option ComponentId → List ComponentId × Option ComponentId
  | (listed, some c) => (listed ++ [c], l.superclass? c)
  | (listed, none) => (listed, none)

/-- After any number of rounds, the loop has listed as many ancestors, the nearest first, and has
the next one at hand. -/
theorem iterate_climb (l : Lineage) (c : ComponentId) (n : ℕ) :
    l.climb^[n] ([], l.superclass? c) = ((l.ancestors c).take n, (l.ancestors c)[n]?) := by
  have next (n : ℕ) : (l.ancestors c)[n + 1]? = (l.ancestors c)[n]?.bind l.superclass? := by
    induction c using superclass_induction l generalizing n with
    | base c none => simp [ancestors_of_none none]
    | derived c s derives ih =>
      rw [ancestors_of_superclass derives]
      cases n with
      | zero =>
        cases above : l.superclass? s with
        | none => simp [above, ancestors_of_none above]
        | some b => simp [above, ancestors_of_superclass above]
      | succ n => simpa using ih n
  induction n with
  | zero =>
    cases above : l.superclass? c with
    | none => simp [ancestors_of_none above]
    | some s => simp [ancestors_of_superclass above]
  | succ n ih =>
    rw [Function.iterate_succ_apply', ih, next]
    cases last : (l.ancestors c)[n]? with
    | none => simp [climb, List.take_of_length_le (List.getElem?_eq_none_iff.1 last),
        List.take_of_length_le (Nat.le_succ_of_le (List.getElem?_eq_none_iff.1 last))]
    | some a => simp [climb, List.take_add_one, last]

/-- A question to a component, which is answered by its own declarations, or else passed on to its
superclass. Only so many components may be asked. -/
def askWithin (l : Lineage) (own : ComponentId → Bool) : ℕ → ComponentId → Option Bool
  | 0, _ => none
  | n + 1, c =>
    if own c then some true
    else
      match l.superclass? c with
      | some s => l.askWithin own n s
      | none => some false

/-- The question is answered by the time when the component and all its ancestors were asked. -/
theorem askWithin_eq (own : ComponentId → Bool) {n : ℕ} (enough : (l.ancestors c).length < n) :
    l.askWithin own n c = some ((c :: l.ancestors c).any own) := by
  induction n generalizing c with
  | zero => exact absurd enough (Nat.not_lt_zero _)
  | succ n ih =>
    cases derives : l.superclass? c with
    | none => cases told : own c <;> simp [askWithin, derives, told, ancestors_of_none derives]
    | some s =>
      rw [ancestors_of_superclass derives] at enough ⊢
      rw [askWithin, derives, List.any_cons]
      cases told : own c with
      | true => rfl
      | false => exact ih (Nat.lt_of_succ_lt_succ enough)

/-- The interfaces of a chain are those of the component and its ancestors. -/
theorem any_chainInterfaces (test : Interface → Bool) :
    (l.chainInterfaces c).any test = (c :: l.ancestors c).any fun a => test (l.interface a) := by
  rw [chainInterfaces, chain, List.any_map, List.any_append, List.any_reverse, List.any_cons,
    Bool.or_comm]
  simp [Function.comp_def]

/-- A component has a fixed initial state if it or one of its ancestors fixes it, or needs
configuration like one of its own ancestors. -/
theorem isFixedInitialState_eq : l.isFixedInitialState c =
    (c :: l.ancestors c).any fun a =>
    (l.interface a).fixesInitialState || l.isConfigurationRequired a := by
  rw [isFixedInitialState, any_chainInterfaces, Bool.eq_iff_iff, List.any_eq_true, List.any_eq_true]
  constructor
  · rintro ⟨a, mem, own⟩
    refine ⟨a, mem, ?_⟩
    rw [isConfigurationRequired, any_chainInterfaces, List.any_cons]
    revert own
    cases (l.interface a).fixesInitialState <;> simp +contextual
  · rintro ⟨a, mem, own⟩
    rw [Bool.or_eq_true] at own
    rcases own with fixes | required
    · exact ⟨a, mem, by rw [fixes]; rfl⟩
    · rw [isConfigurationRequired, any_chainInterfaces, List.any_eq_true] at required
      obtain ⟨b, above, needs⟩ := required
      refine ⟨b, ?_, by rw [needs, Bool.or_true]⟩
      rcases List.mem_cons.1 above with rfl | above
      · exact mem
      · rcases List.mem_cons.1 mem with rfl | mem
        · exact List.mem_cons_of_mem _ above
        · exact List.mem_cons_of_mem _ (ancestors_subset mem above)

/-- A name that is taken is reported with the nearest component that has a member of that name. -/
theorem checkUnused_eq_error {name : String} {fault : Fault}
    (h : l.checkUnused c name = .error fault) :
    ∃ before a after, c :: l.ancestors c = before ++ a :: after ∧
      name ∈ (l.interface a).memberNames ∧
      (∀ b ∈ before, name ∉ (l.interface b).memberNames) ∧
      fault = .memberTaken name (l.interface a).name := by
  unfold checkUnused at h
  split at h
  · rename_i a found
    obtain ⟨used, before, after, split, unused⟩ := List.find?_eq_some_iff_append.1 found
    refine ⟨before, a, after, split, ?_, fun b mem => ?_, (Except.error.inj h).symm⟩
    · simpa [Interface.memberNames] using used
    · simpa [Interface.memberNames] using unused b mem
  · cases h

/-- What the chain of ancestors of a component is to the operations that walk along it. -/
structure Ancestry (l : Lineage) (c : ComponentId) : Prop where
  apart : c ∉ l.ancestors c
  once : (l.ancestors c).Nodup
  reached : ∀ a, a ∈ l.ancestors c ↔ Relation.TransGen l.IsSuperclass a c
  /-- The loop that lists the ancestors has ended after as many rounds as there are ancestors, and
  not before. -/
  rounds : ∀ n, l.climb^[n] ([], l.superclass? c) = ((l.ancestors c).take n, (l.ancestors c)[n]?)
  few : (l.ancestors c).length ≤ c.index
  members : l.allMembers c =
    (l.ancestors c).reverse.flatMap (fun a => (l.interface a).members) ++ (l.interface c).members
  implements : ∀ name, l.implements c name = true ↔
    name = frameworkClass ∨ ∃ a ∈ c :: l.ancestors c, (l.interface a).name = name
  unused : ∀ name, l.checkUnused c name = .ok () ↔
    ∀ a ∈ c :: l.ancestors c, name ∉ (l.interface a).memberNames
  taken : ∀ name fault, l.checkUnused c name = .error fault →
    ∃ before a after, c :: l.ancestors c = before ++ a :: after ∧
      name ∈ (l.interface a).memberNames ∧
      (∀ b ∈ before, name ∉ (l.interface b).memberNames) ∧
      fault = .memberTaken name (l.interface a).name
  required : ∀ n, (l.ancestors c).length < n →
    l.askWithin (fun a => (l.interface a).needsConfiguration) n c =
      some (l.isConfigurationRequired c)
  fixed : ∀ n, (l.ancestors c).length < n →
    l.askWithin (fun a => (l.interface a).fixesInitialState || l.isConfigurationRequired a) n c =
      some (l.isFixedInitialState c)

/-- The ancestors of every component are those that its superclasses lead to, and all loops go over
them. -/
theorem ancestry (l : Lineage) (c : ComponentId) : l.Ancestry c where
  apart := notMem_ancestors
  once := l.nodup_ancestors c
  reached _ := mem_ancestors_iff
  rounds := l.iterate_climb c
  few := l.length_ancestors_le c
  members := by
    rw [allMembers, chainInterfaces, List.flatMap_map, chain, List.flatMap_append,
      List.flatMap_singleton]
  implements name := by
    simp only [implements, Bool.or_eq_true, beq_iff_eq, List.any_eq_true, List.mem_cons,
      exists_eq_or_imp, or_assoc]
  unused _ := checkUnused_eq_ok
  taken _ _ := checkUnused_eq_error
  required n enough := by rw [askWithin_eq _ enough, isConfigurationRequired, any_chainInterfaces]
  fixed n enough := by rw [askWithin_eq _ enough, isFixedInitialState_eq]

end Lineage

namespace Components

variable (cs : Components)

/-- The superclass in the lineage is that of the component. -/
theorem superclass?_lineage (c : ComponentId) :
    cs.lineage.superclass? c = (cs.get c).interface.superclass := by
  rw [Lineage.superclass?_eq, interface_lineage]

/-- What a component derives from stays as it is when one more is declared. -/
theorem superclass?_push {k : Component}
    (known : ∀ b, k.interface.superclass = some b → b.index < cs.items.length) (c : ComponentId) :
    (cs.push k known).lineage.superclass? c =
      if c = cs.next then k.interface.superclass else cs.lineage.superclass? c := by
  rw [superclass?_lineage, get_push, superclass?_lineage]
  split <;> rfl

end Components

namespace Evolved

variable {s t : Store}

/-- Every step keeps the components that were declared, and what they derive from. -/
theorem superclass?_eq (step : Evolved s t) :
    s.components.items.length ≤ t.components.items.length ∧
    ∀ c, c.index < s.components.items.length →
      t.lineage.superclass? c = s.lineage.superclass? c := by
  refine ⟨step.components_length, fun c made => ?_⟩
  rw [Store.lineage, Store.lineage, Components.superclass?_lineage, Components.superclass?_lineage]
  exact (step.interface_lasts made).superclass

end Evolved

/-- A component keeps its ancestors along a run. -/
theorem Evolves.ancestors_eq {s t : Store} (steps : Evolves s t) :
    s.components.items.length ≤ t.components.items.length ∧
    ∀ c, c.index < s.components.items.length →
      t.lineage.superclass? c = s.lineage.superclass? c ∧
        t.lineage.ancestors c = s.lineage.ancestors c := by
  have kept : s.components.items.length ≤ t.components.items.length ∧
      ∀ c, c.index < s.components.items.length →
        t.lineage.superclass? c = s.lineage.superclass? c := by
    induction steps with
    | refl => exact ⟨Nat.le_refl _, fun _ _ => rfl⟩
    | tail _ step ih =>
      have last := step.superclass?_eq
      exact ⟨ih.1.trans last.1, fun c made => (last.2 c (made.trans_le ih.1)).trans (ih.2 c made)⟩
  exact ⟨kept.1, fun c made => ⟨kept.2 c made, Lineage.ancestors_congr kept.2 made⟩⟩

namespace ProjectId

/-- Whether the superclass of a declaration is not there: no component of its name is found, or it
was never declared. -/
def Superclass.Missing (p : ProjectId) (s : Store) : Superclass → Prop
  | framework => False
  | given c => s.components.items.length ≤ c.index
  | named name => ∃ fault, p.findComponent name s = .error fault s

variable {p q : ProjectId} {s : Store}

/-- What is found in a project or in the libraries that its scope uses is listed in one of them. -/
theorem listed_of_findInProject {name : String} {c : ComponentId}
    (found : findInProject s q name = some c) :
    ∃ r, c ∈ (s.project r).components := by
  rw [findInProject, Option.or_eq_some_iff] at found
  rcases found with own | ⟨-, used⟩
  · exact ⟨q, List.mem_of_find?_eq_some own⟩
  · obtain ⟨library, -, listed⟩ := List.exists_of_findSome?_eq_some used
    exact ⟨library, List.mem_of_find?_eq_some listed⟩

/-- What is found by name was declared. -/
theorem ends_findComponent_declared (own : s.OwnComponents) (p : ProjectId) (name : String) :
    Ends (p.findComponent name) s (fun c _ => c.index < s.components.items.length)
      fun fault _ => p.findComponent name s = .error fault s := by
  have declared : Ends (p.findComponent name) s (fun c _ => c.index < s.components.items.length)
      fun _ t => t = s := by
    refine ends_bind.2 ?_
    simp only [ends_get]
    split
    · rename_i c found
      obtain ⟨q, -, found⟩ := List.exists_of_findSome?_eq_some found
      obtain ⟨r, listed⟩ := listed_of_findInProject found
      exact (own r c listed).1
    · exact rfl
  cases result : p.findComponent name s with
  | ok c t => exact ends_of_eq_ok result (declared.of_ok result)
  | error fault t =>
    obtain rfl : t = s := declared.of_error result
    exact ends_iff.2 (by simp [result])

/-- A component is declared unless its project is frozen, its name is taken, or its superclass is
not there. -/
theorem ends_declareComponent_refused (own : s.OwnComponents) (p : ProjectId) (name : String)
    (superclass : Superclass) (doc : Option String) :
    Ends (p.declareComponent name superclass doc) s (fun _ _ => True) fun _ _ =>
      (s.project p).frozen = true ∨
        (∃ d ∈ (s.project p).components, (s.interface d).name = (s.project p).qualify name) ∨
        superclass.Missing p s := by
  have added (base : Option ComponentId)
      (known : ∀ b, base = some b → b.index < s.components.items.length)
      {F : Fault → Store → Prop} : Ends (p.addComponent
        { name := (s.project p).qualify name, project := p, superclass := base,
          isExternal := (s.project p).isImported, doc })
        s (fun _ _ => True) F := by
    refine ends_bind.2 ?_
    simp only [ends_get, dif_pos known]
    trivial
  refine ends_bind.2 (p.ends_checkMutable.2 ⟨fun _ => ?_, fun frozen => .inl frozen⟩)
  refine ends_bind.2 (ends_ite.2 ⟨fun taken => ?_, fun _ => ?_⟩)
  · obtain ⟨d, listed, same⟩ := List.any_eq_true.1 taken
    exact .inr (.inl ⟨d, listed, by simpa using same⟩)
  · cases superclass with
    | framework => exact added none fun b none => by cases none
    | named base =>
      have found := (ends_findComponent_declared own p base).and (p.ends_findComponent base s)
      refine ends_bind.2
        (ends_map.2 (found.mono ?_ fun fault _ missing => .inr (.inr ⟨fault, missing.1⟩)))
      rintro c t ⟨made, rfl⟩
      exact added (some c) fun b same => Option.some.inj same ▸ made
    | given base =>
      by_cases made : base.index < s.components.items.length
      · exact added (some base) fun b same => Option.some.inj same ▸ made
      · exact (ends_trivial _ _).mono (fun _ _ _ => trivial) fun _ _ _ =>
          .inr (.inr (Nat.not_lt.1 made))

/-- A component derives from what its superclass stands for, which was declared before. -/
theorem ends_declareComponent_derived (own : s.OwnComponents) (p : ProjectId) (name : String)
    (superclass : Superclass) (doc : Option String) :
    Ends (p.declareComponent name superclass doc) s
      (fun c t => c = s.components.next ∧ ∃ base, superclass.Gives p s base ∧
        t.lineage.superclass? c = base ∧
        t.lineage.ancestors c = base.elim [] fun b => b :: s.lineage.ancestors b)
      fun _ t => t = s ∧ ((s.project p).frozen = true ∨
        (∃ d ∈ (s.project p).components, (s.interface d).name = (s.project p).qualify name) ∨
        superclass.Missing p s) := by
  refine ((p.ends_declareComponent_made name superclass doc s).and
    (ends_declareComponent_refused own p name superclass doc)).mono ?_ fun _ _ refused => refused
  rintro c t ⟨⟨rfl, base, known, gives, rfl⟩, -⟩
  have derives (d : ComponentId) := s.components.superclass?_push known d
  have newest : (p.withComponent _ s known).lineage.superclass? s.components.next = base :=
    (derives s.components.next).trans (if_pos rfl)
  refine ⟨rfl, base, gives, newest, ?_⟩
  cases base with
  | none => exact Lineage.ancestors_of_none newest
  | some b =>
    rw [Lineage.ancestors_of_superclass newest]
    refine congrArg (b :: ·)
      (Lineage.ancestors_congr (fun d made => (derives d).trans (if_neg ?_)) (known b rfl))
    rintro rfl
    exact Nat.lt_irrefl _ made

end ProjectId

/-- After any calls on projects, libraries, components and their members, the superclass relation is
well-founded, and every walk along the ancestors of a component ends as it should. A component that
is declared next derives from what its superclass stands for, with the ancestors of that one, and
its declaration fails only if its project is frozen, its name is taken, or its superclass is not
there. Whatever is called later, a component that was declared keeps its ancestors. -/
theorem ancestry_of_run (files : Files.Tree) (packageMaps : List PackageMap) (calls : List Call) :
    let s := Call.runAll calls { files, packageMaps }
    WellFounded s.lineage.IsSuperclass ∧ (∀ c, s.lineage.Ancestry c) ∧
      (∀ (p : ProjectId) (name : String) (superclass : ProjectId.Superclass) (doc : Option String),
        Ends (p.declareComponent name superclass doc) s
          (fun c t => c = s.components.next ∧ ∃ base, superclass.Gives p s base ∧
            t.lineage.superclass? c = base ∧
            t.lineage.ancestors c = base.elim [] fun b => b :: s.lineage.ancestors b)
          fun _ t => t = s ∧ ((s.project p).frozen = true ∨
            (∃ d ∈ (s.project p).components, (s.interface d).name = (s.project p).qualify name) ∨
            superclass.Missing p s)) ∧
      ∀ (more : List Call) (c : ComponentId), c.index < s.components.items.length →
        (Call.runAll more s).lineage.superclass? c = s.lineage.superclass? c ∧
          (Call.runAll more s).lineage.ancestors c = s.lineage.ancestors c := by
  intro s
  obtain ⟨settled, steps⟩ : declaring.holds s ∧ Evolves { files, packageMaps } s :=
    Call.evolves_runAll (settled_of_empty rfl) calls
  have own : s.OwnComponents := steps.ownComponents (.of_empty rfl)
  refine ⟨s.lineage.wellFounded_isSuperclass, s.lineage.ancestry, ?_, fun more c made => ?_⟩
  · exact fun p name superclass doc =>
      ProjectId.ends_declareComponent_derived own p name superclass doc
  · exact (Call.evolves_runAll settled more).2.ancestors_eq.2 c made

/-- A component of a project, one of a library that derives from it by its name, and one of the
project that derives from that one. -/
def acrossLibrary : List Call :=
  [.newProject "app" ⟨"/", []⟩ ⟨0⟩ none none,
    .newProject "lib" ⟨"/lib", []⟩ ⟨0⟩ (some ⟨0⟩) none,
    .declare (.declareComponent ⟨0⟩ "Base" .framework none),
    .declare (.declareComponent ⟨1⟩ "Driver" (.named "app::Base") none),
    .declare (.declareComponent ⟨0⟩ "Task" (.given ⟨1⟩) none)]

/-- The last component has both others for ancestors, the nearest first, also after members were
declared. -/
theorem ancestry_of_run_acrossLibrary :
    let s := Call.runAll acrossLibrary {}
    s.lineage.ancestors ⟨2⟩ = [⟨1⟩, ⟨0⟩] ∧
      (Call.runAll [.declare (.declareInput ⟨0⟩ "in" (.named "int") none true)] s).lineage.ancestors
      ⟨2⟩ = [⟨1⟩, ⟨0⟩] := by
  intro s
  obtain ⟨-, ancestry, -, kept⟩ := ancestry_of_run {} [] acrossLibrary
  have listed : s.lineage.climb^[2] ([], s.lineage.superclass? ⟨2⟩) = ([⟨1⟩, ⟨0⟩], none) := by
    decide +kernel
  rw [(ancestry ⟨2⟩).rounds 2, Prod.mk.injEq, List.getElem?_eq_none_iff] at listed
  have ancestors : s.lineage.ancestors ⟨2⟩ = [⟨1⟩, ⟨0⟩] := by
    rw [← listed.1, List.take_of_length_le listed.2]
  exact ⟨ancestors, (kept _ ⟨2⟩ (by decide +kernel)).2.trans ancestors⟩

end Componentry
