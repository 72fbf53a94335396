import Componentry.Proofs.ComponentLoads
import Componentry.Proofs.MemberNames

/-!
# Distinct member names along runs

The name of a member that is declared is looked for in its component and the ancestors, not in the
components that derive from that one. So the names along the chains of ancestors stay distinct in a
run as long as no member is declared under a name that a deriving component has, and no longer. A
description is replayed in a component that was just declared, from which nothing derives yet.
-/

namespace Componentry

open Declares

/-- Whether imports of typekits are settled and the names of members are distinct along all chains
of ancestors. -/
def Store.Distinct (s : Store) : Prop :=
  declaring.holds s ∧ s.lineage.DistinctNames

/-- Whether components differ from others in one member that one of them declared last, under a name
that was new there and in the ancestors. -/
def Components.Joined (c : ComponentId) (name : String) (cs ds : Components) : Prop :=
  cs.lineage.checkUnused c name = .ok () ∧ ∃ m : Member, m.name = name ∧
    (∀ n doc, m ≠ .plain n doc) ∧
    ds = cs.modify c fun k => { k with interface := k.interface.withMember m }

/-- Names are distinct after a member was declared if they were before, and no component that
derives from that of the member had its name. -/
theorem Components.Joined.distinctNames_iff {c : ComponentId} {name : String} {cs ds : Components}
    (h : Joined c name cs ds) :
    ds.lineage.DistinctNames ↔ cs.lineage.DistinctNames ∧ cs.lineage.Unclaimed c (· = name) := by
  obtain ⟨unused, m, rfl, declarable, rfl⟩ := h
  exact cs.distinctNames_withMember c declarable unused

/-- Declarations of types leave the names of members distinct. -/
theorem Work.keeps_distinct_of_typing {α : Type} {R : Fault → Prop} {x : Work α}
    (hx : typing.Covers x) :
    Keeps Store.Distinct R x fun _ _ => True :=
  Work.keeps_of_typing hx fun cs => cs.lineage.DistinctNames

/-- How the declaration of a member may end: a member has joined those of a component, or nothing is
declared. -/
def ComponentId.DeclaresMember (c : ComponentId) (name : String) {α : Type} (x : Work α) : Prop :=
  ∀ s, declaring.holds s → Ends x s (fun _ t => Components.Joined c name s.components t.components)
    fun _ t => t.components = s.components

namespace ComponentId.DeclaresMember

variable {c : ComponentId} {name : String}

/-- A member is declared after its name was checked and its type was looked up. -/
theorem checked {γ δ : Type} {lookup : Work δ} (typing : typing.Covers lookup) {m : δ → Member}
    (hm : ∀ b, (m b).name = name ∧ ∀ n doc, m b ≠ .plain n doc) {f : δ → Interface → Interface}
    (hf : ∀ b i, f b i = i.withMember (m b)) (result : δ → γ) :
    c.DeclaresMember name (do
      c.checkDeclarable name
      let b ← lookup
      Work.modifyInterface c (f b)
      return result b) := by
  intro s hs
  refine ends_bind.2 ((c.ends_checkDeclarable name s).mono ?_ ?_)
  · rintro - _ ⟨rfl, -, unused⟩
    refine ends_bind.2 ((typing _ hs).mono ?_ fun _ _ ⟨_, looked, _⟩ => looked.2)
    rintro b t ⟨-, looked⟩
    have same : f b = fun i => i.withMember (m b) := funext (hf b)
    rw [same, ← looked.2]
    rw [Store.lineage, ← looked.2] at unused
    exact ⟨unused, m b, (hm b).1, (hm b).2, rfl⟩
  · rintro _ t ⟨rfl, -⟩
    rfl

/-- A member is declared whose types were looked up before. -/
theorem atOnce {γ : Type} {m : Member} (hm : m.name = name ∧ ∀ n doc, m ≠ .plain n doc)
    {f : Interface → Interface} (hf : ∀ i, f i = i.withMember m) (result : γ) :
    c.DeclaresMember name (do
      c.checkDeclarable name
      Work.modifyInterface c f
      return result) := by
  have nothing : typing.Covers (pure () : Work Unit) := Effect.covers_pure ()
  exact checked nothing (m := fun _ => m) (fun _ => hm) (f := fun _ => f) (fun _ => hf)
    fun _ => result

/-- A type is looked up before. -/
theorem after {γ δ : Type} {lookup : Work δ} (typing : typing.Covers lookup) {x : δ → Work γ}
    (h : ∀ b, c.DeclaresMember name (x b)) : c.DeclaresMember name (lookup >>= x) := by
  intro s hs
  refine ends_bind.2 ((typing s hs).mono ?_ fun _ _ ⟨_, looked, _⟩ => looked.2)
  rintro b t ⟨ht, looked⟩
  have later := h b t ht
  rwa [looked.2] at later

/-- A result may be put through a function. -/
theorem map {α β : Type} {f : α → β} {x : Work α} (h : c.DeclaresMember name x) :
    c.DeclaresMember name (f <$> x) :=
  fun s hs => ends_map.2 (h s hs)

end ComponentId.DeclaresMember

namespace Declaration

/-- The component in which a call declares a member, and the name of the member. -/
def member? : Declaration → Option (ComponentId × String)
  | declareInput c name .. | declareOutput c name .. | declareDynamic c _ name ..
  | declareProperty c name ..
  | declareAttribute c name .. | declareOperation c name .. | declareHiddenOperation c name .. =>
    some (c, name)
  | _ => none

/-- A call that declares a member ends accordingly. -/
theorem declaresMember_run {d : Declaration} {c : ComponentId} {name : String}
    (h : d.member? = some (c, name)) :
    c.DeclaresMember name d.run := by
  have port (p : Port) (static : p.isDynamic = false) : c.DeclaresMember p.name (c.addPort p) :=
    .atOnce (m := .port p) ⟨rfl, by simp⟩ (fun i => by simp [Interface.withMember, static]) p
  have operation (o : Operation) : c.DeclaresMember o.name (c.addOperation o) :=
    .atOnce (m := .operation o) ⟨rfl, by simp⟩ (fun _ => rfl) (OperationRef.owned c o.name)
  cases d with
  | declareInput c' name' type doc clearOnStart =>
    obtain ⟨rfl, rfl⟩ : c' = c ∧ name' = name := by simpa [member?] using h
    exact .map (.after (c'.typing_toplevelType type) fun _ => port _ rfl)
  | declareOutput c' name' type doc keep =>
    obtain ⟨rfl, rfl⟩ : c' = c ∧ name' = name := by simpa [member?] using h
    refine .map (.after (c'.typing_toplevelType type) fun _ => .after ?_ fun _ => port _ rfl)
    exact Work.typing_of_offline (Work.offline_ofExcept (Retention.cycleFree_ofScalar keep))
  | declareDynamic c' direction name' type doc =>
    obtain ⟨rfl, rfl⟩ : c' = c ∧ name' = name := by simpa [member?] using h
    cases type with
    | none =>
      exact .map
        (.atOnce (m := .port { name := name', doc, direction, typeName := none, isDynamic := true })
        ⟨rfl, by simp⟩ (fun _ => rfl) _)
    | some type =>
      exact .map (.checked (Effect.Covers.map (c'.typing_toplevelType type))
        (m := fun typeName => .port { name := name', doc, direction, typeName, isDynamic := true })
        (fun _ => ⟨rfl, by simp⟩) (fun _ _ => rfl) _)
  | declareProperty c' name' type default doc =>
    obtain ⟨rfl, rfl⟩ : c' = c ∧ name' = name := by simpa [member?] using h
    exact .map (.checked (c'.typing_toplevelType type)
      (m := fun typeName => .property { name := name', doc, typeName, default })
      (fun _ => ⟨rfl, by simp⟩) (fun _ _ => rfl) _)
  | declareAttribute c' name' type default doc =>
    obtain ⟨rfl, rfl⟩ : c' = c ∧ name' = name := by simpa [member?] using h
    exact .map (.checked (c'.typing_toplevelType type)
      (m := fun typeName => .attribute { name := name', doc, typeName, default })
      (fun _ => ⟨rfl, by simp⟩) (fun _ _ => rfl) _)
  | declareOperation c' name' doc methodName
  | declareHiddenOperation c' name' body doc methodName =>
    obtain ⟨rfl, rfl⟩ : c' = c ∧ name' = name := by simpa [member?] using h
    exact .map (operation _)
  | _ => cases h

/-- A call that declares no member keeps names distinct. -/
theorem keeps_distinct {d : Declaration} (h : d.member? = none) :
    Keeps Store.Distinct (fun _ => True) d.run fun _ _ => True := by
  have upheld {c : ComponentId} {α : Type} {x : Work α}
      (hx : Keeps (c.Named fun _ => False) (fun _ => True) x fun _ _ => True) :
      Keeps Store.Distinct (fun _ => True) x fun _ _ => True := by
    refine fun s hs => (hx s ⟨hs.1, hs.2, fun _ _ _ _ => id⟩).mono ?_ ?_
    · exact fun _ t ⟨⟨settled, distinct, _⟩, _⟩ => ⟨⟨settled, distinct⟩, trivial⟩
    · exact fun _ t named recovered => ⟨(named recovered).1, (named recovered).2.1⟩
  have none (c : ComponentId) := c.upheld_named fun _ => False
  have discarded {α : Type} {x : Work α}
      (hx : Keeps Store.Distinct (fun _ => True) x fun _ _ => True) :
      Keeps Store.Distinct (fun _ => True) (discard x) fun _ _ => True :=
        hx.map fun _ _ _ => trivial
  have owner (r : OperationRef) : ∃ c, r.In c := by
    cases r with
    | owned c name => exact ⟨c, rfl⟩
    | free index => exact ⟨⟨0⟩, trivial⟩
  cases d with
  | declareComponent p name superclass doc =>
    refine discarded fun s hs => ?_
    refine ((p.declaring_declareComponent name superclass doc s hs.1).and
      (p.ends_declareComponent name superclass doc s)).mono ?_ ?_
    · rintro c _ ⟨⟨settled, -⟩, -, k, hk, -, bare, rfl⟩
      exact ⟨⟨settled, s.components.distinctNames_push hk bare hs.2⟩, trivial⟩
    · rintro _ _ ⟨-, rfl⟩ -
      exact hs
  | findComponent p name => exact discarded (p.keeps_findComponent name)
  | portDriven c names => exact upheld ((none c).portDriven names)
  | fixInitialState c => exact upheld (none c).fixInitialState
  | needConfiguration c => exact upheld (none c).needConfiguration
  | addHookCode c hook code => exact upheld ((none c).addHookCode hook code)
  | addHeaderCode c snippet => exact upheld ((none c).addHeaderCode snippet)
  | addImplementationCode c snippet => exact upheld ((none c).addImplementationCode snippet)
  | addHandler c handler => exact upheld ((none c).addHandler handler)
  | addExtension c extension => exact upheld ((none c).addExtension extension)
  | pointerType c pointer type =>
    have lookup : c.Finds (c.Named fun _ => False) (fun _ => True) (fun _ _ => True) type :=
      (ComponentId.keeps_named_of_typing (c.typing_findType type)).mono (fun _ _ _ h => h)
        fun _ => id
    exact upheld (((none c).pointerType pointer lookup).map fun _ _ _ => trivial)
  | newOperation o => exact discarded fun s hs => ⟨hs, trivial⟩
  | addArgument r name type doc =>
    obtain ⟨c, hr⟩ := owner r
    exact upheld ((none c).addArgument hr name type doc)
  | setReturn r type =>
    obtain ⟨c, hr⟩ := owner r
    exact upheld ((none c).setReturn hr type)
  | runInCallerThread r | setHidden r hidden | setBody r body =>
    obtain ⟨c, hr⟩ := owner r
    exact upheld ((none c).update hr fun _ => ⟨rfl, rfl⟩)
  | declareInput | declareOutput | declareDynamic | declareProperty | declareAttribute
  | declareOperation | declareHiddenOperation => cases h
  | _ => exact Work.keeps_distinct_of_typing (typing_run rfl)

end Declaration

/-- The replay of a component keeps names distinct, as nothing derives from the component yet. -/
theorem ProjectId.keeps_distinct_replayComponent (p : ProjectId) (d : Description.Component) :
    Keeps Store.Distinct (fun _ => True) (p.replayComponent d) fun _ _ => True := by
  intro s hs
  refine ends_bind.2
    (((p.declaring_declareComponent _ _ _ s hs.1).and (p.ends_declareComponent _ _ _ s)).mono ?_ ?_)
  · rintro c _ ⟨⟨settled, -⟩, rfl, k, hk, -, bare, rfl⟩
    have named : s.components.next.Named (fun _ => True) (p.withComponent k s hk) :=
      ⟨settled, s.components.distinctNames_push hk bare hs.2, s.components.unclaimed_push hk _⟩
    refine ((ComponentId.upheld_named _ _).replay (fun _ => trivial) d _ named).mono ?_ ?_
    · exact fun _ _ ⟨⟨ht, distinct, _⟩, _⟩ => ⟨⟨ht, distinct⟩, trivial⟩
    · exact fun _ _ h _ => ⟨(h trivial).1, (h trivial).2.1⟩
  · rintro _ _ ⟨-, rfl⟩ -
    exact hs

/-- A call that declares no member keeps names distinct. -/
theorem Call.keeps_distinct {call : Call} (h : ∀ d, call = .declare d → d.member? = none) :
    Keeps Store.Distinct (fun _ => True) call.run fun _ _ => True :=
  Call.keeps_of_replays (P := fun cs => cs.lineage.DistinctNames)
    ProjectId.keeps_distinct_replayComponent fun d same => d.keeps_distinct (h d same)

/-- Whether a call, if it declares a member in a state, does so under a name that no component has
that derives from that of the member. -/
def Call.Apart (call : Call) (s : Store) : Prop :=
  ∀ d c name, call = .declare d → d.member? = some (c, name) → (∃ t, d.run s = .ok () t) →
    s.lineage.Unclaimed c (· = name)

/-- Names stay distinct in a call exactly if it declares no member under a name that a deriving
component has. -/
theorem Call.distinct_after_iff {s : Store} (hs : s.Distinct) (call : Call) :
    (call.run.after s).Distinct ↔ call.Apart s := by
  by_cases h : ∀ d, call = .declare d → d.member? = none
  · have kept : Ends call.run s (fun _ t => t.Distinct) fun _ t => t.Distinct :=
      (Call.keeps_distinct h s hs).mono (fun _ _ h => h.1) fun _ _ h => h trivial
    refine iff_of_true (Work.after_of_ends kept) fun d c name same member => ?_
    rw [h d same] at member
    cases member
  · obtain ⟨d, hd⟩ := not_forall.1 h
    obtain ⟨rfl, declares⟩ := Classical.not_imp.1 hd
    obtain ⟨⟨c, name⟩, member⟩ := Option.ne_none_iff_exists'.1 declares
    have ends := (d.declaresMember_run member s hs.1).and (d.covers_run s hs.1)
    have unclaimed : Call.Apart (.declare d) s ↔
        ((∃ t, d.run s = .ok () t) → s.lineage.Unclaimed c (· = name)) := by
      refine ⟨fun h => h d c name rfl member, fun h d' c' name' same member' => ?_⟩
      obtain rfl : d = d' := by cases same; rfl
      obtain ⟨rfl, rfl⟩ : c = c' ∧ name = name' := by simpa [member] using member'
      exact h
    rw [unclaimed]
    change ((d.run).after s).Distinct ↔ _
    cases run : d.run s with
    | ok u t =>
      obtain ⟨joined, settled, -⟩ := ends.of_ok run
      have after : (d.run).after s = t := by rw [Work.after, run]
      have names : t.lineage.DistinctNames ↔ _ := joined.distinctNames_iff
      rw [after, Store.Distinct, names, and_iff_right settled,
        and_iff_right (show s.components.lineage.DistinctNames from hs.2)]
      exact ⟨fun h _ => h, fun h => h ⟨t, rfl⟩⟩
    | error fault t =>
      obtain ⟨same, settled, -⟩ := ends.of_error run
      have after : (d.run).after s = t := by rw [Work.after, run]
      rw [after, Store.Distinct, Store.lineage, same]
      refine iff_of_true ⟨settled, hs.2⟩ ?_
      rintro ⟨_, ran⟩
      cases ran

/-- In a run on any projects, the names of all members of a component and its ancestors stay
distinct exactly as long as no member is declared under a name that a component has that derives
from that of the member. -/
theorem memberNames_distinct_iff (files : Files.Tree) (packageMaps : List PackageMap)
    (calls : List Call) :
    let start : Store := { files, packageMaps }
    (∀ before, before <+: calls →
      ∀ c, (((Call.runAll before start).lineage.allMembers c).map (·.name)).Nodup) ↔
      ∀ before call after, calls = before ++ call :: after →
        call.Apart (Call.runAll before start) := by
  intro start
  have settled : declaring.holds start := settled_of_empty rfl
  have bare (c : ComponentId) : start.lineage.interface c = default := rfl
  have distinct : start.Distinct := by
    refine ⟨settled, Lineage.distinctNames_iff.2 fun c => ?_⟩
    simp [bare, Interface.memberNames, Interface.members, default]
  have step (call : Call) (s : Store) (hs : s.Distinct) := Call.distinct_after_iff hs call
  refine Iff.trans (forall₂_congr fun before _ => ?_) (Call.forall_prefix_iff step distinct calls)
  exact (and_iff_right (Call.evolves_runAll settled before).1).symm

/-- A component is declared, and one that derives from it. An attribute is declared in the second
one first. -/
def parentLast : List Call :=
  [.newProject "tasks" ⟨"/", []⟩ ⟨0⟩ none none,
    .declare (.declareComponent ⟨0⟩ "A" .framework none),
    .declare (.declareComponent ⟨0⟩ "B" (.given ⟨0⟩) none),
    .declare (.declareAttribute ⟨1⟩ "gain" (.named "double") .null none),
    .declare (.declareAttribute ⟨0⟩ "gain" (.named "double") .null none)]

/-- The name of the second attribute is taken below, and both are accepted. -/
theorem memberNames_distinct_parentLast :
    ((Call.runAll parentLast {}).lineage.allMembers ⟨1⟩).map (·.name) = ["gain", "gain"] ∧
      ¬∀ before call after, parentLast = before ++ call :: after →
        call.Apart (Call.runAll before {}) := by
  have derives : (Call.runAll parentLast {}).lineage.superclass? ⟨1⟩ = some ⟨0⟩ := by decide +kernel
  have base : (Call.runAll parentLast {}).lineage.superclass? ⟨0⟩ = none := by decide +kernel
  have names :
      ((Call.runAll parentLast {}).lineage.allMembers ⟨1⟩).map (·.name) = ["gain", "gain"] := by
    rw [Lineage.names_allMembers, Lineage.ancestors_of_superclass derives,
      Lineage.ancestors_of_none base]
    decide +kernel
  refine ⟨names, fun apart => ?_⟩
  have distinct :=
    (memberNames_distinct_iff {} [] parentLast).2 apart parentLast (List.prefix_refl _) ⟨1⟩
  rw [names] at distinct
  simp at distinct

end Componentry
