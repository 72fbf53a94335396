import Componentry.Proofs.MemberDeclarations

/-!
# Member names along the chains of ancestors

The names of the members of a component and of those it derives from are distinct if each component
declares distinct names and none of a name that one of its ancestors declares. A member that is
declared under a name that is new in its component and the ancestors keeps this so exactly if no
component that derives from that one declares the name itself.
-/

namespace Componentry

open Declares

namespace Lineage

variable {l l' : Lineage} {c : ComponentId}

/-- Whether no two members of a component and of those it derives from have the same name. -/
def DistinctNames (l : Lineage) : Prop :=
  ∀ c, ((l.allMembers c).map (·.name)).Nodup

/-- Whether no component that derives from a component declares a name of a kind itself. -/
def Unclaimed (l : Lineage) (c : ComponentId) (named : String → Prop) : Prop :=
  ∀ d, c ∈ l.ancestors d → ∀ name ∈ (l.interface d).memberNames, ¬named name

/-- The ancestors of a component are the superclass and its ancestors. -/
theorem ancestors_of_superclass {s : ComponentId} (h : l.superclass? c = some s) :
    l.ancestors c = s :: l.ancestors s := by
  rw [ancestors]
  split
  · rename_i s' h'
    obtain rfl : s' = s := Option.some.inj (h'.symm.trans h)
    rfl
  · rename_i h'
    rw [h] at h'
    cases h'

/-- A component without a superclass has no ancestors. -/
theorem ancestors_of_none (h : l.superclass? c = none) : l.ancestors c = [] := by
  rw [ancestors]
  split
  · rename_i h'
    rw [h] at h'
    cases h'
  · rfl

/-- What holds of a component without superclass, and of a component if it holds of the superclass,
holds of all. -/
@[elab_as_elim]
theorem superclass_induction (l : Lineage) {motive : ComponentId → Prop}
    (base : ∀ c, l.superclass? c = none → motive c)
    (derived : ∀ c s, l.superclass? c = some s → motive s → motive c) (c : ComponentId) :
    motive c := by
  induction hn : c.index using Nat.strongRecOn generalizing c with
  | ind n ih =>
    cases h : l.superclass? c with
    | none => exact base c h
    | some s => exact derived c s h (ih s.index (hn ▸ superclass?_lt h) s rfl)

/-- Ancestors were declared before. -/
theorem lt_of_mem_ancestors {a : ComponentId} (h : a ∈ l.ancestors c) :
    a.index < c.index ∧ c.index < l.interfaces.length := by
  induction c using superclass_induction l with
  | base c hc => simp [ancestors_of_none hc] at h
  | derived c s hc ih =>
    have before := superclass?_lt hc
    have made : c.index < l.interfaces.length := by
      obtain ⟨i, hi, -⟩ := Option.bind_eq_some_iff.1 hc
      exact (List.getElem?_eq_some_iff.1 hi).1
    rw [ancestors_of_superclass hc, List.mem_cons] at h
    rcases h with rfl | h
    · exact ⟨before, made⟩
    · exact ⟨(ih h).1.trans before, made⟩

/-- Components that derive from the same ones have the same ancestors. -/
theorem ancestors_congr {n : Nat}
    (h : ∀ d : ComponentId, d.index < n → l'.superclass? d = l.superclass? d) (hc : c.index < n) :
    l'.ancestors c = l.ancestors c := by
  induction c using superclass_induction l with
  | base c hs => rw [ancestors_of_none hs, ancestors_of_none ((h c hc).trans hs)]
  | derived c s hs ih =>
    rw [ancestors_of_superclass hs, ancestors_of_superclass ((h c hc).trans hs),
      ih ((superclass?_lt hs).trans hc)]

/-- The names along the chain of a component are those of its ancestors, and then its own. -/
theorem names_allMembers (l : Lineage) (c : ComponentId) : (l.allMembers c).map (·.name) =
    ((l.ancestors c).reverse.flatMap fun a => (l.interface a).memberNames) ++
    (l.interface c).memberNames := by
  rw [allMembers, chainInterfaces, List.flatMap_map, List.map_flatMap, chain, List.flatMap_append,
    List.flatMap_singleton]
  rfl

/-- Names are distinct along all chains if no component takes a name that it or an ancestor has
declared. -/
theorem distinctNames_iff : l.DistinctNames ↔ ∀ c, (l.interface c).memberNames.Nodup ∧
    ∀ a ∈ l.ancestors c, ∀ name ∈ (l.interface a).memberNames,
      name ∉ (l.interface c).memberNames := by
  have apart (c : ComponentId) : ((l.allMembers c).map (·.name)).Nodup ↔
      ((l.ancestors c).reverse.flatMap fun a => (l.interface a).memberNames).Nodup ∧
      (l.interface c).memberNames.Nodup ∧
        ∀ a ∈ l.ancestors c, ∀ name ∈ (l.interface a).memberNames,
          name ∉ (l.interface c).memberNames := by
    rw [names_allMembers, List.nodup_append]
    simp only [List.mem_flatMap, List.mem_reverse]
    grind
  constructor
  · intro h c
    exact ((apart c).1 (h c)).2
  · intro h c
    induction c using superclass_induction l with
    | base c hs => exact (apart c).2 ⟨by simp [ancestors_of_none hs], h c⟩
    | derived c s hs names =>
      refine (apart c).2 ⟨?_, h c⟩
      rw [names_allMembers] at names
      rw [ancestors_of_superclass hs, List.reverse_cons, List.flatMap_append]
      simpa using names

/-- A member has a name that is new in its component and the ancestors. -/
theorem checkUnused_eq_ok {name : String} : l.checkUnused c name = .ok () ↔
    ∀ a ∈ c :: l.ancestors c, name ∉ (l.interface a).memberNames := by
  unfold checkUnused
  split
  · rename_i a found
    have used := List.find?_some found
    have mem := List.mem_of_find?_eq_some found
    refine ⟨nofun, fun h => absurd ?_ (h a mem)⟩
    simpa [Interface.memberNames] using used
  · rename_i none
    refine ⟨fun _ a ha => ?_, fun _ => rfl⟩
    simpa [Interface.memberNames] using List.find?_eq_none.1 none a ha

end Lineage

namespace Components

variable (cs : Components) (c d : ComponentId)

/-- The interface in the lineage is that of the component. -/
theorem interface_lineage : cs.lineage.interface c = (cs.get c).interface := by
  rw [Lineage.interface, Lineage.interface?, lineage, get, List.getElem?_map]
  cases cs.items[c.index]? <;> rfl

/-- What a component derives from is never changed. -/
theorem superclass?_modify (f : Component → Component) :
    (cs.modify c f).lineage.superclass? d = cs.lineage.superclass? d := by
  simp only [Lineage.superclass?, Lineage.interface?, lineage, modify, List.getElem?_map,
    List.getElem?_modify]
  cases cs.items[d.index]? with
  | none => rfl
  | some k => by_cases h : c.index = d.index <;> simp [h]

/-- A change of a component leaves all ancestors as they are. -/
@[simp] theorem ancestors_modify (f : Component → Component) :
    (cs.modify c f).lineage.ancestors d = cs.lineage.ancestors d :=
  Lineage.ancestors_congr (fun e _ => cs.superclass?_modify c e f) (Nat.lt_succ_self d.index)

/-- The names of the members of the component that was changed. -/
theorem memberNames_modify (f : Component → Component) :
    ((cs.modify c f).lineage.interface d).memberNames =
    if c.index = d.index ∧ d.index < cs.items.length then (f (cs.get d)).interface.memberNames
    else (cs.lineage.interface d).memberNames := by
  have same : d = c ∧ c.index < cs.items.length ↔
      c.index = d.index ∧ d.index < cs.items.length := by
    cases c
    cases d
    simp only [ComponentId.mk.injEq]
    omega
  rw [interface_lineage, interface_lineage, get_modify, if_congr same rfl rfl]
  split <;> rfl

/-- Components that keep the names of their members keep them distinct. -/
theorem names_modify_of_same {f : Component → Component}
    (same : ∀ k : Component, (f k).interface.memberNames = k.interface.memberNames) :
    ((cs.modify c f).lineage.interface d).memberNames = (cs.lineage.interface d).memberNames := by
  rw [memberNames_modify, same, interface_lineage]
  split <;> rfl

/-- A change that leaves the names of members leaves them as distinct as they are. -/
theorem distinctNames_modify_of_same {f : Component → Component}
    (same : ∀ k : Component, (f k).interface.memberNames = k.interface.memberNames) :
    (cs.modify c f).lineage.DistinctNames ↔ cs.lineage.DistinctNames := by
  simp only [Lineage.distinctNames_iff, ancestors_modify, cs.names_modify_of_same c _ same]

/-- A change that leaves the names of members claims none. -/
theorem unclaimed_modify_of_same {f : Component → Component}
    (same : ∀ k : Component, (f k).interface.memberNames = k.interface.memberNames)
    (named : String → Prop) :
    (cs.modify c f).lineage.Unclaimed d named ↔ cs.lineage.Unclaimed d named := by
  simp only [Lineage.Unclaimed, ancestors_modify, cs.names_modify_of_same c _ same]

/-- The names of the members after one more was declared. -/
theorem mem_names_withMember {m : Member} (declarable : ∀ name doc, m ≠ .plain name doc)
    (made : c.index < cs.items.length) (name : String) :
    name ∈ ((cs.modify c
      fun k => { k with interface := k.interface.withMember m }).lineage.interface d).memberNames ↔
      c = d ∧ name = m.name ∨ name ∈ (cs.lineage.interface d).memberNames := by
  rw [memberNames_modify, interface_lineage]
  have same : c.index = d.index ↔ c = d := by cases c; cases d; simp
  split
  · rename_i h
    have added := ((cs.get d).interface.members_withMember m declarable).map (·.name)
    rw [Interface.memberNames, added.mem_iff]
    simp [same.1 h.1, Interface.memberNames]
  · rename_i h
    grind

/-- A member whose name is new in its component keeps the names of that component distinct. -/
theorem nodup_withMember {m : Member} (unused : cs.lineage.checkUnused c m.name = .ok ()) :
    ((cs.modify c fun k => { k with interface := k.interface.withMember m }).lineage.interface
      d).memberNames.Nodup ↔ (cs.lineage.interface d).memberNames.Nodup := by
  rw [memberNames_modify, interface_lineage]
  split
  · rename_i h
    obtain rfl : c = d := by cases c; cases d; simpa using h.1
    have new := Lineage.checkUnused_eq_ok.1 unused c List.mem_cons_self
    rw [interface_lineage] at new
    by_cases declarable : ∀ name doc, m ≠ .plain name doc
    · have added := ((cs.get c).interface.members_withMember m declarable).map (·.name)
      rw [Interface.memberNames, added.nodup_iff, List.map_cons, List.nodup_cons]
      exact and_iff_right new
    · push Not at declarable
      obtain ⟨name, doc, rfl⟩ := declarable
      exact Iff.rfl
  · rfl

/-- A member whose name is new in its component and the ancestors keeps names distinct exactly if no
component that derives from that one declares the name. -/
theorem distinctNames_withMember {m : Member} (declarable : ∀ name doc, m ≠ .plain name doc)
    (unused : cs.lineage.checkUnused c m.name = .ok ()) :
    (cs.modify c fun k => { k with interface := k.interface.withMember m }).lineage.DistinctNames ↔
      cs.lineage.DistinctNames ∧ cs.lineage.Unclaimed c (· = m.name) := by
  have nodup (d : ComponentId) := cs.nodup_withMember c d unused
  rw [Lineage.checkUnused_eq_ok] at unused
  by_cases made : c.index < cs.items.length
  · have irreflexive : c ∉ cs.lineage.ancestors c :=
      fun h => Nat.lt_irrefl _ (Lineage.lt_of_mem_ancestors h).1
    simp only [Lineage.distinctNames_iff, nodup, ancestors_modify,
      cs.mem_names_withMember c _ declarable made, Lineage.Unclaimed]
    grind
  · have same (d : ComponentId) :
        ((cs.modify c fun k => { k with interface := k.interface.withMember m }).lineage.interface
        d).memberNames = (cs.lineage.interface d).memberNames := by
      rw [memberNames_modify, if_neg]
      exact fun ⟨same, hd⟩ => made (same ▸ hd)
    have underived : cs.lineage.Unclaimed c (· = m.name) := by
      intro d derives
      have := Lineage.lt_of_mem_ancestors derives
      rw [lineage, List.length_map] at this
      omega
    simp only [Lineage.distinctNames_iff, ancestors_modify, same]
    grind [Lineage.distinctNames_iff]

/-- No component that derives from the changed one declares further names. -/
theorem unclaimed_withMember {m : Member} {named : String → Prop}
    (h : cs.lineage.Unclaimed c named) :
    (cs.modify c fun k => { k with interface := k.interface.withMember m }).lineage.Unclaimed c
      named := by
  intro d derives name declared
  rw [ancestors_modify] at derives
  have := Lineage.lt_of_mem_ancestors derives
  rw [memberNames_modify, if_neg (by omega)] at declared
  exact h d derives name declared

section Push

variable {k : Component} (hk : ∀ s, k.interface.superclass = some s → s.index < cs.items.length)

/-- A component without members is the newest. -/
theorem distinctNames_push (bare : k.interface.members = []) (h : cs.lineage.DistinctNames) :
    (cs.push k hk).lineage.DistinctNames := by
  rw [Lineage.distinctNames_iff] at h ⊢
  intro d
  have older (e : ComponentId) (he : e.index < cs.items.length) :
      (cs.push k hk).get e = cs.get e := by
    rw [get, get, push, List.getElem?_append_left he]
  by_cases hd : d.index < cs.items.length
  · have line (e : ComponentId) (he : e.index < cs.items.length) :
        (cs.push k hk).lineage.superclass? e = cs.lineage.superclass? e := by
      simp only [Lineage.superclass?, Lineage.interface?, lineage, push, List.getElem?_map,
        List.getElem?_append_left he]
    rw [Lineage.ancestors_congr line hd, interface_lineage, older d hd, ← interface_lineage]
    refine ⟨(h d).1, fun a ha => ?_⟩
    rw [interface_lineage, older a (Nat.lt_trans (Lineage.lt_of_mem_ancestors ha).1 hd),
      ← interface_lineage]
    exact (h d).2 a ha
  · have none : ((cs.push k hk).lineage.interface d).memberNames = [] := by
      rw [interface_lineage, get, push, List.getElem?_append_right (Nat.not_lt.1 hd)]
      cases d.index - cs.items.length with
      | zero => simp [Interface.memberNames, bare]
      | succ n => rfl
    simp [none]

/-- Nothing derives from the newest component. -/
theorem unclaimed_push (named : String → Prop) :
    (cs.push k hk).lineage.Unclaimed cs.next named := by
  intro d derives
  have := Lineage.lt_of_mem_ancestors derives
  rw [lineage, push, List.length_map, List.length_append, next] at this
  simp only [List.length_singleton] at this
  omega

end Push

end Components

/-- Whether imports of typekits are settled, names are distinct along all chains, and no component
that derives from a given one declares a name of a kind. -/
def ComponentId.Named (c : ComponentId) (named : String → Prop) (s : Store) : Prop :=
  declaring.holds s ∧ s.lineage.DistinctNames ∧ s.lineage.Unclaimed c named

/-- Declarations of types leave the names of members as they are. -/
theorem ComponentId.keeps_named_of_typing {c : ComponentId} {named : String → Prop} {α : Type}
    {R : Fault → Prop} {x : Work α} (hx : typing.Covers x) :
    Keeps (c.Named named) R x fun _ _ => True :=
  Work.keeps_of_typing hx fun cs => cs.lineage.DistinctNames ∧ cs.lineage.Unclaimed c named

/-- Declarations in a component keep names distinct as long as the names that its members get are
not taken by components that derive from it. -/
theorem ComponentId.upheld_named (c : ComponentId) (named : String → Prop) :
    Upheld c (c.Named named) (fun _ => True) (fun _ _ => True) named where
  settled _ hs := hs.1
  finds name := (keeps_named_of_typing (c.typing_findType (.named name))).mono (fun _ _ _ h => h)
    fun _ => id
  pointer s name target header hs := by
    have kept : Keeps (c.Named named) (fun _ => True) _ fun _ _ => True :=
      keeps_named_of_typing ((s.interface c).project.typing_declareOpaque name target
        [header] false)
    exact (kept s hs).mono (fun _ _ h => h.1) fun _ _ h => h
  member s m hs declarable unused hname _ := by
    refine ⟨hs.1, (s.components.distinctNames_withMember c declarable unused.2).2
      ⟨hs.2.1, fun d hd name hn same => ?_⟩, s.components.unclaimed_withMember c hs.2.2⟩
    exact hs.2.2 d hd name hn (same ▸ hname)
  change s f hs retyped := by
    have same (k : Component) := (retyped k).names
    exact ⟨hs.1, (s.components.distinctNames_modify_of_same c same).2 hs.2.1,
      (s.components.unclaimed_modify_of_same c c same named).2 hs.2.2⟩
  free _ _ hs := hs

end Componentry
