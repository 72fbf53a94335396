import Componentry.Proofs.AgreeingTypes
import Componentry.Proofs.TypeClosures

/-!
# Minimal registries

The minimal registry of a name is what its closure collects: each definition that the name reaches,
once, as it stands in the registry, and no other. The walk through the dependencies enters a
definition only once, so it ends on cyclic definitions too; the induction on it carries that all
that is reached or pending is the definition of a name that the first one reaches. It fails only
where a name that is reached has no definition: definitions of one registry never conflict.
-/

namespace Componentry.Registry

variable {r : Registry} {name : String}

/-- Whether a definition is that of a name which another name reaches. -/
def ReachesType (r : Registry) (name : String) (t : TypeDef) : Prop :=
  ∃ d, r.Reaches name d ∧ r.find? (Typename.normalize d) = some t

/-- The definition of a name that is referred to by a definition that is reached. -/
theorem ReachesType.dependency {t : TypeDef} {d : String} {e : r.Entry} (h : r.ReachesType name t)
    (mem : d ∈ t.dependencies) (entry : r.entry d = .ok e) : r.ReachesType name e.1 := by
  obtain ⟨n, reaches, found⟩ := h
  exact ⟨d, reaches.tail ⟨t, found, mem⟩, find?_of_entry entry⟩

/-- What a name reaches is reached by every name that reaches it. -/
theorem ReachesType.trans {d : String} {t : TypeDef} (h : r.ReachesType d t)
    (reaches : r.Reaches name d) :
    r.ReachesType name t := by
  obtain ⟨n, inner, found⟩ := h
  exact ⟨n, Relation.ReflTransGen.trans reaches inner, found⟩

/-- Following pending definitions reaches only definitions that were to be reached. -/
theorem reachesType_of_reach {reached types : List TypeDef} {pending : List r.Entry}
    (seen : ∀ t ∈ reached, r.ReachesType name t) (ahead : ∀ e ∈ pending, r.ReachesType name e.1)
    (h : r.reach reached pending = .ok types) : ∀ t ∈ types, r.ReachesType name t := by
  fun_induction reach r reached pending with
  | case1 reached =>
    cases h
    exact seen
  | case2 reached t ht rest _ ih =>
    exact ih seen (fun e he => ahead e (List.mem_cons_of_mem _ he)) h
  | case3 reached t ht rest _ _ next deps ih =>
    have here : r.ReachesType name t := ahead ⟨t, ht⟩ List.mem_cons_self
    apply ih _ _ h
    · intro u hu
      rcases List.mem_append.1 hu with hu | hu
      · exact seen u hu
      · rw [List.mem_singleton.1 hu]
        exact here
    · intro e he
      rcases List.mem_append.1 he with he | he
      · obtain ⟨d, mem, hd⟩ := (mem_of_mapM_ok deps).2 e (List.mem_reverse.1 he)
        exact here.dependency mem hd
      · exact ahead e (List.mem_cons_of_mem _ he)
  | case4 => cases h

/-- No definition is reached twice. -/
theorem nodup_of_reach {reached types : List TypeDef} {pending : List r.Entry}
    (once : reached.Nodup) (h : r.reach reached pending = .ok types) : types.Nodup := by
  fun_induction reach r reached pending with
  | case1 reached =>
    cases h
    exact once
  | case2 reached t ht rest _ ih => exact ih once h
  | case3 reached t ht rest new _ next _ ih =>
    have fresh : t ∉ reached := by simpa using new
    have once : (reached ++ [t]).Nodup := by
      rw [← List.concat_eq_append]
      exact once.concat fresh
    exact ih once h
  | case4 => cases h

/-- The closure of a name holds the definitions that the name reaches, each once. -/
theorem mem_closure_iff {types : List TypeDef} (h : r.closure name = .ok types) :
    types.Nodup ∧ ∀ t, t ∈ types ↔ r.ReachesType name t := by
  have complete := (closure_ok h).2
  unfold closure at h
  cases start : r.entry name with
  | error fault => rw [start] at h; cases h
  | ok e =>
    rw [start] at h
    refine ⟨nodup_of_reach List.nodup_nil h, fun t => ⟨?_, ?_⟩⟩
    · apply reachesType_of_reach (by simp) _ h
      intro e' he'
      rw [List.mem_singleton.1 he']
      exact ⟨name, .refl, find?_of_entry start⟩
    · intro reached
      obtain ⟨d, reaches, found⟩ := reached
      obtain ⟨e', he', mem⟩ := complete d reaches
      rw [entry_of_find? found] at he'
      cases he'
      exact mem

/-- A closure is taken over into a registry of its own without a conflict, in its order. -/
theorem minimal_of_closure {types : List TypeDef} (h : r.closure name = .ok types) :
    ∃ result, r.minimal name = .ok result ∧ result.types = types := by
  have inside : types ⊆ r.types := (closure_ok h).1
  have agree : TypeDef.Agree (empty.types ++ types) := r.agree.mono (by simpa [empty] using inside)
  have added := (ends_addAll types empty).and (ends_addAll_of_agree agree)
  obtain ⟨names, result, run, ⟨fresh, happ, -, sub, held⟩, -⟩ :=
    (added.mono (fun _ _ both => both) fun _ _ both => both.2).exists_ok
  have taken : result.types = fresh := by simpa [empty] using happ
  have whole : fresh = types := by
    apply sub.eq_of_length_le
    exact (mem_closure_iff h).1.length_le_of_subset fun t ht => taken ▸ held t ht
  refine ⟨result, ?_, taken.trans whole⟩
  simp only [minimal, h, bind, Except.bind, EStateM.run, run]

/-- The minimal registry of a name fails as the closure does. -/
theorem minimal_error_iff {fault : Fault} :
    r.minimal name = .error fault ↔ r.closure name = .error fault := by
  cases closure : r.closure name with
  | ok types =>
    obtain ⟨result, given, -⟩ := minimal_of_closure closure
    simp [given]
  | error fault' =>
    simp [minimal, closure, bind, Except.bind]

/-- The opaque types that a name reaches are those of its minimal registry. -/
theorem containedOpaques_eq (r : Registry) (name : String) : r.containedOpaques name =
    (fun result => NameSet.ofList ((result.types.filter (·.isOpaque)).map (·.name))) <$>
    r.minimal name := by
  cases closure : r.closure name with
  | ok types =>
    obtain ⟨result, given, rfl⟩ := minimal_of_closure closure
    rw [containedOpaques, closure, given]
    rfl
  | error fault =>
    rw [containedOpaques, closure, minimal_error_iff.2 closure]
    rfl

/-- The opaque types that a name reaches, given that all names that it reaches are defined. -/
theorem containedOpaques_of_closure {types : List TypeDef} (h : r.closure name = .ok types) :
    ∃ opaques, r.containedOpaques name = .ok opaques ∧
      ∀ o, o ∈ opaques ↔ ∃ t, r.ReachesType name t ∧ t.isOpaque = true ∧ t.name = o := by
  refine ⟨.ofList ((types.filter (·.isOpaque)).map (·.name)), ?_, fun o => ?_⟩
  · rw [containedOpaques, h]
    rfl
  · simp only [NameSet.mem_ofList, List.mem_map, List.mem_filter, (mem_closure_iff h).2, and_assoc]

/-- The minimal registry of a name is not given exactly if the name, or a dependency of a definition
that it reaches, is not registered, and it fails for nothing else. Otherwise it holds each
definition that the name reaches once, as it stands in the registry, and no other. The opaque types
of the name are then the opaque ones among these, and include those of every name that is
reached. -/
theorem minimal_exact (r : Registry) (name : String) :
    ((∃ missing, r.minimal name = .error (.typeNotFound missing)) ↔
      ∃ d, r.Reaches name d ∧ r.contains d = false) ∧
    (∀ fault, r.minimal name = .error fault →
      ∃ d, r.Reaches name d ∧ r.contains d = false ∧ fault = .typeNotFound (Typename.normalize d)) ∧
    ((∀ d, r.Reaches name d → r.contains d = true) → ∃ result opaques,
      r.minimal name = .ok result ∧ r.containedOpaques name = .ok opaques ∧
      (result.types.Nodup ∧ ∀ t, t ∈ result.types ↔ r.ReachesType name t) ∧
      (∀ o, o ∈ opaques ↔ ∃ t, r.ReachesType name t ∧ t.isOpaque = true ∧ t.name = o) ∧
      ∀ d, r.Reaches name d → ∃ inner, r.containedOpaques d = .ok inner ∧
        ∀ o ∈ inner, o ∈ opaques) := by
  have failure (fault : Fault) (failed : r.minimal name = .error fault) :
      ∃ d, r.Reaches name d ∧ r.contains d = false ∧ fault = .typeNotFound (Typename.normalize d) :=
    closure_error (minimal_error_iff.1 failed)
  refine ⟨⟨fun ⟨missing, failed⟩ => ?_, fun ⟨d, reaches, absent⟩ => ?_⟩, failure, fun defined => ?_⟩
  · obtain ⟨d, reaches, absent, -⟩ := failure _ failed
    exact ⟨d, reaches, absent⟩
  · cases closure : r.closure name with
    | ok types =>
      have defined := closure_ok_iff.1 ⟨types, closure⟩ d reaches
      rw [absent] at defined
      cases defined
    | error fault =>
      obtain ⟨d', -, -, rfl⟩ := closure_error closure
      exact ⟨_, minimal_error_iff.2 closure⟩
  · obtain ⟨types, closure⟩ := closure_ok_iff.2 defined
    obtain ⟨result, given, rfl⟩ := minimal_of_closure closure
    obtain ⟨opaques, collected, exact⟩ := containedOpaques_of_closure closure
    refine ⟨result, opaques, given, collected, mem_closure_iff closure, exact, fun d reaches => ?_⟩
    have inside (d' : String) (onward : r.Reaches d d') : r.contains d' = true :=
      defined d' (Relation.ReflTransGen.trans reaches onward)
    obtain ⟨types', closure'⟩ := closure_ok_iff.2 inside
    obtain ⟨inner, collected', exact'⟩ := containedOpaques_of_closure closure'
    refine ⟨inner, collected', fun o mem => ?_⟩
    obtain ⟨t, within, isOpaque, same⟩ := (exact' o).1 mem
    exact (exact o).2 ⟨t, within.trans reaches, isOpaque, same⟩

/-- A node that refers to itself, to a list of nodes and to an opaque type, in spellings that are
not canonical, beside an opaque type that it does not refer to. -/
def nodes : Registry where
  types := [
    { name := "/Node", kind := .compound,
      fields := [⟨"next", "Node"⟩, ⟨"children", "std::vector< Node >"⟩, ⟨"handle", "Handle"⟩] },
    { name := "/std/vector</Node>", kind := .container, elementType := some "/Node" },
    { name := "/Handle", kind := .opaqueType },
    { name := "/Image", kind := .opaqueType }]
  distinct := by decide

/-- The names that a node reaches, as they are spelled there. -/
def nodeNames : List String :=
  ["::Node", "Node", "std::vector< Node >", "Handle", "/Node"]

/-- Only the types of the graph are reached from its node. -/
theorem mem_nodeNames_of_reaches {d : String} (h : nodes.Reaches "::Node" d) : d ∈ nodeNames := by
  induction h with
  | refl => decide
  | tail _ refers ih =>
    obtain ⟨t, found, dependency⟩ := refers
    have closed : ∀ d ∈ nodeNames, ∀ t ∈ nodes.find? (Typename.normalize d),
        ∀ e ∈ t.dependencies, e ∈ nodeNames := by
      decide +kernel
    exact closed _ ih t found _ dependency

/-- The minimal registry of a node is given although its definitions are cyclic, and has the opaque
type of its handle. -/
theorem minimal_exact_nodes :
    (∀ d, nodes.Reaches "::Node" d → nodes.contains d = true) ∧ ∃ result opaques,
      nodes.minimal "::Node" = .ok result ∧ nodes.containedOpaques "::Node" = .ok opaques ∧
        (∃ t ∈ result.types, t.name = "/std/vector</Node>") ∧ "/Handle" ∈ opaques ∧
        "/Image" ∉ opaques := by
  have defined (d : String) (h : nodes.Reaches "::Node" d) : nodes.contains d = true := by
    have known : ∀ d ∈ nodeNames, nodes.contains d = true := by
      decide +kernel
    exact known d (mem_nodeNames_of_reaches h)
  obtain ⟨result, opaques, given, collected, ⟨-, held⟩, exact, -⟩ :=
    (minimal_exact nodes "::Node").2.2 defined
  have start : nodes.Reaches "::Node" "::Node" := .refl
  have refers : ∃ t, nodes.find? (Typename.normalize "::Node") = some t ∧
      "std::vector< Node >" ∈ t.dependencies ∧ "Handle" ∈ t.dependencies := by
    decide +kernel
  obtain ⟨t, found, list, handle⟩ := refers
  refine ⟨defined, result, opaques, given, collected, ?_, ?_, fun mem => ?_⟩
  · have found' : ∃ t, nodes.find? (Typename.normalize "std::vector< Node >") = some t ∧
        t.name = "/std/vector</Node>" := by
      decide +kernel
    obtain ⟨u, hu, same⟩ := found'
    exact ⟨u, (held u).2 ⟨_, start.tail ⟨t, found, list⟩, hu⟩, same⟩
  · have found' : ∃ t, nodes.find? (Typename.normalize "Handle") = some t ∧ t.isOpaque = true ∧
        t.name = "/Handle" := by
      decide +kernel
    obtain ⟨u, hu, isOpaque, same⟩ := found'
    exact (exact _).2 ⟨u, ⟨_, start.tail ⟨t, found, handle⟩, hu⟩, isOpaque, same⟩
  · obtain ⟨u, ⟨d, reaches, hu⟩, -, same⟩ := (exact _).1 mem
    have others : ∀ d ∈ nodeNames, ∀ t ∈ nodes.find? (Typename.normalize d), t.name ≠ "/Image" := by
      decide +kernel
    exact others d (mem_nodeNames_of_reaches reaches) u hu same

end Componentry.Registry
