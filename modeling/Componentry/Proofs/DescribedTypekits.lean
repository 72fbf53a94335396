import Componentry.Proofs.DescriptorReadings
import Componentry.Proofs.FailedOpaques
import Componentry.Proofs.TypekitPackages

/-!
# Typekits that read descriptors

A typekit that is made from a descriptor, and one that a project builds and that reads a descriptor,
gets the rules that the descriptor gives, after those that it has. Each of them is for a registered
type that had none. The types that are read are registered before, so the rules are for opaque types
if all opaque elements of the descriptor are entries. Other opaque elements give rules to further
registered types, which need not be opaque.
-/

namespace Componentry

/-- Whether a typekit has got further rules at the end, for registered types of different names that
had none. -/
structure Store.AddsRules (id : TypekitId) (rules : List OpaqueRule) (s t : Store) : Prop where
  opaques : (t.typekit id).opaques = (s.typekit id).opaques ++ rules
  registry : (t.typekit id).registry = (s.typekit id).registry
  registries : t.registries = s.registries
  length : t.typekits.length = s.typekits.length
  registered : ∀ rule ∈ rules, ∃ d, (s.registry (s.typekit id).registry).get rule.typeName = .ok d
  unruled : ∀ rule ∈ rules, ∀ old ∈ (s.typekit id).opaques, old.typeName ≠ rule.typeName
  distinct : (rules.map (·.typeName)).Nodup

namespace Store.AddsRules

variable {id : TypekitId} {s t u : Store} {first more : List OpaqueRule}

/-- No rule has to be added. -/
theorem nil (id : TypekitId) (s : Store) : AddsRules id [] s s :=
  ⟨(List.append_nil _).symm, rfl, rfl, rfl, nofun, nofun, .nil⟩

/-- Rules are added behind those before. -/
theorem trans (h : AddsRules id first s t) (h' : AddsRules id more t u) :
    AddsRules id (first ++ more) s u where
  opaques := by rw [h'.opaques, h.opaques, List.append_assoc]
  registry := h'.registry.trans h.registry
  registries := h'.registries.trans h.registries
  length := h'.length.trans h.length
  registered rule mem := by
    rcases List.mem_append.1 mem with old | new
    · exact h.registered rule old
    · obtain ⟨d, found⟩ := h'.registered rule new
      rw [h.registry, Store.registry, h.registries] at found
      exact ⟨d, found⟩
  unruled rule mem old there := by
    rcases List.mem_append.1 mem with mem | mem
    · exact h.unruled rule mem old there
    · exact h'.unruled rule mem old (h.opaques ▸ List.mem_append_left _ there)
  distinct := by
    rw [List.map_append]
    refine List.Nodup.append h.distinct h'.distinct fun name early late => ?_
    obtain ⟨old, there, rfl⟩ := List.mem_map.1 early
    obtain ⟨rule, mem, same⟩ := List.mem_map.1 late
    exact h'.unruled rule mem old (h.opaques ▸ List.mem_append_right _ there) same.symm

/-- An operation on a typekit that leaves the registry as it is and puts rules at the end. -/
theorem of_onTypekit (made : id.index < s.typekits.length) {kr : Typekit × Registry}
    {rules : List OpaqueRule} (registry : kr.2 = s.registry (s.typekit id).registry)
    (owner : kr.1.registry = (s.typekit id).registry)
    (opaques : kr.1.opaques = (s.typekit id).opaques ++ rules)
    (registered : ∀ rule ∈ rules,
      ∃ d, (s.registry (s.typekit id).registry).get rule.typeName = .ok d)
    (unruled : ∀ rule ∈ rules, ∀ old ∈ (s.typekit id).opaques, old.typeName ≠ rule.typeName)
    (distinct : (rules.map (·.typeName)).Nodup) :
    AddsRules id rules s { s with
      typekits := s.typekits.set id.index kr.1
      registries := s.registries.set (s.typekit id).registry.index kr.2 } := by
  let t : Store := { s with
    typekits := s.typekits.set id.index kr.1
    registries := s.registries.set (s.typekit id).registry.index kr.2 }
  have typekit : t.typekit id = kr.1 := (typekit_of_set (s := s) rfl id).trans (if_pos ⟨rfl, made⟩)
  have kept : t.registries = s.registries := by
    simp only [t, registry]
    exact set_getD_self ..
  exact ⟨(congrArg (·.opaques) typekit).trans opaques, (congrArg (·.registry) typekit).trans owner,
    kept, List.length_set, registered, unruled, distinct⟩

/-- Rules with canonical names are added one after the other. -/
theorem ends_addRules {rules : List OpaqueRule}
    (canonical : ∀ rule ∈ rules, Typename.normalize rule.typeName = rule.typeName)
    (made : id.index < s.typekits.length) :
    Ends (rules.forM fun rule => Work.onTypekit id (Typekit.addRule rule)) s
      (fun _ t => AddsRules id rules s t) fun _ _ => True := by
  induction rules generalizing s with
  | nil => exact nil id s
  | cons rule rules ih =>
    refine ends_bind.2
      (Work.ends_onTypekit.2 ((Typekit.ends_addRule_last rule _ _).mono ?_ fun _ _ _ => trivial))
    intro _ kr added
    obtain ⟨registry, opaques, owner, unruled, registered⟩ := added
    have new : ∀ old ∈ (s.typekit id).opaques, old.typeName ≠ rule.typeName := by
      intro old there same
      rw [← canonical rule List.mem_cons_self] at same
      exact Typekit.ne_of_opaqueRule? unruled there same
    have step := of_onTypekit made registry owner opaques (List.forall_mem_singleton.2 registered)
      (List.forall_mem_singleton.2 new) (List.nodup_singleton _)
    have rest :=
      ih (fun other mem => canonical other (List.mem_cons_of_mem _ mem)) (step.length.symm ▸ made)
    exact rest.mono (fun _ _ h => step.trans h) fun _ _ h => h

/-- Exports add no rules. -/
theorem ends_exportTypes (names : List String) (interface : Bool)
    (made : id.index < s.typekits.length) :
    Ends (Work.onTypekit id (Typekit.exportTypes names interface)) s
      (fun _ t => AddsRules id [] s t) fun _ _ => True := by
  let k := s.typekit id
  let r := s.registry k.registry
  have kept : Keeps (fun kr => kr.2 = r ∧ kr.1.registry = k.registry ∧ kr.1.opaques = k.opaques)
      (fun _ => True) (Typekit.exportTypes names interface) fun _ _ => True := by
    refine keeps_get.bind fun kr₁ => ?_
    dsimp only
    cases kr₁.1.checkMutable with
    | error fault => exact keeps_throw fault
    | ok _ =>
      refine keeps_forM fun name _ kr₂ same => ends_bind.2 (ends_get.2 ?_)
      dsimp only
      cases kr₂.2.get name with
      | error fault => exact fun _ => same
      | ok t => exact ⟨same, trivial⟩
  refine Work.ends_onTypekit.2 ((kept (k, r) ⟨rfl, rfl, rfl⟩).mono ?_ fun _ _ _ => trivial)
  intro _ kr h
  obtain ⟨⟨registry, owner, opaques⟩, -⟩ := h
  exact of_onTypekit made registry owner (opaques.trans (List.append_nil _).symm) nofun nofun .nil

end Store.AddsRules

/-- What a typekit with its registry is after a descriptor was accepted, which is read as some types
and some rules. The typekit had some rules before. -/
structure Typekit.Describes (k : Typekit) (r : Registry) (before : List OpaqueRule) (text : String)
    (e : Xml.Element) (types : List TypeDef) (rules : List OpaqueRule) : Prop where
  read : Descriptor.ReadAs text e types rules
  /-- The rules that are read are those that the typekit has got. -/
  added : k.opaques = before ++ rules
  distinct : (rules.map (·.typeName)).Nodup
  unruled : ∀ rule ∈ rules, ∀ old ∈ before, old.typeName ≠ rule.typeName
  registered : ∀ t ∈ types, t ∈ r.types
  ruled : ∀ rule ∈ rules, ∃ d, r.get rule.typeName = .ok d

namespace Typekit.Describes

variable {k : Typekit} {r : Registry} {before rules : List OpaqueRule} {text : String}
  {e : Xml.Element} {types : List TypeDef}

/-- A typekit that gets the rules of a descriptor whose types are registered. -/
theorem of_addsRules {id : TypekitId} {s t : Store} (adds : Store.AddsRules id rules s t)
    (read : Descriptor.ReadAs text e types rules)
    (registered : ∀ d ∈ types, d ∈ (s.registry (s.typekit id).registry).types) :
    (t.typekit id).Describes (t.registry (t.typekit id).registry)
      (s.typekit id).opaques text e types rules := by
  have registry : t.registry (t.typekit id).registry = s.registry (s.typekit id).registry := by
    rw [adds.registry, Store.registry, adds.registries, Store.registry]
  rw [registry]
  exact ⟨read, adds.opaques, adds.distinct, adds.unruled, registered, adds.registered⟩

/-- If all opaque elements are entries, all rules are for opaque types. -/
theorem isOpaque_of_entries (h : k.Describes r before text e types rules)
    (entries : Descriptor.strayOpaques e = []) :
    ∀ rule ∈ rules, ∃ t ∈ r.types, t.name = rule.typeName ∧ t.isOpaque = true := by
  intro rule mem
  have named := (h.read.agree_iff.2 entries).mem_iff.1 (List.mem_map_of_mem mem)
  obtain ⟨t, there, same⟩ := List.mem_map.1 named
  obtain ⟨there, isOpaque⟩ := List.mem_filter.1 there
  exact ⟨t, h.registered t there, same, isOpaque⟩

end Typekit.Describes

/-- A typekit that is made from a descriptor has its rules. -/
theorem Work.ends_typekitOfDescriptor_described (name : String) (package : Option Package)
    (text typelist : String) (s : Store) :
    Ends (Work.typekitOfDescriptor name package text typelist) s
      (fun id t => ∃ e types rules,
        (t.typekit id).Describes (t.registry (t.typekit id).registry) [] text e types rules)
      fun _ _ => True := by
  unfold Work.typekitOfDescriptor
  simp only [ends_bind]
  change Ends (Work.onRegistry ⟨s.registries.length⟩ (Descriptor.mergeInto text))
    { s with registries := s.registries ++ [Registry.standard] } _ _
  refine Work.ends_onRegistry.2 ((Registry.ends_mergeInto text _).mono ?_ fun _ _ _ => trivial)
  intro added r merged
  obtain ⟨types, fresh, htypes, -, -, -, registered⟩ := merged
  have set :
      (s.registries ++ [Registry.standard]).set s.registries.length r = s.registries ++ [r] := by
    simp
  simp only [set]
  refine Work.ends_ofExcept.2 ⟨fun list _ => ?_, fun _ _ => trivial⟩
  refine Work.ends_ofExcept.2 ⟨fun k hk => ?_, fun _ _ => trivial⟩
  obtain ⟨owner, opaques⟩ : k.registry = ⟨s.registries.length⟩ ∧ k.opaques = [] := by
    simp only [Typekit.new] at hk
    split at hk
    · cases hk
      exact ⟨rfl, rfl⟩
    · cases hk
  let id : TypekitId := ⟨s.typekits.length⟩
  let made : Store := Work.withTypekit s r k
  change Ends (Work.ofExcept (Descriptor.opaqueRules text)) made _ _
  refine Work.ends_ofExcept.2 ⟨fun rules hrules => ?_, fun _ _ => trivial⟩
  obtain ⟨e, read⟩ := Descriptor.ReadAs.of_readings htypes hrules
  have typekit : made.typekit id = k := Work.typekit_withTypekit s r k
  have registry : made.registry (made.typekit id).registry = r := by
    rw [typekit]
    exact Work.registry_withTypekit owner r
  have there : id.index < made.typekits.length := by simp [made, id, Work.withTypekit]
  have adding := Store.AddsRules.ends_addRules (Descriptor.names_of_opaqueRules hrules) there
  refine adding.mono ?_ fun _ _ _ => trivial
  intro _ t adds
  have described := Typekit.Describes.of_addsRules adds read (by rw [registry]; exact registered)
  rw [typekit, opaques] at described
  refine ends_bind.2 (ends_modify.2 (ends_pure.2 ⟨e, types, rules, ?_⟩))
  change ((id.withFrozen t).typekit id).Describes
    (t.registry ((id.withFrozen t).typekit id).registry) [] text e types rules
  rcases id.typekit_withFrozen t id with same | completed
  · rw [same]
    exact described
  · rw [completed]
    exact ⟨described.read, described.added, described.distinct, described.unruled,
      described.registered, described.ruled⟩

namespace ProjectId

variable {p : ProjectId} {s : Store} {id : TypekitId}

/-- Rules are read from a descriptor after its types were registered, and added. -/
private theorem ends_addDescribedRules {text : String} {types : List TypeDef}
    (made : id.index < s.typekits.length) (htypes : Descriptor.types text = .ok types)
    (registered : ∀ d ∈ types, d ∈ (s.registry (s.typekit id).registry).types) :
    Ends (addDescribedRules id text) s
      (fun id' t => id' = id ∧ ∃ e rules,
        (t.typekit id).Describes (t.registry (t.typekit id).registry)
        (s.typekit id).opaques text e types rules)
      fun _ _ => True := by
  refine ends_bind.2 (Work.ends_ofExcept.2 ⟨fun rules hrules => ends_bind.2 ?_, fun _ _ => trivial⟩)
  obtain ⟨e, read⟩ := Descriptor.ReadAs.of_readings htypes hrules
  have adding := Store.AddsRules.ends_addRules (Descriptor.names_of_opaqueRules hrules) made
  exact adding.mono (fun _ t adds => ⟨rfl, e, rules, .of_addsRules adds read registered⟩)
    fun _ _ h => h

/-- The typekit of a project that defines types by a descriptor has the rules of the descriptor. -/
theorem ends_defineTypes_described (made : id.index < s.typekits.length)
    (registry : (s.typekit id).registry = (s.scope p).registry)
    (inRange : (s.scope p).registry.index < s.registries.length) (text : String)
    (typelist : Option String) :
    Ends (p.defineTypes id text typelist) s
      (fun id' t => id' = id ∧ ∃ e types rules,
        (t.typekit id).Describes (t.registry (t.typekit id).registry)
        (s.typekit id).opaques text e types rules)
      fun _ _ => True := by
  refine ends_bind.2 (ends_get.2 (ends_bind.2 (Work.ends_onRegistry.2 ?_)))
  refine (Registry.ends_mergeInto text _).mono ?_ fun _ _ _ => trivial
  intro added r merge
  obtain ⟨types, fresh, htypes, -, -, -, inside⟩ := merge
  let merged : Store := { s with registries := s.registries.set (s.scope p).registry.index r }
  have registered : ∀ d ∈ types, d ∈ (merged.registry (merged.typekit id).registry).types := by
    change ∀ d ∈ types, d ∈ (merged.registry (s.typekit id).registry).types
    rw [registry, Store.registry_of_set (s := s) rfl, if_pos ⟨rfl, inRange⟩]
    exact inside
  have finish {t : Store} (exports : Store.AddsRules id [] merged t) :
      Ends (addDescribedRules id text) t
        (fun id' u => id' = id ∧ ∃ e types rules,
          (u.typekit id).Describes (u.registry (u.typekit id).registry)
          (s.typekit id).opaques text e types rules)
        fun _ _ => True := by
    have kept : (t.typekit id).opaques = (s.typekit id).opaques := by
      rw [exports.opaques, List.append_nil]; rfl
    have stays :
        t.registry (t.typekit id).registry = merged.registry (merged.typekit id).registry := by
      rw [exports.registry, Store.registry, exports.registries, Store.registry]
    rw [← kept]
    refine (ends_addDescribedRules (exports.length.symm ▸ made) htypes
      (by rw [stays]; exact registered)).mono ?_ fun _ _ h => h
    intro id' u described
    obtain ⟨same, e, rules, described⟩ := described
    exact ⟨same, e, types, rules, described⟩
  cases typelist with
  | none =>
    refine ends_bind.2 ((Store.AddsRules.ends_exportTypes _ _ (s := merged) made).mono ?_
      fun _ _ h => h)
    exact fun _ _ exports => finish exports
  | some list =>
    refine ends_bind.2 (Work.ends_ofExcept.2 ⟨fun names _ => ends_bind.2 ?_, fun _ _ => trivial⟩)
    refine (Store.AddsRules.ends_exportTypes _ _ (s := merged) made).mono ?_ fun _ _ h => h
    intro _ t exports
    refine ends_bind.2 ((Store.AddsRules.ends_exportTypes _ _ (exports.length.symm ▸ made)).mono ?_
      fun _ _ h => h)
    intro _ u more
    exact finish (exports.trans more)

/-- No types can be defined in a typekit that is complete. -/
theorem ends_defineTypes_frozen (frozen : (s.typekit id).frozen = true) (text : String)
    (typelist : Option String) :
    Ends (p.defineTypes id text typelist) s (fun _ _ => False) fun _ _ => True := by
  have refused {α : Type} {t : Store} (same : t.typekit id = s.typekit id) (names : List String)
      (interface : Bool) (x : PUnit → Work α) :
      Ends (Work.onTypekit id (Typekit.exportTypes names interface) >>= x) t (fun _ _ => False)
        fun _ _ => True := by
    refine ends_bind.2 (Work.ends_onTypekit.2 ?_)
    unfold Ends
    rw [Typekit.exportTypes_frozen (same ▸ frozen)]
    exact trivial
  refine ends_bind.2 (ends_get.2 (ends_bind.2 (Work.ends_onRegistry.2 ?_)))
  refine (ends_trivial _ _).mono ?_ fun _ _ _ => trivial
  intro added r _
  let merged : Store := { s with registries := s.registries.set (s.scope p).registry.index r }
  cases typelist with
  | none => exact refused (t := merged) rfl _ _ _
  | some list =>
    exact ends_bind.2
      (Work.ends_ofExcept.2 ⟨fun names _ => refused (t := merged) rfl _ _ _, fun _ _ => trivial⟩)

/-- The typekit of a project that is not imported has the registry of the project. If it is made
only now, it has no rules. -/
theorem ends_typekit_built (reached : s.Reachable) (main : (s.project p).isImported = false) :
    Ends (p.typekit true) s
      (fun id? t => ∃ id, id? = some id ∧ id.index < t.typekits.length ∧
        (t.typekit id).registry = (t.scope p).registry ∧
        (t.scope p).registry.index < t.registries.length ∧
        (t.typekit id).opaques = (s.typekit id).opaques)
      fun _ _ => True := by
  have inRange := reached.libraries.apart.projects p
  have scope : s.projects.scope p = p := RuledScope.scope_of_main main
  refine ends_bind.2 (ends_get.2 ?_)
  rw [if_neg (by simp [main])]
  cases own : (s.project p).typekit with
  | some id =>
    have builds := reached.typekits.builds p id own
    refine ⟨id, rfl, builds.made, ?_, ?_, rfl⟩
    · rw [Store.scope, scope]
      exact builds.registry
    · rw [Store.scope, scope]
      exact inRange
  | none =>
    refine ends_bind.2 (p.ends_checkMutable.2 ⟨fun isOpen => ?_, fun _ => trivial⟩)
    have same := registry_withOwnTypekit p s
    have outline := apply_withOwnTypekit (·.main) (fun _ _ => rfl) p p s
    rw [withOwnTypekit, own] at same outline
    refine ends_bind.2 (Work.ends_newTypekit.2
      (ends_bind.2 (ends_modify.2 (ends_pure.2 ⟨⟨s.typekits.length⟩, rfl, ?_⟩))))
    let made : Store := { s with
      typekits := s.typekits ++ [{ name := (s.project p).name, registry := (s.project p).registry }]
      projects := s.projects.modify p ({ · with typekit := some ⟨s.typekits.length⟩ }) }
    have typekit : made.typekit ⟨s.typekits.length⟩ =
        { name := (s.project p).name, registry := (s.project p).registry } :=
      (Store.typekit_of_append (s := s) rfl _).trans (if_pos rfl)
    have scope' : made.projects.scope p = p :=
      RuledScope.scope_of_main (by rw [Project.isImported, outline]; exact main)
    have past : s.typekit ⟨s.typekits.length⟩ = default := by simp [Store.typekit]
    refine ⟨by simp, ?_, ?_, ?_⟩
    · change (made.typekit _).registry = (made.scope p).registry
      rw [typekit, Store.scope, scope', same]
    · change (made.scope p).registry.index < s.registries.length
      rw [Store.scope, scope', same]
      exact inRange
    · change (made.typekit _).opaques = _
      rw [typekit, past]
      rfl

/-- When a project accepts a descriptor, its typekit has the rules of the descriptor after those
that it had. -/
theorem ends_loadTypekit_described (reached : s.Reachable) (text : String)
    (typelist : Option String) :
    Ends (p.loadTypekit text typelist) s
      (fun id t => ∃ e types rules,
        (t.typekit id).Describes (t.registry (t.typekit id).registry)
        (s.typekit id).opaques text e types rules)
      fun _ _ => True := by
  refine ends_bind.2 (p.ends_checkMutable.2 ⟨fun _ => ends_bind.2 ?_, fun _ => trivial⟩)
  cases kind : (s.project p).isImported with
  | true =>
    refine (ends_typekit_loaded reached.settled reached.libraries kind true).mono ?_ fun _ _ h => h
    intro id? t loaded
    cases id? with
    | none => exact trivial
    | some id =>
      exact (ends_defineTypes_frozen (loaded id rfl).frozen text typelist).mono
        (fun _ _ => False.elim) fun _ _ h => h
  | false =>
    refine (ends_typekit_built reached kind).mono ?_ fun _ _ h => h
    intro id? t built
    obtain ⟨id, rfl, made, registry, inRange, opaques⟩ := built
    refine (ends_defineTypes_described made registry inRange text typelist).mono ?_ fun _ _ h => h
    intro id' u described
    obtain ⟨rfl, described⟩ := described
    exact opaques ▸ described

end ProjectId

/-- Whether a typekit got rules from a descriptor, which is read as some types and some rules. Each
opaque type has a rule. There are no others exactly if all opaque elements are entries, and then all
rules are for registered opaque types. -/
def Store.RuledBy (t : Store) (id : TypekitId) (before : List OpaqueRule) (text : String) : Prop :=
  ∃ e types rules,
    (t.typekit id).Describes (t.registry (t.typekit id).registry) before text e types rules ∧
    (∀ d ∈ types, d.isOpaque = true → ∃ rule ∈ rules, rule.typeName = d.name) ∧
    ((rules.map (·.typeName)).Perm ((types.filter (·.isOpaque)).map (·.name)) ↔
      Descriptor.strayOpaques e = []) ∧
    (Descriptor.strayOpaques e = [] →
      ∀ rule ∈ rules, ∃ d ∈ (t.registry (t.typekit id).registry).types,
      d.name = rule.typeName ∧ d.isOpaque = true)

/-- A typekit that a descriptor describes is ruled by it. -/
theorem Typekit.Describes.ruledBy {t : Store} {id : TypekitId} {before rules : List OpaqueRule}
    {text : String} {e : Xml.Element} {types : List TypeDef}
    (h : (t.typekit id).Describes (t.registry (t.typekit id).registry) before text e types rules) :
    t.RuledBy id before text :=
  ⟨e, types, rules, h, h.read.exists_rule, h.read.agree_iff, h.isOpaque_of_entries⟩

/-- Whenever a project accepts a descriptor in a run, and whenever a typekit is made from one, the
typekit gets a rule for each opaque type that is read, and no two for one type. There are no others
exactly if all opaque elements are entries. -/
theorem descriptorReadings_agree_iff (files : Files.Tree) (packageMaps : List PackageMap)
    (name : String) (baseDir : Files.Path) (packages : PackageMapId) (calls : List Call) :
    let s := Call.runAll calls (Store.withMain { files, packageMaps } name baseDir packages none)
    (∀ (p : ProjectId) text typelist,
      Ends (p.loadTypekit text typelist) s (fun id t => t.RuledBy id (s.typekit id).opaques text)
        fun _ _ => True) ∧
      ∀ s name package text typelist,
        Ends (Work.typekitOfDescriptor name package text typelist) s
          (fun id t => t.RuledBy id [] text) fun _ _ => True := by
  intro s
  constructor
  · intro p text typelist
    have reached : s.Reachable := .of_run files packageMaps name baseDir packages calls
    refine (p.ends_loadTypekit_described reached text typelist).mono ?_ fun _ _ h => h
    intro id t described
    obtain ⟨_, _, _, described⟩ := described
    exact described.ruledBy
  · intro s name package text typelist
    refine (Work.ends_typekitOfDescriptor_described name package text typelist s).mono ?_
      fun _ _ h => h
    intro id t described
    obtain ⟨_, _, _, described⟩ := described
    exact described.ruledBy

namespace Descriptor

open Xml

/-- A descriptor whose entry of the null type has an opaque element inside. -/
def nested : String :=
  "<typelib><null name=\"/nil\"><opaque name=\"/double\" marshal_as=\"/int\"/></null></typelib>"

/-- The entry of the descriptor. -/
def nestedEntry : Element :=
  .node "null" [("name", "/nil")] [.node "opaque" [("name", "/double"), ("marshal_as", "/int")] []]

/-- The rule that the element inside the entry gives. -/
def nestedRule : OpaqueRule :=
  { typeName := "/double", intermediateName := "/int", needsCopy := false, headers := [] }

/-- The descriptor is read as its root with the entry inside. -/
theorem root_nested : root nested = .ok (.node "typelib" [] [nestedEntry]) := by
  have plain : (Element.node "typelib" [] [nestedEntry]).isPlain = true := by decide +kernel
  have text : nested = String.ofList (Element.node "typelib" [] [nestedEntry]).written := by
    decide +kernel
  rw [text]
  exact root_written plain

/-- Its entry defines the null type, which is known. -/
theorem mergeInto_nested : mergeInto nested .standard = .ok [] .standard := by
  have types : types nested = .ok [{ name := "/nil", kind := .null }] := by
    rw [types, root_nested]
    with_unfolding_all rfl
  have known : Registry.standard.find? "/nil" = some { name := "/nil", kind := .null } := by
    decide +kernel
  rw [Registry.mergeInto_eq_addAll types]
  exact Registry.addAll_of_known known

/-- The element inside the entry gives a rule. -/
theorem opaqueRules_nested : opaqueRules nested = .ok [nestedRule] := by
  rw [opaqueRules, root_nested]
  with_unfolding_all rfl

/-- The number that the rule is for. -/
def nestedType : TypeDef :=
  { name := "/double", kind := .numeric, category := some "float", size := some 8 }

/-- The typekit that has the rule. -/
def nestedTypekit : Typekit :=
  { name := "kit", registry := ⟨0⟩, opaques := [nestedRule],
    opaqueRegistry := Registry.empty.append nestedType rfl }

/-- The descriptor is accepted, and its only rule is for a number. -/
theorem makesTypekit_nested : Work.MakesTypekit "kit" none nested "" .standard nestedTypekit := by
  have found :
      Registry.standard.find? (Typename.normalize nestedRule.typeName) = some nestedType := by
    decide +kernel
  exact Work.makesTypekit_of_rule mergeInto_nested opaqueRules_nested found rfl

end Descriptor

/-- The rule is for a registered type that is not opaque, and is not one for an opaque type that is
read. -/
theorem descriptorReadings_agree_iff_nested :
    ∃ id t, Work.typekitOfDescriptor "kit" none Descriptor.nested "" {} = .ok id t ∧
      t.RuledBy id [] Descriptor.nested ∧ (t.typekit id).opaques = [Descriptor.nestedRule] ∧
      (∃ d, (t.registry (t.typekit id).registry).get "/double" = .ok d ∧ d.isOpaque = false) ∧
      ∃ e, Descriptor.root Descriptor.nested = .ok e ∧ Descriptor.strayOpaques e ≠ [] := by
  have accepted := Descriptor.makesTypekit_nested.ends {}
  have read :=
    (descriptorReadings_agree_iff {} [] "app" ⟨"/", []⟩ ⟨0⟩ []).2 {} "kit" none Descriptor.nested ""
  obtain ⟨id, t, made, ⟨rfl, rfl⟩, ruled⟩ :=
    ((accepted.and read).mono (fun _ _ h => h) fun _ _ h => h.1).exists_ok
  have double : (Registry.standard.get "/double").toOption = some Descriptor.nestedType := by
    decide +kernel
  refine ⟨_, _, made, ruled, ?_, ⟨Descriptor.nestedType, ?_, rfl⟩, _, Descriptor.root_nested,
    by decide +kernel⟩
  · rw [Work.typekit_withTypekit]
    rfl
  · rw [Work.typekit_withTypekit, Work.registry_withTypekit rfl]
    cases get : Registry.standard.get "/double" with
    | error fault =>
      rw [get] at double
      cases double
    | ok d =>
      rw [get] at double
      exact congrArg Except.ok (Option.some.inj double)

end Componentry
