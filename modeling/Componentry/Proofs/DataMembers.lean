import Componentry.Proofs.Collecting
import Componentry.Proofs.DistinctNames

/-!
# Data members of generated classes

The generated class of a component has a data member for each member that the component declares
itself, except dynamic ports, for the two operations that every component has that derives from the
framework class, and for what extensions and generation handlers ask for. The members of a component
have distinct names in every run. Records of one kind that ask for the same field are refused when
the contributions are collected, so fields can clash only between records of different kinds.
-/

namespace Componentry

open Declares

/-- The kind and the field of a record. -/
def DeclarationRecord.entry (r : DeclarationRecord) : String × String :=
  (r.kind, r.fieldName)

/-- The kind and the field of the data member for a member. A dynamic port has none. -/
def Member.dataMember? : Member → Option (String × String)
  | .port p => if p.isDynamic then none else some (p.recordKind, p.fieldName)
  | .property s => some ("property", s.fieldName)
  | .attribute s => some ("attribute", s.fieldName)
  | .operation o => some ("operation", o.fieldName)
  | .plain .. => none

/-- A data member has the name of its member with a low line in front. -/
theorem Member.field_of_dataMember? {m : Member} {record : String × String}
    (h : m.dataMember? = some record) :
    record.2 = "_" ++ m.name := by
  cases m with
  | port p =>
    rw [dataMember?] at h
    split at h
    · cases h
    · cases h
      rfl
  | plain => cases h
  | _ => cases h; rfl

/-- The operations that a component has without declaring them. -/
def Interface.implicitOperations (i : Interface) : List Operation :=
  if i.superclass.isSome then [] else [Generation.modelName i, Generation.threadId]

/-- The names of the operations that every component has that derives from the framework class. -/
def Generation.implicitNames : List String :=
  ["getModelName", "__taskgen_getTID"]

/-- The kinds and fields of the data members for these operations. -/
def Interface.implicitRecords (i : Interface) : List (String × String) :=
  if i.superclass.isSome then [] else Generation.implicitNames.map fun name =>
    ("operation", "_" ++ name)

/-- The kinds and fields of the data members for the members that a component declares itself. -/
def Interface.ownRecords (i : Interface) : List (String × String) :=
  i.members.filterMap (·.dataMember?)

/-- The records that the extensions and the generation handlers of a component ask for. -/
def ComponentId.pluggedRecords (c : ComponentId) (s : Store) : List DeclarationRecord :=
  let extended := (s.component c).code.extensions.filterMap fun e =>
    (e.contribute c s.lineage).toOption
  let handled := (s.component c).code.handlers.filterMap fun h => (h c s.lineage).toOption.join
  (extended ++ handled).flatMap (·.declarations)

section OwnNames

/-- Whether the members that a component declares itself have distinct names, for each component. -/
def Store.OwnNames (s : Store) : Prop :=
  ∀ c, (s.interface c).memberNames.Nodup

variable {s t : Store}

/-- Every step keeps the names of the members of each component distinct. -/
theorem Evolved.ownNames (step : Evolved s t) (h : s.OwnNames) : t.OwnNames := by
  have same (components : t.components = s.components) : t.OwnNames := by
    intro d
    rw [Store.interface, Store.component, components]
    exact h d
  have renamed (c : ComponentId) {f : Component → Component}
      (components : t.components = s.components.modify c f)
      (names : ∀ k, (f k).interface.memberNames = k.interface.memberNames) : t.OwnNames := by
    intro d
    rw [Store.interface, Store.component, components, ← Components.interface_lineage,
      s.components.names_modify_of_same c d names, Components.interface_lineage]
    exact h d
  cases step with
  | declared step =>
    cases step with
    | addComponent p name base doc isOpen unused known =>
      intro d
      change ((s.components.push _ known).get d).interface.memberNames.Nodup
      rw [Components.get_push]
      split
      · exact .nil
      · exact h d
    | addMember c m isOpen unused =>
      intro d
      change ((s.components.modify c _).get d).interface.memberNames.Nodup
      rw [← Components.interface_lineage, s.components.nodup_withMember c d unused,
        Components.interface_lineage]
      exact h d
    | trigger c name isOpen isInput =>
      refine renamed c rfl fun k =>
        (Interface.Retyped.mapPorts (fun _ => True) k.interface fun p => ?_).names
      split <;> exact ⟨rfl, rfl⟩
    | changeOperation c name =>
      refine renamed c rfl fun k => ?_
      refine (@Interface.Retyped.mapOperations (fun _ => True) k.interface _ (fun o => ?_)
        fun _ _ _ => ?_).names
      · split <;> rfl
      · exact .inr trivial
    | fixInitialState c | needConfiguration c | addCode c => exact renamed c rfl fun _ => rfl
    | _ => exact same rfl
  | _ => exact same rfl

/-- Along steps, the members that a component declares itself keep distinct names. -/
theorem Evolves.ownNames (steps : Evolves s t) (h : s.OwnNames) : t.OwnNames := by
  induction steps with
  | refl => exact h
  | tail _ step ih => exact step.ownNames ih

end OwnNames

namespace Interface

variable {i : Interface}

/-- What a member contributes declares the data member for it. -/
theorem Contributes.entries {m : Member} {k : Contribution} (h : i.Contributes m k) :
    k.declarations.map (·.entry) = m.dataMember?.toList := by
  match m, h with
  | .port p, h =>
    rw [Contributes, Port.contribution] at h
    rw [Member.dataMember?]
    split at h
    · cases h
      simp_all [Contribution.empty]
    · split at h
      · cases h
      · cases h
        simp_all [DeclarationRecord.entry]
  | .property s, h | .attribute s, h =>
    obtain ⟨setUp, -, made⟩ := of_bind_ok h
    cases made
    rfl
  | .plain .., h =>
    cases h
    rfl
  | .operation o, h =>
    obtain ⟨numeric, -, made⟩ := h
    rw [Operation.contribution] at made
    split at made
    · cases made
    · cases made
      rfl

/-- What the members of a component contribute declares their data members. -/
theorem entries_of_forall₂ {ms : List Member} {ks : List Contribution}
    (h : List.Forall₂ i.Contributes ms ks) :
    (ks.flatMap (·.declarations)).map (·.entry) = ms.filterMap (·.dataMember?) := by
  induction h with
  | nil => rfl
  | @cons m k ms ks made _ ih =>
    rw [List.flatMap_cons, List.map_append, made.entries, ih]
    cases hm : m.dataMember? with
    | none => rw [List.filterMap_cons_none hm]; rfl
    | some record => rw [List.filterMap_cons_some hm]; rfl

end Interface

namespace Generation

/-- The records that come by themselves are declared as such. -/
theorem entries_of_implicitContribution {i : Interface} {k : Contribution}
    (h : implicitContribution i = .ok k) :
    k.declarations.map (·.entry) = i.implicitRecords := by
  rw [implicitContribution] at h
  rw [Interface.implicitRecords]
  split at h
  · rename_i derived
    rw [if_pos derived]
    cases h
    rfl
  · rename_i underived
    rw [if_neg underived]
    cases h
    rfl

/-- No element repeats the key of one before it if all keys are distinct. -/
theorem firstRepeated?_eq_none {α : Type} {key : α → String} {seen : List String} {items : List α} :
    firstRepeated? key seen items = none ↔ (items.map key).Nodup ∧ ∀ a ∈ items, key a ∉ seen := by
  induction items generalizing seen with
  | nil => simp [firstRepeated?]
  | cons a items ih =>
    rw [firstRepeated?]
    split
    · simp_all
    · rw [ih, List.map_cons, List.nodup_cons]
      grind

/-- What passes the check declares no field twice in records of one kind. -/
theorem nodup_of_checkDuplicates {i : Interface} {k : Contribution}
    (h : checkDuplicates i k = .ok ()) :
    ((k.declarations.map (·.entry)).map recordKey).Nodup := by
  obtain ⟨_, declared, -⟩ := of_bind_ok h
  unfold checkDuplicates.checkRecords at declared
  split at declared
  · cases declared
  · rename_i none
    exact (firstRepeated?_eq_none.1 none).1

/-- Where no field is declared twice in records of one kind, the fields are distinct if records of
different kinds have different fields. -/
theorem nodup_fields_iff {records : List (String × String)} (h : (records.map recordKey).Nodup) :
    (records.map (·.2)).Nodup ↔ ∀ a ∈ records, ∀ b ∈ records, a.1 ≠ b.1 → a.2 ≠ b.2 := by
  refine ⟨fun nodup a ha b hb kinds fields => ?_, fun apart => ?_⟩
  · exact kinds (congrArg Prod.fst (List.inj_on_of_nodup_map nodup ha hb fields))
  · refine List.pairwise_map.2
      ((List.pairwise_map.1 h).imp_of_mem fun {a b} ha hb keys fields => ?_)
    by_cases kinds : a.1 = b.1
    · exact keys (by rw [Prod.ext kinds fields])
    · exact apart a ha b hb kinds fields

end Generation

namespace ComponentId

/-- What is collected for a component declares fields for the operations that every component has,
for its members, and for what its extensions and handlers ask for, and no field twice in records of
one kind. -/
theorem ends_collect_entries (c : ComponentId) {s : Store} (hs : declaring.holds s) :
    Ends c.collect s (fun k _ =>
      ((k.declarations.map (·.entry)).map Generation.recordKey).Nodup ∧
        k.declarations.map (·.entry) =
          (s.interface c).implicitRecords ++ (s.interface c).ownRecords ++
          (c.pluggedRecords s).map (·.entry))
      fun _ _ => True := by
  refine (c.ends_collect hs).mono ?_ fun _ _ _ => trivial
  rintro k - ⟨implicit, members, made⟩
  have distinct := Generation.nodup_of_checkDuplicates made.checked
  rw [made.collected]
  refine ⟨distinct, ?_⟩
  simp only [Generation.withPureVirtuals, gathered, Contribution.concat_eq, List.flatMap_append,
    List.flatMap_singleton, List.map_append,
    Generation.entries_of_implicitContribution made.ofFramework,
    Interface.entries_of_forall₂ made.ofMembers, addedCode, List.append_nil]
  rfl

end ComponentId

namespace Interface

/-- Whether no member of a component that derives from the framework class stands for a data member
under the name of an operation that every such component has. -/
def AvoidsImplicit (i : Interface) : Prop :=
  i.superclass = none → ∀ m ∈ i.members, m.dataMember?.isSome → m.name ∉ Generation.implicitNames

variable {i : Interface}

/-- The records that come by themselves are avoided if none of them has the field of an own one. -/
theorem avoidsImplicit_iff :
    i.AvoidsImplicit ↔ ∀ a ∈ i.implicitRecords, ∀ b ∈ i.ownRecords, a.2 ≠ b.2 := by
  constructor
  · intro avoids a ha b hb fields
    obtain ⟨m, mem, hm⟩ := List.mem_filterMap.1 hb
    unfold implicitRecords at ha
    split at ha
    · cases ha
    · rename_i underived
      obtain ⟨name, implicit, rfl⟩ := List.mem_map.1 ha
      have same : name = m.name :=
        (String.append_right_inj _).1 (fields.trans (Member.field_of_dataMember? hm))
      exact avoids (Option.not_isSome_iff_eq_none.1 underived) m mem (by rw [hm]; rfl)
        (same ▸ implicit)
  · intro apart underived m mem declares implicit
    obtain ⟨record, hm⟩ := Option.isSome_iff_exists.1 declares
    have listed : ("operation", "_" ++ m.name) ∈ i.implicitRecords := by
      rw [implicitRecords, underived]
      exact List.mem_map_of_mem implicit
    exact apart _ listed record (List.mem_filterMap.2 ⟨m, mem, hm⟩)
      (Member.field_of_dataMember? hm).symm

/-- Members of different names stand for data members of different fields. -/
theorem eq_of_ownRecords (names : i.memberNames.Nodup) {a b : String × String}
    (ha : a ∈ i.ownRecords) (hb : b ∈ i.ownRecords) (fields : a.2 = b.2) : a = b := by
  obtain ⟨m, mem, hm⟩ := List.mem_filterMap.1 ha
  obtain ⟨n, mem', hn⟩ := List.mem_filterMap.1 hb
  rw [Member.field_of_dataMember? hm, Member.field_of_dataMember? hn] at fields
  obtain rfl : m = n :=
    List.inj_on_of_nodup_map names mem mem' ((String.append_right_inj _).1 fields)
  exact Option.some.inj (hm.symm.trans hn)

/-- The fields of a component are distinct exactly if its members avoid the implicit names, and no
field that an extension or a handler asks for is also that of a record of another kind. -/
theorem nodup_fields_iff (names : i.memberNames.Nodup) {plugged : List (String × String)}
    (keys : ((i.implicitRecords ++ i.ownRecords ++ plugged).map Generation.recordKey).Nodup) :
    ((i.implicitRecords ++ i.ownRecords ++ plugged).map (·.2)).Nodup ↔
      i.AvoidsImplicit ∧ ∀ a ∈ plugged, ∀ b ∈ i.implicitRecords ++ i.ownRecords ++ plugged,
        a.1 ≠ b.1 → a.2 ≠ b.2 := by
  constructor
  · intro nodup
    refine ⟨avoidsImplicit_iff.2 fun a ha b hb => ?_, fun a ha => ?_⟩
    · rw [List.map_append, List.map_append] at nodup
      have apart := (List.nodup_append.1 (List.nodup_append.1 nodup).1).2.2
      exact apart _ (List.mem_map_of_mem ha) _ (List.mem_map_of_mem hb)
    · exact (Generation.nodup_fields_iff keys).1 nodup a (List.mem_append_right _ ha)
  · rintro ⟨avoids, apart⟩
    rw [avoidsImplicit_iff] at avoids
    refine (Generation.nodup_fields_iff keys).2 fun a ha b hb kinds fields => ?_
    have declared {a : String × String} (h : a ∈ i.implicitRecords ++ i.ownRecords ++ plugged)
        (unplugged : a ∉ plugged) :
        a ∈ i.implicitRecords ∨ a ∈ i.ownRecords :=
      List.mem_append.1 ((List.mem_append.1 h).resolve_right unplugged)
    have operation {a : String × String} (h : a ∈ i.implicitRecords) : a.1 = "operation" := by
      unfold implicitRecords at h
      split at h
      · cases h
      · obtain ⟨name, -, rfl⟩ := List.mem_map.1 h
        rfl
    by_cases ha' : a ∈ plugged
    · exact apart a ha' b hb kinds fields
    by_cases hb' : b ∈ plugged
    · exact apart b hb' a ha kinds.symm fields.symm
    rcases declared ha ha' with ha | ha <;> rcases declared hb hb' with hb | hb
    · exact kinds ((operation ha).trans (operation hb).symm)
    · exact avoids a ha b hb fields
    · exact avoids b hb a ha fields.symm
    · exact kinds (congrArg Prod.fst (eq_of_ownRecords names ha hb fields))

end Interface

/-- In every run, what is collected for a component has distinct fields exactly if no member that
stands for a data member has a name that the operations of every component have, and nothing that
extensions and handlers ask for has the field of a record of another kind. -/
theorem collected_fieldNames_nodup_iff (files : Files.Tree) (packageMaps : List PackageMap)
    (calls : List Call) {c : ComponentId} {k : Contribution} {t : Store}
    (collected : c.collect (Call.runAll calls { files, packageMaps }) = .ok k t) :
    let s := Call.runAll calls { files, packageMaps }
    (k.declarations.map (·.fieldName)).Nodup ↔
      (s.interface c).AvoidsImplicit ∧
        ∀ d ∈ c.pluggedRecords s, ∀ e ∈ k.declarations, d.kind ≠ e.kind →
          d.fieldName ≠ e.fieldName := by
  intro s
  have settled : declaring.holds ({ files, packageMaps } : Store) := settled_of_empty rfl
  obtain ⟨ready, steps⟩ := Call.evolves_runAll settled calls
  have names : s.OwnNames := steps.ownNames fun _ => .nil
  obtain ⟨keys, entries⟩ := (c.ends_collect_entries ready).of_ok collected
  have fields : k.declarations.map (·.fieldName) = (k.declarations.map (·.entry)).map (·.2) := by
    rw [List.map_map]
    rfl
  rw [entries] at keys
  rw [fields, entries, Interface.nodup_fields_iff (names c) keys, ← entries]
  simp only [List.forall_mem_map, DeclarationRecord.entry]
  exact Iff.rfl

/-- A component is declared, with a property that is named like the operation that tells the name of
a component. -/
def namedLikeModelName : List Call :=
  [.newProject "tasks" ⟨"/", []⟩ ⟨0⟩ none none,
    .declare (.declareComponent ⟨0⟩ "A" .framework none),
    .declare (.declareProperty ⟨0⟩ "getModelName" (.named "double") .null none)]

/-- What is collected for the component declares one field for the operation and for the
property. -/
theorem collected_fieldNames_namedLikeModelName :
    ∃ k t, ComponentId.collect ⟨0⟩ (Call.runAll namedLikeModelName {}) = .ok k t ∧
      k.declarations.map (·.fieldName) = ["_getModelName", "___taskgen_getTID", "_getModelName"] ∧
      ¬(Interface.AvoidsImplicit ((Call.runAll namedLikeModelName {}).interface ⟨0⟩) ∧
        ∀ d ∈ ComponentId.pluggedRecords ⟨0⟩ (Call.runAll namedLikeModelName {}),
          ∀ e ∈ k.declarations, d.kind ≠ e.kind → d.fieldName ≠ e.fieldName) := by
  have ends : Ends (ComponentId.collect ⟨0⟩) (Call.runAll namedLikeModelName {})
      (fun k _ => k.declarations.map (·.fieldName) = ["_getModelName", "___taskgen_getTID",
        "_getModelName"])
      fun _ _ => False := by
    decide +kernel
  obtain ⟨k, t, collected, fields⟩ := ends.exists_ok
  refine ⟨k, t, collected, fields, fun apart => ?_⟩
  have distinct := (collected_fieldNames_nodup_iff {} [] namedLikeModelName collected).2 apart
  rw [fields] at distinct
  simp at distinct

end Componentry
