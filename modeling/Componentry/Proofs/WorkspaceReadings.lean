import Componentry.Proofs.FileChanges
import Componentry.Proofs.Keeping
import Componentry.Workspace

/-!
# Readings of workspace configurations

A configuration is read from a value of any kind. The null value and the mappings that describe a
configuration are accepted: those with known keys only, values of the kinds that the keys ask for,
and imports of packages with different names. The configuration then has the imports of the
document, and each of them finds its directory. Everything else is refused. The fault is one of
workspace configurations unless a key of the mapping is no text: such a key is unknown, and the
unknown keys are listed in an order that only texts have.
-/

namespace Componentry

open Componentry.Yaml (Value)
open Files (Path)

/-- A key of a mapping is the same as a text only if it is that text. -/
theorem Yaml.Value.sameKey_text_iff {key : Value} {s : String} :
    key.sameKey (.text s) = true ↔ key = .text s := by
  cases key with
  | text t => simp [sameKey]
  | _ => simp [sameKey, integer?]

section Refusals

variable {α : Type} {refused : Bool} {fault : Fault} {f : Unit → Except Fault α}

/-- What may be refused gives a value if it is not, and what follows gives it. -/
theorem refusal_eq_ok_iff {a : α} :
    (if refused = true then throw fault >>= f else f ()) = .ok a ↔
      refused = false ∧ f () = .ok a := by
  cases refused with
  | true => exact iff_of_false nofun nofun
  | false => exact (and_iff_right rfl).symm

/-- A computation in two steps gives a value exactly if both do. -/
theorem bind_eq_ok_iff {β : Type} {x : Except Fault α} {g : α → Except Fault β} {b : β} :
    x >>= g = .ok b ↔ ∃ a, x = .ok a ∧ g a = .ok b := by
  refine ⟨of_bind_ok, ?_⟩
  rintro ⟨a, rfl, h⟩
  exact h

/-- A check that fails either refuses or is followed by a failure. -/
theorem of_refusal_eq_error {e : Fault}
    (h : (if refused = true then throw fault >>= f else f ()) = .error e) :
    e = fault ∨ f () = .error e := by
  cases refused with
  | true => exact .inl (Except.error.inj h).symm
  | false => exact .inr h

end Refusals

namespace Workspace

/-- Whether a value describes the import of a package. -/
def DescribesImport (value : Value) (i : PackageImport) : Prop :=
  ∃ entries, value = .dict entries ∧
    valueAt? entries "name" = some (.text i.name) ∧
      valueAt? entries "local-path" = some (.text i.localPath)

/-- Whether a mapping describes a configuration. What it does not say has its default. -/
structure Describes (entries : Entries) (w : Workspace) : Prop where
  known : ∀ entry ∈ entries, ∃ key ∈ knownKeys, entry.1 = .text key
  area : (valueAt? entries "automatic-area").getD (.text defaultArea) = .text w.area
  links : (valueAt? entries "fake-install").getD (.bool true) = .bool w.links
  /-- The imports of the document, in their order. -/
  imports : ∃ items, (valueAt? entries "package-imports").getD (.list []) = .list items ∧
    List.Forall₂ DescribesImport items w.imports
  distinct : (w.imports.map (·.name)).Nodup

/-- Whether a value describes a configuration. -/
inductive Described : Value → Workspace → Prop where
  | null : Described .null {}
  | dict {entries : Entries} {w : Workspace} (describes : Describes entries w) :
    Described (.dict entries) w

/-- Whether all keys of a value, if it is a mapping, are texts. -/
def TextKeyed (value : Value) : Prop :=
  ∀ entries, value = .dict entries → ∀ entry ∈ entries, ∃ key, entry.1 = .text key

section Parts

variable {entries : Entries} {key place label : String} {fault : Fault}

/-- A text that is required is the value of its key. -/
theorem requiredText_eq_ok_iff {s : String} :
    requiredText entries key place = .ok s ↔ valueAt? entries key = some (.text s) := by
  unfold requiredText
  split <;> simp_all

/-- A text that is missing or no text is a fault of the workspace. -/
theorem area_of_requiredText (h : requiredText entries key place = .error fault) :
    fault.area = .workspace := by
  unfold requiredText at h
  split at h <;> cases h <;> rfl

/-- An import is read if the value describes it. -/
theorem readImport_eq_ok_iff {value : Value} {i : PackageImport} :
    readImport place value = .ok i ↔ DescribesImport value i := by
  constructor
  · intro h
    unfold readImport at h
    split at h
    · rename_i entries
      obtain ⟨name, hname, h⟩ := of_bind_ok h
      obtain ⟨localPath, hpath, h⟩ := of_bind_ok h
      cases h
      exact ⟨entries, rfl, requiredText_eq_ok_iff.1 hname, requiredText_eq_ok_iff.1 hpath⟩
    · cases h
  · rintro ⟨entries, rfl, hname, hpath⟩
    simp only [readImport, requiredText_eq_ok_iff.2 hname, requiredText_eq_ok_iff.2 hpath]
    rfl

/-- A value that describes no import is a fault of the workspace. -/
theorem area_of_readImport {value : Value} (h : readImport place value = .error fault) :
    fault.area = .workspace := by
  unfold readImport at h
  split at h
  · rcases of_bind_error h with h | ⟨_, -, h⟩
    · exact area_of_requiredText h
    · rcases of_bind_error h with h | ⟨_, -, h⟩
      · exact area_of_requiredText h
      · cases h
  · cases h
    rfl

/-- The automatic area is a text, or the default one. -/
theorem readArea_eq_ok_iff {s : String} :
    readArea label entries = .ok s ↔
      (valueAt? entries "automatic-area").getD (.text defaultArea) = .text s := by
  unfold readArea
  cases h : valueAt? entries "automatic-area" with
  | none => simp
  | some value => simp [requiredText_eq_ok_iff, h]

/-- An automatic area that is no text is a fault of the workspace. -/
theorem area_of_readArea (h : readArea label entries = .error fault) : fault.area = .workspace := by
  unfold readArea at h
  split at h
  · exact area_of_requiredText h
  · cases h

/-- Whether links are made is a truth value, or the default one. -/
theorem readLinks_eq_ok_iff {b : Bool} :
    readLinks label entries = .ok b ↔
      (valueAt? entries "fake-install").getD (.bool true) = .bool b := by
  unfold readLinks
  split
  · simp_all
  · simp_all
  · rename_i value other present
    rw [present, Option.getD_some]
    exact iff_of_false nofun (other b)

/-- A value for links that is no truth value is a fault of the workspace. -/
theorem area_of_readLinks (h : readLinks label entries = .error fault) :
    fault.area = .workspace := by
  unfold readLinks at h
  split at h <;> cases h
  rfl

/-- The imports are read in their order. -/
theorem readImports_eq_ok_iff {imports : List PackageImport} :
    readImports label entries = .ok imports ↔
    ∃ items, (valueAt? entries "package-imports").getD (.list []) = .list items ∧
      List.Forall₂ DescribesImport items imports := by
  unfold readImports
  split
  · rename_i absent
    simp [absent, eq_comm]
  · rename_i items present
    rw [mapM_eq_ok_iff, present]
    simp only [readImport_eq_ok_iff, Option.getD_some, Value.list.injEq, exists_eq_left']
    rw [← List.forall₂_map_left_iff (f := Prod.fst), List.zipIdx_map_fst]
  · rename_i value other present
    simp only [present, reduceCtorEq, Option.getD_some, false_iff, not_exists, not_and]
    rintro items rfl
    exact absurd rfl (other items)

/-- Imports that are no list of descriptions are a fault of the workspace. -/
theorem area_of_readImports (h : readImports label entries = .error fault) :
    fault.area = .workspace := by
  unfold readImports at h
  split at h
  · cases h
  · obtain ⟨_, -, h⟩ := exists_of_mapM_error h
    exact area_of_readImport h
  · cases h
    rfl

/-- No name is repeated exactly if the names are distinct. -/
theorem repeatedNames_isEmpty_iff {names : List String} :
    (repeatedNames names).isEmpty = true ↔ names.Nodup := by
  have empty : (repeatedNames names).isEmpty = true ↔ ∀ name ∈ names, names.count name ≤ 1 := by
    rw [repeatedNames, List.isEmpty_iff, List.eq_nil_iff_forall_not_mem]
    simp
  rw [empty, List.nodup_iff_count_le_one]
  refine ⟨fun h name => ?_, fun h name _ => h name⟩
  by_cases mem : name ∈ names
  · exact h name mem
  · simp [List.count_eq_zero_of_not_mem mem]

/-- The keys of a mapping that are not known. -/
theorem mem_unknown_iff {key : Value} :
    key ∈ ((entries.map (·.1)).filter
      fun key => !knownKeys.any fun known => key.sameKey (.text known)) ↔
      key ∈ entries.map (·.1) ∧ ∀ known ∈ knownKeys, key ≠ .text known := by
  simp [List.mem_filter, Yaml.Value.sameKey_text_iff]

/-- The unknown keys can be listed exactly if all keys are texts. -/
theorem exists_unknownKeys_iff :
    (∃ unknown, unknownKeys entries = .ok unknown) ↔
      ∀ entry ∈ entries, ∃ key, entry.1 = .text key := by
  unfold unknownKeys
  simp only [exists_bind_pure_ok_iff, exists_mapM_ok_iff, mem_unknown_iff, and_imp,
    List.forall_mem_map]
  refine forall₂_congr fun entry _ => ?_
  cases entry.1 with
  | text key => simp
  | _ => simp [knownKeys]

/-- Unknown keys cannot be listed only where they cannot be ordered. -/
theorem eq_of_unknownKeys (h : unknownKeys entries = .error fault) : fault = .keysUnordered := by
  unfold unknownKeys at h
  rcases of_bind_error h with h | ⟨_, -, h⟩
  · obtain ⟨key, -, h⟩ := exists_of_mapM_error h
    cases key <;> cases h
    all_goals rfl
  · cases h

/-- No key is listed exactly if all keys are known. -/
theorem isEmpty_of_unknownKeys {unknown : List String} (h : unknownKeys entries = .ok unknown) :
    unknown.isEmpty = true ↔ ∀ entry ∈ entries, ∃ key ∈ knownKeys, entry.1 = .text key := by
  unfold unknownKeys at h
  obtain ⟨names, each, h⟩ := of_bind_ok h
  cases h
  have listed := mem_of_mapM_ok each
  rw [List.isEmpty_iff, List.eq_nil_iff_forall_not_mem]
  simp only [NameSet.mem_toList, NameSet.mem_ofList]
  constructor
  · intro none entry mem
    by_contra notKnown
    have notKnown : ∀ key ∈ knownKeys, entry.1 ≠ .text key :=
      fun key isKnown same => notKnown ⟨key, isKnown, same⟩
    obtain ⟨name, among, -⟩ :=
      listed.1 entry.1 (mem_unknown_iff.2 ⟨List.mem_map_of_mem mem, notKnown⟩)
    exact none name among
  · intro known name among
    obtain ⟨_, unknown, -⟩ := listed.2 name among
    obtain ⟨ofMapping, notKnown⟩ := mem_unknown_iff.1 unknown
    obtain ⟨entry, mem, rfl⟩ := List.mem_map.1 ofMapping
    obtain ⟨key, isKnown, same⟩ := known entry mem
    exact notKnown key isKnown same

end Parts

/-- A mapping is accepted exactly if it describes a configuration. -/
theorem ofValue_dict_eq_ok_iff {label : String} {entries : Entries} {w : Workspace} :
    ofValue label (.dict entries) = .ok w ↔ Describes entries w := by
  constructor
  · intro h
    obtain ⟨unknown, listed, h⟩ := of_bind_ok h
    obtain ⟨noneUnknown, h⟩ := refusal_eq_ok_iff.1 h
    obtain ⟨area, harea, h⟩ := of_bind_ok h
    obtain ⟨links, hlinks, h⟩ := of_bind_ok h
    obtain ⟨imports, himports, h⟩ := of_bind_ok h
    obtain ⟨noneRepeated, h⟩ := refusal_eq_ok_iff.1 h
    cases h
    exact {
      known := (isEmpty_of_unknownKeys listed).1 (by simpa using noneUnknown)
      area := readArea_eq_ok_iff.1 harea
      links := readLinks_eq_ok_iff.1 hlinks
      imports := readImports_eq_ok_iff.1 himports
      distinct := repeatedNames_isEmpty_iff.1 (by simpa using noneRepeated) }
  · intro h
    obtain ⟨unknown, listed⟩ := exists_unknownKeys_iff.2 fun entry mem =>
      let ⟨key, _, same⟩ := h.known entry mem
      ⟨key, same⟩
    have noneUnknown : (!unknown.isEmpty) = false := by
      simpa using (isEmpty_of_unknownKeys listed).2 h.known
    have noneRepeated : (!(repeatedNames (w.imports.map (·.name))).isEmpty) = false := by
      simpa using repeatedNames_isEmpty_iff.2 h.distinct
    refine bind_eq_ok_iff.2 ⟨unknown, listed, refusal_eq_ok_iff.2 ⟨noneUnknown, ?_⟩⟩
    refine bind_eq_ok_iff.2 ⟨w.area, readArea_eq_ok_iff.2 h.area, ?_⟩
    refine bind_eq_ok_iff.2 ⟨w.links, readLinks_eq_ok_iff.2 h.links, ?_⟩
    refine bind_eq_ok_iff.2 ⟨w.imports, readImports_eq_ok_iff.2 h.imports, ?_⟩
    exact refusal_eq_ok_iff.2 ⟨noneRepeated, rfl⟩

/-- A value is accepted exactly if it describes a configuration. -/
theorem ofValue_eq_ok_iff {label : String} {value : Value} {w : Workspace} :
    ofValue label value = .ok w ↔ Described value w := by
  cases value with
  | null =>
    constructor
    · rintro ⟨⟩
      exact .null
    · rintro ⟨⟩
      rfl
  | dict entries =>
    rw [ofValue_dict_eq_ok_iff]
    constructor
    · exact .dict
    · rintro ⟨⟩
      assumption
  | _ => exact iff_of_false nofun nofun

/-- A value whose keys are texts is refused with a fault of workspace configurations. -/
theorem area_of_ofValue {label : String} {value : Value} (texts : TextKeyed value) {fault : Fault}
    (h : ofValue label value = .error fault) : fault.area = .workspace := by
  cases value with
  | null => cases h
  | dict entries =>
    obtain ⟨unknown, listed⟩ := exists_unknownKeys_iff.2 (texts entries rfl)
    rcases of_bind_error h with h | ⟨_, -, h⟩
    · rw [listed] at h
      cases h
    rcases of_refusal_eq_error h with rfl | h
    · rfl
    rcases of_bind_error h with h | ⟨_, -, h⟩
    · exact area_of_readArea h
    rcases of_bind_error h with h | ⟨_, -, h⟩
    · exact area_of_readLinks h
    rcases of_bind_error h with h | ⟨_, -, h⟩
    · exact area_of_readImports h
    rcases of_refusal_eq_error h with rfl | h
    · rfl
    · cases h
  | _ =>
    cases h
    rfl

/-- The keys of a mapping are looked at before all else. -/
theorem ofValue_of_not_textKeyed (label : String) {value : Value} (other : ¬TextKeyed value) :
    ofValue label value = .error .keysUnordered := by
  cases value with
  | dict entries =>
    cases listed : unknownKeys entries with
    | ok unknown =>
      exact absurd
        (fun _ same => by cases same; exact exists_unknownKeys_iff.1 ⟨unknown, listed⟩) other
    | error fault =>
      obtain rfl := eq_of_unknownKeys listed
      change unknownKeys entries >>= _ = _
      rw [listed]
      rfl
  | _ => exact absurd (fun _ same => by cases same) other

end Workspace

namespace PackageMap

/-- A package of a new name comes last. -/
theorem insert_of_new {m : PackageMap} {name : String} (new : name ∉ m.names) (path : Path) :
    m.insert name path = ⟨m.entries ++ [(name, path)]⟩ := by
  have absent : m.entries.lookup name = none := by
    rw [List.lookup_eq_none_iff]
    rintro ⟨n, p⟩ mem
    simpa using fun same => new (List.mem_map.2 ⟨(n, p), mem, same.symm⟩)
  rw [insert, absent]
  rfl

/-- Packages of different names are all kept, in their order. -/
theorem entries_ofList {entries : List (String × Path)} (distinct : (entries.map (·.1)).Nodup) :
    (ofList entries).entries = entries := by
  have kept (m : PackageMap) (entries : List (String × Path))
      (distinct : (m.names ++ entries.map (·.1)).Nodup) :
      (entries.foldl (fun m entry => m.insert entry.1 entry.2) m).entries =
        m.entries ++ entries := by
    induction entries generalizing m with
    | nil => simp
    | cons entry entries ih =>
      obtain ⟨name, path⟩ := entry
      have new : name ∉ m.names := by
        rw [List.map_cons, List.nodup_append] at distinct
        exact fun mem => distinct.2.2 name mem name List.mem_cons_self rfl
      change (entries.foldl _ (m.insert name path)).entries = _
      rw [insert_of_new new path, ih]
      · simp
      · simpa [names] using distinct
  have start : ((({} : PackageMap).names) ++ entries.map (·.1)).Nodup := distinct
  exact (kept {} entries start).trans (List.nil_append entries)

end PackageMap

namespace Workspace

/-- Whether the directories of packages are those of the imports, each of them in its place. -/
def Locates (w : Workspace) (root : Path) (files : Files.Tree) (packages : PackageMap) : Prop :=
  List.Forall₂ (fun i package => package.1 = i.name ∧
    ∃ place, files.reach (root.join i.localPath) = some place ∧
      package.2 = ⟨"/", place⟩) w.imports packages.entries

/-- The directories of the imports are looked up, and none is dropped where the names are
distinct. -/
theorem ends_packageMap {w : Workspace} (distinct : (w.imports.map (·.name)).Nodup) (root : Path)
    (s : Store) :
    Ends (w.packageMap root) s (fun packages t => t = s ∧ w.Locates root s.files packages)
      fun _ t => t = s := by
  have looks (i : PackageImport) : Keeps (fun t => t = s) (fun _ => True)
      (do return (i.name, ← Work.onFiles (Files.Change.resolve (root.join i.localPath))))
      fun package _ => package.1 = i.name ∧
        ∃ place, s.files.reach (root.join i.localPath) = some place ∧ package.2 = ⟨"/", place⟩ := by
    rintro _ rfl
    refine ends_bind.2 (Work.ends_onFiles.2 ((Files.Change.ends_resolve _ _).mono ?_ ?_))
    · rintro path _ ⟨rfl, place, reached, rfl⟩
      exact ⟨rfl, rfl, place, reached, rfl⟩
    · rintro _ _ rfl _
      rfl
  have each := keeps_mapM fun i (_ : i ∈ w.imports) => looks i
  refine ends_bind.2 ((each s rfl).mono ?_ fun _ _ h => h trivial)
  rintro entries t ⟨rfl, located⟩
  have names : List.Forall₂ Eq (entries.map (·.1)) (w.imports.map (·.name)) := by
    rw [List.forall₂_map_left_iff, List.forall₂_map_right_iff]
    exact (located.imp fun _ _ h => h.1).flip
  rw [List.forall₂_eq_eq_eq] at names
  refine ⟨rfl, ?_⟩
  rw [Locates, PackageMap.entries_ofList (names ▸ distinct)]
  exact located

/-- A value is accepted as a configuration exactly if it describes one. The configuration then has
the imports of the document, in their order and with distinct names, and none of them is dropped
where the packages are looked up. A value that is refused is refused with a fault of workspace
configurations, unless it is a mapping with a key that is no text; then the unknown keys cannot be
listed. -/
theorem configuration_read (label : String) (value : Value) :
    (∀ w, ofValue label value = .ok w ↔ Described value w) ∧
    (∀ w, ofValue label value = .ok w → (w.imports.map (·.name)).Nodup ∧ ∀ root s,
      Ends (w.packageMap root) s (fun packages t => t = s ∧ w.Locates root s.files packages)
        fun _ t => t = s) ∧
    ((∀ fault, ofValue label value = .error fault → fault.area = .workspace) ↔ TextKeyed value) ∧
    (¬TextKeyed value → ofValue label value = .error .keysUnordered) := by
  refine ⟨fun w => ofValue_eq_ok_iff, fun w accepted => ?_,
    ⟨fun confined => ?_, fun texts fault => area_of_ofValue texts⟩, ofValue_of_not_textKeyed label⟩
  · have distinct : (w.imports.map (·.name)).Nodup := by
      cases ofValue_eq_ok_iff.1 accepted with
      | null => exact List.nodup_nil
      | dict describes => exact describes.distinct
    exact ⟨distinct, fun root s => ends_packageMap distinct root s⟩
  · by_contra other
    cases confined _ (ofValue_of_not_textKeyed label other)

/-- A mapping with a number for a key is refused with a fault that is none of workspace
configurations. -/
theorem configuration_read_numberedKey :
    let value : Value := .dict [(.int 1, .text "x")]
    ¬TextKeyed value ∧ ofValue "w.yaml" value = .error .keysUnordered ∧
      Fault.keysUnordered.area ≠ .workspace := by
  intro value
  have other : ¬TextKeyed value := by
    intro texts
    obtain ⟨key, same⟩ := texts _ rfl _ List.mem_cons_self
    cases same
  exact ⟨other, (configuration_read "w.yaml" value).2.2.2 other, by decide⟩

end Workspace

end Componentry
