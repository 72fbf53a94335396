import Componentry.Proofs.Evolution
import Componentry.Proofs.InstalledPackages
import Componentry.Proofs.OpaqueRules
import Componentry.Proofs.WrittenDocuments

/-!
# Packages with typekits

A descriptor that can be read gives a complete typekit with a registry of its own, in every state of
a run. A package that holds such a descriptor can be imported into every project of its own that
finds the package and did not ask for it before: the import makes the registry and the typekit, and
nothing else changes but the slot of the typekit and the log.
-/

namespace Componentry

open Files

namespace Work

/-- An operation on the typekit that was made last, and on the registry that was made with it. -/
theorem ends_onTypekit_last {α : Type} {x : Typekit.Change α} {s : Store} {r : Registry}
    {k : Typekit} (own : k.registry = ⟨s.registries.length⟩) {P : α → Store → Prop}
    {F : Fault → Store → Prop} :
    Ends (onTypekit ⟨s.typekits.length⟩ x) (withTypekit s r k) P F ↔
      Ends x (k, r) (fun a kr => P a (withTypekit s kr.2 kr.1)) fun fault kr =>
        F fault (withTypekit s kr.2 kr.1) := by
  rw [ends_onTypekit, typekit_withTypekit, registry_withTypekit own, own]
  simp [withTypekit]

/-- Rules are added to the typekit that was made last as they are added to a typekit. -/
theorem ends_forM_addRule_last {rules : List OpaqueRule} {s : Store} {r : Registry} {k : Typekit}
    (own : k.registry = ⟨s.registries.length⟩) {P : Store → Prop}
    (h : Ends (rules.forM Typekit.addRule) (k, r) (fun _ kr => P (withTypekit s kr.2 kr.1))
        fun _ _ => False) :
    Ends (rules.forM fun rule => onTypekit ⟨s.typekits.length⟩ (Typekit.addRule rule))
      (withTypekit s r k) (fun _ t => P t) fun _ _ => False := by
  induction rules generalizing k r with
  | nil => exact h
  | cons rule rules ih =>
    refine ends_bind.2 ((ends_onTypekit_last own).2 ?_)
    refine ((ends_bind.1 h).and (Typekit.ends_addRule_last rule k r)).mono ?_ fun _ _ h => h.1
    rintro _ kr ⟨others, -, -, registry, -⟩
    exact ih (registry.trans own) others

/-- Whether a descriptor and a typelist give, in every state, a complete typekit with a registry of
its own. The typekit is told but for the name of the registry. -/
structure MakesTypekit (name : String) (package : Option Package) (xml typelist : String)
    (r : Registry) (k : Typekit) : Prop where
  ends : ∀ s, Ends (typekitOfDescriptor name package xml typelist) s
    (fun id t => id = ⟨s.typekits.length⟩ ∧
      t = withTypekit s r { k with registry := ⟨s.registries.length⟩, frozen := true })
    fun _ _ => False

/-- A typekit is made from a descriptor and a typelist that are read, with the rules of the
descriptor. -/
theorem makesTypekit_of_read {name xml typelist : String} {package : Option Package}
    {added : List String} {r : Registry} {types : Typelist} {rules : List OpaqueRule}
    {k k' : Typekit} (merged : Descriptor.mergeInto xml .standard = .ok added r)
    (parsed : Typelist.parse typelist = .ok types)
    (new : ∀ id, Typekit.new name id types.exported.toList types.interface.toList package =
      .ok { k with registry := id })
    (read : Descriptor.opaqueRules xml = .ok rules)
    (ruled : ∀ id, Ends (rules.forM Typekit.addRule) ({ k with registry := id }, r)
        (fun _ kr => kr = ({ k' with registry := id }, r)) fun _ _ => False) :
    MakesTypekit name package xml typelist r k' := by
  refine ⟨fun s => ?_⟩
  have registered : Ends (onRegistry ⟨s.registries.length⟩ (Descriptor.mergeInto xml))
      { s with registries := s.registries ++ [.standard] }
      (fun _ t => t = { s with registries := s.registries ++ [r] }) fun _ _ => False := by
    have last : ({ s with registries := s.registries ++ [.standard] } :
        Store).registry ⟨s.registries.length⟩ = .standard := by simp [Store.registry]
    rw [ends_onRegistry, last]
    exact ends_of_eq_ok merged (by simp)
  let fresh : Typekit := { k with registry := ⟨s.registries.length⟩ }
  let made : Typekit := { k' with registry := ⟨s.registries.length⟩ }
  have rulesAdded :
      Ends (rules.forM fun rule => onTypekit ⟨s.typekits.length⟩ (Typekit.addRule rule))
      (withTypekit s r fresh) (fun _ t => t = withTypekit s r made) fun _ _ => False :=
    ends_forM_addRule_last rfl ((ruled _).mono (fun _ _ same => by rw [same]) fun _ _ h => h)
  unfold typekitOfDescriptor
  refine ends_bind.2 (ends_newRegistry.2 (ends_bind.2 (registered.mono ?_ fun _ _ h => h)))
  rintro _ _ rfl
  rw [parsed]
  refine ends_bind.2 (ends_of_eq_ok rfl ?_)
  rw [new, read]
  refine ends_bind.2
    (ends_of_eq_ok rfl (ends_bind.2 (ends_newTypekit.2 (ends_bind.2 (ends_of_eq_ok rfl ?_)))))
  refine ends_bind.2 (rulesAdded.mono ?_ fun _ _ h => h)
  rintro _ _ rfl
  refine ends_bind.2 (ends_modify.2 (ends_pure.2 ⟨rfl, ?_⟩))
  simp [withTypekit, List.modify_eq_set, made]

/-- A typekit is made from a descriptor with one rule, for a type without dependencies. -/
theorem makesTypekit_of_rule {name xml : String} {package : Option Package} {added : List String}
    {r : Registry} {rule : OpaqueRule} {t : TypeDef}
    (merged : Descriptor.mergeInto xml .standard = .ok added r)
    (read : Descriptor.opaqueRules xml = .ok [rule])
    (found : r.find? (Typename.normalize rule.typeName) = some t) (leaf : t.dependencies = []) :
    MakesTypekit name package xml "" r { name, package, registry := ⟨0⟩, opaques := [rule]
                                         opaqueRegistry := Registry.empty.append t rfl } := by
  have parsed : Typelist.parse "" = .ok .empty := by decide +kernel
  refine makesTypekit_of_read (k := { name, package, registry := ⟨0⟩ }) merged parsed
    (fun _ => rfl) read fun id => ?_
  refine ends_bind.2 ((Typekit.ends_addRule_leaf rule rfl found leaf rfl).mono ?_ fun _ _ h => h)
  rintro _ _ rfl
  rfl

/-- A typekit is made from a descriptor that is read as types, has no rules for opaque types, and
comes without a typelist. -/
theorem makesTypekit_of_types {name xml : String} {package : Option Package} {types : List TypeDef}
    {added : List String} {r : Registry} (typed : Descriptor.types xml = .ok types)
    (unruled : Descriptor.opaqueRules xml = .ok [])
    (merged : Registry.addAll types .standard = .ok added r) :
    MakesTypekit name package xml "" r { name, package, registry := ⟨0⟩ } := by
  have parsed : Typelist.parse "" = .ok .empty := by decide +kernel
  rw [← Registry.mergeInto_eq_addAll typed] at merged
  exact makesTypekit_of_read merged parsed (fun _ => rfl) unruled fun _ => rfl

end Work

/-- Whether a package is in a file tree with the given texts of a type descriptor and, if there is
one, of a typelist. -/
structure Package.HoldsTypekit (k : Package) (t : Tree) (xml : String)
    (typelist : Option String) : Prop where
  directory : t.LeadsTo k.path (some .directory)
  descriptor : t.LeadsTo k.registryFile (some (.file xml.toUTF8))
  typelist : t.LeadsTo k.typelistFile (typelist.map fun text => .file text.toUTF8)

/-- The state after a typekit of a package was loaded. -/
def Work.withLoadedTypekit (name : String) (path : Path) (r : Registry) (k : Typekit)
    (s : Store) : Store :=
  Work.withTypekit
    { s with
      log := s.log ++
        [⟨.info, ProjectId.logName, s!"loading typekit {name} from {path.toText}"⟩] } r
    { k with registry := ⟨s.registries.length⟩, frozen := true }

/-- The state after a typekit of a package was imported. -/
def ProjectId.withImportedTypekit (p : ProjectId) (name : String) (path : Path) (r : Registry)
    (k : Typekit) (s : Store) : Store :=
  p.withTypekitSlot name (.resolved (some ⟨s.typekits.length⟩))
    (Work.withLoadedTypekit name path r k (p.withTypekitSlot name .resolving s))

namespace Package.HoldsTypekit

variable {name xml : String} {typelist : Option String} {path : Path} {s : Store} {r : Registry}
  {k : Typekit}

/-- The texts of a typekit are read as they were written, but for their line ends. -/
theorem ends_readTypekitFiles {package : Package}
    (holds : package.HoldsTypekit s.files xml typelist) :
    Ends (ProjectId.readTypekitFiles name package) s
      (fun texts t => texts = (Text.unified xml, (typelist.map Text.unified).getD "") ∧ t = s)
      fun _ _ => False := by
  unfold ProjectId.readTypekitFiles
  refine ends_tryCatch.2
    (Work.ends_onFiles.2 (ends_bind.2 (ends_of_eq_ok holds.descriptor.readText ?_)))
  refine ends_bind.2 (ends_of_eq_ok holds.typelist.isPresent ?_)
  cases typelist with
  | none => exact ⟨rfl, rfl⟩
  | some text => exact ends_bind.2 (ends_of_eq_ok holds.typelist.readText ⟨rfl, rfl⟩)

/-- The typekit of a package that is found is loaded. -/
theorem ends_loadTypekitPackage {p : ProjectId}
    (holds : (Package.atPath name path).HoldsTypekit s.files xml typelist)
    (entry : (s.packageMap (s.project p).packages).entries.lookup name = some path)
    (makes : Work.MakesTypekit name (some (.atPath name path)) (Text.unified xml)
        ((typelist.map Text.unified).getD "") r k) :
    Ends (p.loadTypekitPackage name) s
      (fun id? t => id? = some ⟨s.typekits.length⟩ ∧ t = Work.withLoadedTypekit name path r k s)
      fun _ _ => False := by
  unfold ProjectId.loadTypekitPackage Work.orNoPackage
  refine ends_bind.2 (ends_bind.2 (ends_tryCatch.2 (ends_map.2 (Work.ends_onFiles.2 ?_))))
  refine ends_of_eq_ok (PackageMap.find_of_leadsTo entry holds.directory) ?_
  refine ends_bind.2 (Work.ends_onFiles.2 (ends_of_eq_ok holds.descriptor.isFile ?_))
  refine ends_bind.2 (holds.ends_readTypekitFiles.mono ?_ fun _ _ h => h)
  rintro _ _ ⟨rfl, rfl⟩
  dsimp only
  rw [ends_bind, Work.log, ends_modify, ends_map]
  refine (makes.ends _).mono ?_ fun _ _ h => h
  rintro _ _ ⟨rfl, rfl⟩
  exact ⟨rfl, rfl⟩

/-- A typekit is imported, if a project of its own finds the package and did not ask for it
before. -/
theorem ends_importTypekit {p : ProjectId}
    (holds : (Package.atPath name path).HoldsTypekit s.files xml typelist)
    (scope : s.projects.scope p = p)
    (slot : Project.slotOf (s.project p).typekitSlots name = .unresolved)
    (entry : (s.packageMap (s.project p).packages).entries.lookup name = some path)
    (makes : Work.MakesTypekit name (some (.atPath name path)) (Text.unified xml)
        ((typelist.map Text.unified).getD "") r k) :
    Ends (p.importTypekit name) s
      (fun id t => id = ⟨s.typekits.length⟩ ∧ t = p.withImportedTypekit name path r k s)
      fun _ _ => False := by
  unfold ProjectId.importTypekit ProjectId.importedTypekit ProjectId.scope
  simp only [ends_bind, ends_get, ends_pure, scope]
  refine Slot.ends_resolve_of_unresolved slot ?_
  have project :
      ((p.withTypekitSlot name .resolving s).project p).packages = (s.project p).packages :=
    Projects.apply_modify (·.packages) (fun _ => by rfl) s.projects p p
  refine (ends_loadTypekitPackage (s := p.withTypekitSlot name .resolving s) holds ?_ makes).mono ?_
    fun _ _ h => h
  · rw [project]
    exact entry
  · rintro _ _ ⟨rfl, rfl⟩
    exact ⟨rfl, rfl⟩

/-- A run that begins with such an import goes on from the state after it. -/
theorem runAll_importTypekit {p : ProjectId} (calls : List Call)
    (holds : (Package.atPath name path).HoldsTypekit s.files xml typelist)
    (scope : s.projects.scope p = p)
    (slot : Project.slotOf (s.project p).typekitSlots name = .unresolved)
    (entry : (s.packageMap (s.project p).packages).entries.lookup name = some path)
    (makes : Work.MakesTypekit name (some (.atPath name path)) (Text.unified xml)
        ((typelist.map Text.unified).getD "") r k) :
    Call.runAll (.declare (.importTypekit p name) :: calls) s =
      Call.runAll calls (p.withImportedTypekit name path r k s) := by
  have after :
      (Call.declare (.importTypekit p name)).run.after s = p.withImportedTypekit name path r k s :=
    Work.after_of_ends (ends_map.2
      ((holds.ends_importTypekit scope slot entry makes).mono (fun _ _ h => h.2)
      fun _ _ h => h.elim))
  rw [← after]
  rfl

end Package.HoldsTypekit

/-- A type of angles, with wide numbers or narrow ones. -/
def angle (wide : Bool) : TypeDef :=
  { name := "/geo/Angle", kind := .numeric, category := some "float",
    size := some (if wide then 8 else 4) }

/-- A descriptor that defines the type of angles. -/
def angleDescriptor (wide : Bool) : Xml.Element :=
  .node "typelib" [] [.node "numeric"
    [("name", "/geo/Angle"), ("category", "float"), ("size", if wide then "8" else "4")] []]

/-- The standard types define no angles. -/
theorem find?_angle (wide : Bool) : Registry.standard.find? (angle wide).name = none := by
  change Registry.standard.find? "/geo/Angle" = none
  decide +kernel

/-- The standard types and that of angles. -/
def angleTypes (wide : Bool) : Registry :=
  Registry.standard.append (angle wide) (find?_angle wide)

/-- A typekit with the type of angles. -/
def angleTypekit (name : String) (package : Option Package) : Typekit :=
  { name, package, registry := ⟨0⟩ }

/-- The descriptors of angles are plain. -/
theorem isPlain_angleDescriptor : ∀ wide, (angleDescriptor wide).isPlain = true := by decide +kernel

/-- The descriptor is read as the type of angles. -/
theorem types_angleDescriptor (wide : Bool) :
    Descriptor.types (String.ofList (angleDescriptor wide).written) = .ok [angle wide] := by
  rw [Descriptor.types, Descriptor.root_written (isPlain_angleDescriptor wide)]
  cases wide <;> with_unfolding_all rfl

/-- The type of angles is added to the standard types. -/
theorem addAll_angle (wide : Bool) :
    Registry.addAll [angle wide] .standard = .ok ["/geo/Angle"] (angleTypes wide) :=
  Registry.addAll_of_new (find?_angle wide)

/-- The descriptor is made into a typekit with the type of angles. -/
theorem makesTypekit_angle (wide : Bool) (name : String) (package : Option Package) :
    Work.MakesTypekit name package (Text.unified (String.ofList (angleDescriptor wide).written)) ""
      (angleTypes wide) (angleTypekit name package) := by
  have unruled :
      Descriptor.opaqueRules (String.ofList (angleDescriptor wide).written) = .ok [] := by
    rw [Descriptor.opaqueRules, Descriptor.root_written (isPlain_angleDescriptor wide)]
    rfl
  rw [Xml.Element.unified_written (isPlain_angleDescriptor wide)]
  exact Work.makesTypekit_of_types (types_angleDescriptor wide) unruled (addAll_angle wide)

/-- Packages with typekits, of which the first two define the same type of angles and the last one
another one. -/
def anglePackages : Store where
  files := ⟨["a", "b", "c"].flatMap fun name => [([name], .directory),
    ([name, name ++ ".tlb"], .file (String.ofList (angleDescriptor (name != "c")).written).toUTF8)]⟩
  packageMaps := [⟨["a", "b", "c"].map fun name => (name, ⟨"/", [name]⟩)⟩]

/-- Each of the packages holds its typekit. -/
theorem holdsTypekit_anglePackages {name : String} (h : name ∈ ["a", "b", "c"]) :
    (Package.atPath name ⟨"/", [name]⟩).HoldsTypekit anglePackages.files
      (String.ofList (angleDescriptor (name != "c")).written) none := by
  have solid : anglePackages.files.Solid [name] := by
    refine (Files.Tree.Solid.root _).down ?_ ?_ ?_ <;> revert name <;> decide +kernel
  refine ⟨.directory solid ?_, .inside (name ++ ".tlb") solid ?_ ?_ ?_ ?_ ?_ nofun nofun,
    .inside (name ++ ".typelist") solid ?_ ?_ ?_ ?_ ?_ nofun nofun⟩ <;>
      clear solid <;> revert name <;> decide +kernel

end Componentry
