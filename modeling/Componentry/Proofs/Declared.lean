import Componentry.Proofs.Edits
import Componentry.Proofs.Reading
import Componentry.Proofs.Slots

/-!
# What declarations can do

Looking up types, importing typekits and declaring types, components and members change the state of
a run by a few kinds of steps, whichever of them fails and wherever it does. `Declared` lists the
steps with what is known when they are taken, and every property of the state that all of them keep
holds along any run of declarations.
-/

namespace Componentry

/-- The interface with one more member of its own. -/
def Interface.withMember (i : Interface) : Member → Interface
  | .port p =>
    if p.isDynamic then { i with dynamicPorts := i.dynamicPorts ++ [p] }
      else { i with ports := i.ports ++ [p] }
  | .property s => { i with properties := i.properties ++ [s] }
  | .attribute s => { i with attributes := i.attributes ++ [s] }
  | .operation o => { i with operations := i.operations ++ [o] }
  | .plain .. => i

/-- A member leaves an interface with its project. -/
theorem Interface.project_withMember (i : Interface) (m : Member) :
    (i.withMember m).project = i.project := by
  cases m with
  | port p =>
    rw [withMember]
    split <;> rfl
  | _ => rfl

/-- A member leaves an interface with its name. -/
theorem Interface.name_withMember (i : Interface) (m : Member) :
    (i.withMember m).name = i.name := by
  cases m with
  | port p =>
    rw [withMember]
    split <;> rfl
  | _ => rfl

/-- What an operation keeps from its declaration on. -/
def Operation.outline (o : Operation) : Operation :=
  { name := o.name, doc := o.doc, methodName := o.methodName }

/-- Whether an import by name gave a typekit. -/
def Store.Imported (s : Store) (id : TypekitId) : Prop :=
  ∃ p name, Project.slotOf (s.project p).typekitSlots name = .resolved (some id)

/-- One step of a declaration. -/
inductive Declared (s : Store) : Store → Prop where
  | log (line : LogLine) : Declared s { s with log := s.log ++ [line] }
  /-- The registry of a project is extended. -/
  | extend (p : ProjectId) {r : Registry} (grows : (s.registry (s.project p).registry).Extends r) :
      Declared s { s with registries := s.registries.set (s.project p).registry.index r }
  /-- A typekit is loaded with a registry of its own; if the load fails early, only the registry is
  made. -/
  | newRegistry {r : Registry} (grows : Registry.standard.Extends r) :
      Declared s { s with registries := s.registries ++ [r] }
  | newTypekit {r : Registry} {k : Typekit} (grows : Registry.standard.Extends r)
      (registry : k.registry = ⟨s.registries.length⟩) (plain : k.isVirtual = false)
      (within : ∀ n ∈ k.types.interface, n ∈ k.types.exported) :
      Declared s { s with registries := s.registries ++ [r], typekits := s.typekits ++ [k] }
  /-- A typekit that is not complete is edited. -/
  | edit (id : TypekitId) {k : Typekit} {r : Registry} (isOpen : (s.typekit id).frozen = false)
      (edits : Typekit.Edits (s.typekit id, s.registry (s.typekit id).registry) (k, r)) :
      Declared s { s with
        typekits := s.typekits.set id.index k
        registries := s.registries.set (s.typekit id).registry.index r }
  /-- A project gets the typekit that it builds. -/
  | makeTypekit (p : ProjectId) (isAbsent : (s.project p).typekit = none)
      (isOpen : (s.project p).frozen = false) (isMain : (s.project p).isImported = false) :
      Declared s { s with
        typekits :=
          s.typekits ++ [{ name := (s.project p).name, registry := (s.project p).registry }]
        projects := s.projects.modify p ({ · with typekit := some ⟨s.typekits.length⟩ }) }
  /-- The types of a typekit become available in a project. -/
  | useTypekit (p : ProjectId) (id : TypekitId) (unused : id ∉ (s.project p).usedTypekits)
      (merged : (s.project p).registry.index < s.registries.length →
        ∀ t ∈ (s.registry (s.typekit id).registry).types,
            t ∈ (s.registry (s.project p).registry).types) :
      Declared s { s with
        projects := s.projects.modify p fun q => { q with usedTypekits := q.usedTypekits ++ [id] } }
  /-- The import of a typekit by name goes on; what it gives in the end is a complete typekit of a
  package. -/
  | importTypekit (p : ProjectId) (name : String) (slot : Slot (Option TypekitId))
      (complete : ∀ id, slot = .resolved (some id) →
        (s.typekit id).frozen = true ∧ (s.typekit id).package.isSome = true) :
      Declared s { s with
        projects := s.projects.modify p fun q =>
          { q with typekitSlots := Project.setSlot q.typekitSlots name slot } }
  /-- The import of the typekit of a library goes on; what it gives in the end was imported by
  name. -/
  | importOwnTypekit (p : ProjectId) (slot : Slot (Option TypekitId))
      (imported : ∀ id, slot = .resolved (some id) → s.Imported id) :
      Declared s { s with projects := s.projects.modify p ({ · with ownTypekitSlot := slot }) }
  /-- A component is declared under a name that is new in its project. -/
  | addComponent (p : ProjectId) (name : String) (base : Option ComponentId) (doc : Option String)
      (isOpen : (s.project p).frozen = false)
      (unused : ∀ c ∈ (s.project p).components, (s.interface c).name ≠ name)
      (known : ∀ b, base = some b → b.index < s.components.items.length) :
      Declared s { s with
        components := s.components.push
          { interface := { name, project := p, superclass := base,
                           isExternal := (s.project p).isImported, doc } } known
        projects := s.projects.modify p fun q =>
          { q with components := q.components ++ [s.components.next] } }
  /-- A member is declared under a name that is new in its component and the ancestors. -/
  | addMember (c : ComponentId) (m : Member)
      (isOpen : (s.project (s.interface c).project).frozen = false)
      (unused : s.lineage.checkUnused c m.name = .ok ()) :
      Declared s { s with
        components := s.components.modify c fun k =>
          { k with interface := k.interface.withMember m } }
  | trigger (c : ComponentId) (name : String)
      (isOpen : (s.project (s.interface c).project).frozen = false)
      (isInput : ∃ p ∈ (s.interface c).ports, p.name = name ∧ p.isInput = true) :
      Declared s { s with
        components := s.components.modify c fun k => { k with
          interface := { k.interface with
            ports := k.interface.ports.map fun p =>
              if p.name == name then { p with isTrigger := true } else p } } }
  | fixInitialState (c : ComponentId)
      (isOpen : (s.project (s.interface c).project).frozen = false) :
      Declared s { s with
        components := s.components.modify c fun k => { k with
          interface := { k.interface with fixesInitialState := true } } }
  | needConfiguration (c : ComponentId)
      (isOpen : (s.project (s.interface c).project).frozen = false) :
      Declared s { s with
        components := s.components.modify c fun k => { k with
          interface := { k.interface with needsConfiguration := true } } }
  | addCode (c : ComponentId) (f : AddedCode → AddedCode)
      (isOpen : (s.project (s.interface c).project).frozen = false) :
      Declared s { s with components := s.components.modify c fun k => { k with code := f k.code } }
  /-- An operation that was declared before is changed; its outline stays. -/
  | changeOperation (c : ComponentId) (name : String) (f : Operation → Operation)
      (kept : ∀ o, (f o).outline = o.outline) :
      Declared s { s with
        components := s.components.modify c fun k => { k with
          interface := { k.interface with
            operations := k.interface.operations.map fun o =>
              if o.name == name then { f o with name := o.name } else o } } }
  | newOperation (o : Operation) : Declared s { s with freeOperations := s.freeOperations ++ [o] }
  | changeFreeOperation (index : Nat) (f : Operation → Operation) :
      Declared s { s with freeOperations := s.freeOperations.modify index f }

/-- Any number of steps of declarations. -/
def Declares : Store → Store → Prop :=
  Relation.ReflTransGen Declared

/-- What stands in a numbered list after one entry was replaced. -/
theorem getD_set {α : Type} (items : List α) (i j : Nat) (a d : α) :
    ((items.set i a)[j]?).getD d = if j = i ∧ i < items.length then a else (items[j]?).getD d := by
  rw [List.getElem?_set]
  by_cases hj : i = j
  · subst hj
    by_cases hlt : i < items.length
    · simp [hlt]
    · simp [hlt]
  · simp [hj, Ne.symm hj]

/-- What stands in a numbered list may be written there again. -/
theorem set_getD_self {α : Type} (items : List α) (i : Nat) (d : α) :
    items.set i ((items[i]?).getD d) = items := by
  by_cases hlt : i < items.length
  · rw [List.getElem?_eq_getElem hlt, Option.getD_some, List.set_getElem_self]
  · exact List.set_eq_of_length_le (Nat.not_lt.1 hlt)

/-- What stands in a numbered list after one more entry was added. -/
theorem getD_append_singleton {α : Type} (items : List α) (j : Nat) (a d : α) :
    ((items ++ [a])[j]?).getD d = if j = items.length then a else (items[j]?).getD d := by
  rw [List.getElem?_append]
  by_cases hj : j < items.length
  · rw [if_pos hj, if_neg (Nat.ne_of_lt hj)]
  · rw [if_neg hj, List.getElem?_eq_none (Nat.not_lt.1 hj)]
    by_cases heq : j = items.length
    · simp [heq]
    · have past : [a].length ≤ j - items.length := by
        rw [List.length_singleton]
        omega
      rw [if_neg heq, List.getElem?_eq_none past]

namespace Store

variable {s t : Store}

/-- What was not made is as if it held nothing. -/
theorem registry_of_unmade {id : RegistryId} (past : ¬id.index < s.registries.length) :
    s.registry id = .empty := by
  rw [registry, List.getElem?_eq_none (Nat.not_lt.1 past)]
  rfl

/-- A typekit that was not made is the default one. -/
theorem typekit_of_unmade {id : TypekitId} (past : ¬id.index < s.typekits.length) :
    s.typekit id = default := by
  rw [typekit, List.getElem?_eq_none (Nat.not_lt.1 past)]
  rfl

/-- A project that was not made is the default one. -/
theorem project_of_unmade {p : ProjectId} (past : ¬p.index < s.projects.items.length) :
    s.project p = default := by
  rw [project, Projects.get, List.getElem?_eq_none (Nat.not_lt.1 past)]
  rfl

/-- A registry after one of the registries was replaced. -/
theorem registry_of_set {id : RegistryId} {r : Registry}
    (h : t.registries = s.registries.set id.index r) (q : RegistryId) :
    t.registry q = if q = id ∧ id.index < s.registries.length then r else s.registry q := by
  rw [registry, h, getD_set, registry]
  cases q
  cases id
  simp only [RegistryId.mk.injEq]

/-- A registry after one more was made. -/
theorem registry_of_append {r : Registry} (h : t.registries = s.registries ++ [r])
    (q : RegistryId) :
    t.registry q = if q = ⟨s.registries.length⟩ then r else s.registry q := by
  rw [registry, h, getD_append_singleton, registry]
  cases q
  simp only [RegistryId.mk.injEq]

/-- A typekit after one of the typekits was replaced. -/
theorem typekit_of_set {id : TypekitId} {k : Typekit} (h : t.typekits = s.typekits.set id.index k)
    (q : TypekitId) :
    t.typekit q = if q = id ∧ id.index < s.typekits.length then k else s.typekit q := by
  rw [typekit, h, getD_set, typekit]
  cases q
  cases id
  simp only [TypekitId.mk.injEq]

/-- A typekit after one more was made. -/
theorem typekit_of_append {k : Typekit} (h : t.typekits = s.typekits ++ [k]) (q : TypekitId) :
    t.typekit q = if q = ⟨s.typekits.length⟩ then k else s.typekit q := by
  rw [typekit, h, getD_append_singleton, typekit]
  cases q
  simp only [TypekitId.mk.injEq]

end Store

namespace Projects

/-- A project after one of the projects was changed. -/
theorem get_modify (ps : Projects) (id q : ProjectId) (f : Project → Project) :
    (ps.modify id f).get q =
      if q = id ∧ id.index < ps.items.length then { f (ps.get q) with main := (ps.get q).main }
        else ps.get q := by
  obtain ⟨i⟩ := id
  obtain ⟨j⟩ := q
  simp only [get, modify, List.getElem?_modify, ProjectId.mk.injEq]
  by_cases h : j = i
  · subst h
    by_cases hlt : j < ps.items.length
    · simp [hlt]
    · simp [hlt]
  · simp [h, Ne.symm h]

/-- A change of a project adds none. -/
@[simp] theorem length_modify (ps : Projects) (id : ProjectId) (f : Project → Project) :
    (ps.modify id f).items.length = ps.items.length :=
  List.length_modify ..

/-- A change of a project leaves the main project of each. -/
@[simp] theorem main?_modify (ps : Projects) (id q : ProjectId) (f : Project → Project) :
    (ps.modify id f).main? q = ps.main? q := by
  simp only [main?, modify, List.getElem?_modify]
  cases ps.items[q.index]? with
  | none => rfl
  | some p => by_cases h : id.index = q.index <;> simp [h]

/-- A change of a project leaves the scope of each. -/
@[simp] theorem scope_modify (ps : Projects) (id q : ProjectId) (f : Project → Project) :
    (ps.modify id f).scope q = ps.scope q := by
  rw [scope, main?_modify, scope]

/-- What a change of a project leaves as it is, is left as it is in every project. -/
theorem apply_modify {β : Type} (g : Project → β) {f : Project → Project}
    (hf : ∀ p, g { f p with main := p.main } = g p) (ps : Projects) (id q : ProjectId) :
    g ((ps.modify id f).get q) = g (ps.get q) := by
  rw [get_modify]
  split
  · exact hf _
  · rfl

end Projects

namespace Project

/-- What declarations leave of a project as it is. -/
def outline (p : Project) : Project :=
  { p with components := [], typekit := none, usedTypekits := [], typekitSlots := [],
           ownTypekitSlot := .unresolved }

/-- What the outline shows of projects is the same if their outlines are. -/
theorem congr_outline {β : Type} {p q : Project} (h : p.outline = q.outline) (g : Project → β)
    (hg : ∀ r : Project, g r.outline = g r) : g p = g q := by
  rw [← hg p, h, hg q]

end Project

/-- The main project is the one that the project says. -/
theorem Projects.main?_eq (ps : Projects) (id : ProjectId) : ps.main? id = (ps.get id).main := by
  unfold main? get
  cases ps.items[id.index]? <;> rfl

namespace Store

variable {s t : Store} {p m : ProjectId}

/-- A library is in the scope of the project that imports it. -/
theorem scope_of_imported (h : (s.project p).main = some m) : s.projects.scope p = m := by
  rw [Projects.scope, Projects.main?_eq]
  exact congrArg (·.getD p) h

/-- A project of its own is its own scope. -/
theorem scope_of_own (h : (s.project p).main = none) : s.projects.scope p = p := by
  rw [Projects.scope, Projects.main?_eq]
  exact congrArg (·.getD p) h

/-- A project stays in its scope while the project that imports it is the same. -/
theorem scope_congr (h : (t.project p).main = (s.project p).main) :
    t.projects.scope p = s.projects.scope p := by
  rw [Projects.scope, Projects.scope, Projects.main?_eq, Projects.main?_eq]
  exact congrArg (·.getD p) h

end Store

/-- The scope of a project that was made was made, too. -/
theorem Projects.scope_made {ps : Projects} {p : ProjectId} (made : p.index < ps.items.length) :
    (ps.scope p).index < ps.items.length := by
  unfold scope
  cases hmain : ps.main? p with
  | none => exact made
  | some m => exact Nat.lt_trans (main?_lt hmain) made

/-- A project that is imported was made. -/
theorem Store.made_of_isImported {s : Store} {p : ProjectId} (h : (s.project p).isImported = true) :
    p.index < s.projects.items.length := by
  by_contra past
  rw [project_of_unmade past] at h
  cases h

/-- What declarations leave as it is: the files, the packages, and the outlines of the projects,
none of which is new. -/
structure Declares.Frame (s t : Store) : Prop where
  files : t.files = s.files
  packageMaps : t.packageMaps = s.packageMaps
  length : t.projects.items.length = s.projects.items.length
  outline : ∀ q, (t.project q).outline = (s.project q).outline

/-- A state has the frame of itself. -/
theorem Declares.Frame.refl (s : Store) : Frame s s :=
  ⟨rfl, rfl, rfl, fun _ => rfl⟩

/-- Frames that are kept twice are kept. -/
theorem Declares.Frame.trans {s t u : Store} (h : Frame s t) (h' : Frame t u) : Frame s u :=
  ⟨h'.files.trans h.files, h'.packageMaps.trans h.packageMaps, h'.length.trans h.length,
    fun q => (h'.outline q).trans (h.outline q)⟩

/-- One declaration keeps the frame. -/
theorem Declared.frame {s t : Store} (h : Declared s t) : Declares.Frame s t := by
  cases h with
  | makeTypekit p | useTypekit p | importTypekit p | importOwnTypekit p | addComponent p =>
    exact ⟨rfl, rfl, Projects.length_modify _ _ _,
      Projects.apply_modify Project.outline (fun _ => by rfl) s.projects p⟩
  | _ => exact ⟨rfl, rfl, rfl, fun _ => rfl⟩

/-- Declarations keep the frame. -/
theorem Declares.frame {s t : Store} (h : Declares s t) : Frame s t := by
  induction h with
  | refl => exact .refl s
  | tail _ step ih => exact ih.trans step.frame

end Componentry
