import Componentry.Component
import Componentry.Slot
import Componentry.Typekit

/-!
# Projects

A project owns components and possibly a typekit. An imported project, a component library, belongs
to the scope of the project that imports it; any other project is a scope of its own. A scope has a
registry, and keeps track of the typekits and libraries that are used in it.
-/

namespace Componentry

/-- The number of a package map, by the order in which package maps are made. -/
structure PackageMapId where
  index : Nat
  deriving Repr, DecidableEq

/-- A project. -/
structure Project where
  name : String
  /-- The directory below which files are generated. -/
  baseDir : Files.Path := {}
  /-- The package that an imported project was found in. -/
  package : Option Package := none
  /-- The project that imports this one. -/
  main : Option ProjectId := none
  packages : PackageMapId := ⟨0⟩
  components : List ComponentId := []
  registry : RegistryId := ⟨0⟩
  /-- The typekit that the project builds. -/
  typekit : Option TypekitId := none
  usedTypekits : List TypekitId := []
  usedLibraries : List ProjectId := []
  /-- The imports of typekits by name. Where no typekit can be had, the value is none. -/
  typekitSlots : List (String × Slot (Option TypekitId)) := []
  /-- The imports of libraries by name. -/
  librarySlots : List (String × Slot ProjectId) := []
  /-- The import of the typekit that has the name of the project. -/
  ownTypekitSlot : Slot (Option TypekitId) := .unresolved
  /-- Whether declarations have ended. -/
  frozen : Bool := false

namespace Project

instance : Inhabited Project := ⟨{ name := "" }⟩

/-- Whether the project is imported. -/
def isImported (p : Project) : Bool :=
  p.main.isSome

/-- Fails if declarations have ended. -/
def checkMutable (p : Project) : Except Fault Unit :=
  if p.frozen then .error (.frozenProject p.name) else .ok ()

/-- The state of an import by name. -/
def slotOf {α : Type} (slots : List (String × Slot α)) (name : String) : Slot α :=
  (slots.lookup name).getD .unresolved

/-- The imports by name with one in another state. -/
def setSlot {α : Type} (slots : List (String × Slot α)) (name : String) (slot : Slot α) :
    List (String × Slot α) :=
  match slots with
  | [] => [(name, slot)]
  | (n, s) :: rest => if n = name then (n, slot) :: rest else (n, s) :: setSlot rest name slot

/-- The qualified name of a component of the project. -/
def qualify (p : Project) (name : String) : String :=
  if Interface.hasColons name.toList then name else s!"{p.name}::{name}"

end Project

/-- Projects, in the order in which they are made. -/
structure Projects where
  items : List Project
  /-- A project is imported by one that was made before it. -/
  ordered : ∀ (i : Nat) (p : Project) (m : ProjectId), items[i]? = some p → p.main = some m →
    m.index < i

namespace Projects

/-- No projects. -/
def empty : Projects := ⟨[], by simp⟩

instance : Inhabited Projects := ⟨empty⟩

/-- A project by its number. -/
def get (ps : Projects) (id : ProjectId) : Project :=
  (ps.items[id.index]?).getD default

/-- The number that the next project gets. -/
def next (ps : Projects) : ProjectId :=
  ⟨ps.items.length⟩

/-- The project that imports a project. -/
def main? (ps : Projects) (id : ProjectId) : Option ProjectId :=
  (ps.items[id.index]?).bind (·.main)

/-- A main project was made before its libraries. -/
theorem main?_lt {ps : Projects} {id m : ProjectId} (h : ps.main? id = some m) :
    m.index < id.index := by
  obtain ⟨p, hp, hm⟩ := Option.bind_eq_some_iff.1 h
  exact ps.ordered _ p m hp hm

/-- The project that answers for the types, typekits and libraries of a project. -/
def scope (ps : Projects) (id : ProjectId) : ProjectId :=
  (ps.main? id).getD id

/-- The project and those that import it, outwards. -/
def outwards (ps : Projects) (id : ProjectId) : List ProjectId :=
  match h : ps.main? id with
  | some m =>
    have := main?_lt h
    id :: ps.outwards m
  | none => [id]
termination_by id.index

/-- The projects with one more, which is imported by one of them if at all. -/
def push (ps : Projects) (p : Project)
    (h : ∀ m, p.main = some m → m.index < ps.items.length) : Projects where
  items := ps.items ++ [p]
  ordered i q m hq hm := by
    rw [List.getElem?_append] at hq
    split at hq
    · exact ps.ordered i q m hq hm
    · have hq' := List.mem_of_getElem? hq
      obtain rfl : q = p := by simpa using hq'
      have := h m hm
      omega

/-- The projects with one of them changed. The project that imports it stays the same. -/
def modify (ps : Projects) (id : ProjectId) (f : Project → Project) : Projects where
  items := ps.items.modify id.index fun p => { f p with main := p.main }
  ordered i q m hq hm := by
    rw [List.getElem?_modify] at hq
    obtain ⟨p, hp, hpq⟩ := Option.map_eq_some_iff.1 hq
    refine ps.ordered i p m hp ?_
    split at hpq <;> subst hpq
    · exact hm
    · exact hm

end Projects

end Componentry
