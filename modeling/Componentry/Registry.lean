import Componentry.NameSet
import Componentry.TypeDef

/-!
# Type registries

A registry holds type definitions in the order of their declaration, at most one for a name.
Definitions are only ever added. Names are looked up in their canonical form.

The closure of a name holds the definitions reachable from it: its own, and those of the types that
a definition in the closure refers to.
-/

namespace Componentry

/-- Type definitions with pairwise different names, in the order of declaration. -/
structure Registry where
  types : List TypeDef
  distinct : (types.map (·.name)).Nodup

namespace Registry

/-- The registry without definitions. -/
def empty : Registry := ⟨[], .nil⟩

instance : Inhabited Registry := ⟨empty⟩

/-- The names of the definitions, in order. -/
def names (r : Registry) : List String :=
  r.types.map (·.name)

/-- The definition of exactly this name. -/
def find? (r : Registry) (name : String) : Option TypeDef :=
  r.types.find? (·.name == name)

/-- A type that is found is one of the registry. -/
theorem mem_of_find? {r : Registry} {name : String} {t : TypeDef} (h : r.find? name = some t) :
    t ∈ r.types :=
  List.mem_of_find?_eq_some h

/-- A type is found under its name. -/
theorem name_of_find? {r : Registry} {name : String} {t : TypeDef} (h : r.find? name = some t) :
    t.name = name := by
  simpa using List.find?_some h

/-- A type that is not found has no name in the registry. -/
theorem find?_eq_none {r : Registry} {name : String} (h : r.find? name = none) :
    name ∉ r.names := by
  intro hmem
  obtain ⟨t, ht, rfl⟩ := List.mem_map.1 hmem
  simpa using List.find?_eq_none.1 h t ht

/-- Whether a type of that name, in any spelling, is defined. -/
def contains (r : Registry) (name : String) : Bool :=
  (r.find? (Typename.normalize name)).isSome

/-- The definition of a name in any spelling. -/
def get (r : Registry) (name : String) : Except Fault TypeDef :=
  match r.find? (Typename.normalize name) with
  | some t => .ok t
  | none => .error (.typeNotFound (Typename.normalize name))

/-- The registry with one more definition at the end, given that its name is new. -/
def append (r : Registry) (t : TypeDef) (h : r.find? t.name = none) : Registry where
  types := r.types ++ [t]
  distinct := by
    rw [List.map_append, List.nodup_append]
    refine ⟨r.distinct, by simp, ?_⟩
    intro a ha b hb
    simp only [List.map_cons, List.map_nil, List.mem_singleton] at hb
    subst hb
    intro e
    exact find?_eq_none h (e ▸ ha)

/-- Operations that extend a registry; one that fails keeps what it has added before. -/
abbrev Extension := EStateM Fault Registry

/-- Adds a definition, and tells whether its name was new. A name that is known must have the same
definition. -/
def add (t : TypeDef) : Extension Bool := fun r =>
  match h : r.find? t.name with
  | none => .ok true (r.append t h)
  | some known => if known = t then .ok false r else .error (.conflictingTypes t.name) r

/-- Adds definitions one after the other, and tells which names were new. -/
def addAll (types : List TypeDef) : Extension (List String) := do
  let mut added := []
  for t in types do
    if ← add t then added := added ++ [t.name]
  return added

/-- The native numeric types, with their category and size. -/
def numericTypes : List (String × String × Int) := [
  ("/bool", "uint", 1),
  ("/char", "sint", 1),
  ("/unsigned char", "uint", 1),
  ("/short", "sint", 2),
  ("/unsigned short", "uint", 2),
  ("/int", "sint", 4),
  ("/unsigned int", "uint", 4),
  ("/long", "sint", 8),
  ("/unsigned long", "uint", 8),
  ("/int8_t", "sint", 1),
  ("/uint8_t", "uint", 1),
  ("/int16_t", "sint", 2),
  ("/uint16_t", "uint", 2),
  ("/int32_t", "sint", 4),
  ("/uint32_t", "uint", 4),
  ("/int64_t", "sint", 8),
  ("/uint64_t", "uint", 8),
  ("/float", "float", 4),
  ("/double", "float", 8)]

/-- The types that every registry of a project begins with: the native numeric types, the null type
and strings. -/
def standardTypes : List TypeDef :=
  numericTypes.map (fun (name, category, size) =>
    { name, kind := .numeric, category := some category, size := some size }) ++
  [{ name := "/nil", kind := .null },
   { name := "/std/string", kind := .container, elementType := some "/char",
     containerKind := some "/std/string" }]

/-- Adds the standard types. -/
def addStandardTypes : Extension Unit := do
  let _ ← addAll standardTypes

/-- The registry of the standard types. -/
def standard : Registry :=
  match addStandardTypes.run empty with
  | .ok _ r | .error _ r => r

/-- A definition of the registry. -/
abbrev Entry (r : Registry) := { t : TypeDef // t ∈ r.types }

/-- The definition of a name, as an entry of the registry. -/
def entry (r : Registry) (name : String) : Except Fault r.Entry :=
  match h : r.find? (Typename.normalize name) with
  | some t => .ok ⟨t, mem_of_find? h⟩
  | none => .error (.typeNotFound (Typename.normalize name))

/-- The definitions that were not yet reached. -/
def unreached (r : Registry) (reached : List TypeDef) : List TypeDef :=
  r.types.filter fun t => !reached.contains t

/-- Fewer types are left once one more is reached. -/
theorem length_unreached_lt {r : Registry} {reached : List TypeDef} {t : TypeDef} (ht : t ∈ r.types)
    (hn : reached.contains t = false) :
    (r.unreached (reached ++ [t])).length < (r.unreached reached).length := by
  have sub : (r.unreached (reached ++ [t])) =
      (r.unreached reached).filter fun s => !decide (s = t) := by
    unfold unreached
    rw [List.filter_filter]
    congr 1
    funext s
    by_cases hs : s = t <;> simp [hs]
  rw [sub, List.length_filter_lt_length_iff_exists]
  exact ⟨t, List.mem_filter.2 ⟨ht, by simpa using hn⟩, by simp⟩

/-- The definitions reached so far, followed by those that are reached from the pending ones. The
last dependency of a definition is followed first. -/
def reach (r : Registry) (reached : List TypeDef)
    (pending : List r.Entry) : Except Fault (List TypeDef) :=
  match pending with
  | [] => .ok reached
  | ⟨t, ht⟩ :: rest =>
    match hc : reached.contains t with
    | true => r.reach reached rest
    | false =>
      have := length_unreached_lt ht hc
      match t.dependencies.mapM r.entry with
      | .ok next => r.reach (reached ++ [t]) (next.reverse ++ rest)
      | .error fault => .error fault
termination_by ((r.unreached reached).length, pending.length)

/-- The definitions reachable from a name, in the order in which they are reached. -/
def closure (r : Registry) (name : String) : Except Fault (List TypeDef) := do
  let t ← r.entry name
  r.reach [] [t]

/-- The registry of the definitions reachable from a name. -/
def minimal (r : Registry) (name : String) : Except Fault Registry := do
  let types ← r.closure name
  match (addAll types).run empty with
  | .ok _ result => .ok result
  | .error fault _ => .error fault

/-- The names of the opaque types reachable from a name. -/
def containedOpaques (r : Registry) (name : String) : Except Fault NameSet := do
  let types ← r.closure name
  return .ofList ((types.filter (·.isOpaque)).map (·.name))

end Registry

end Componentry
