import Componentry.Contribution

/-!
# Components

A component is its interface, together with the code that is added to its generated classes besides
that of its members. Components are never removed, and none changes the component that it derives
from.
-/

namespace Componentry

/-- A plugin of a component, which contributes code when the component is generated. -/
structure ComponentExtension where
  name : String
  contribute : ComponentId → Lineage → Except Fault Contribution

/-- A computation that is run when a component is generated, and may contribute code. -/
abbrev Handler := ComponentId → Lineage → Except Fault (Option Contribution)

/-- The code that is added to the generated classes of a component. -/
structure AddedCode where
  /-- The statements for hooks, in the order in which they were given. -/
  hooks : List HookRecord := []
  header : List Snippet := []
  implementation : List Snippet := []
  handlers : List Handler := []
  extensions : List ComponentExtension := []

/-- The statements for one hook. -/
def AddedCode.statements (code : AddedCode) (hook : Hook) : List Code :=
  (code.hooks.filter (·.hook = hook)).map (·.code)

/-- The statements for each hook that has any. -/
def AddedCode.hookStatements (code : AddedCode) : List (Hook × List Code) :=
  (Hook.all.map fun hook => (hook, code.statements hook)).filter fun (_, codes) => !codes.isEmpty

/-- A component. -/
structure Component where
  interface : Interface
  code : AddedCode := {}

instance : Inhabited Component := ⟨{ interface := default }⟩

/-- Components, in the order of their declaration. -/
structure Components where
  items : List Component
  /-- A component derives from one that was declared before it. -/
  ordered : ∀ (i : Nat) (c : Component) (s : ComponentId),
    items[i]? = some c → c.interface.superclass = some s → s.index < i

namespace Components

/-- No components. -/
def empty : Components := ⟨[], by simp⟩

instance : Inhabited Components := ⟨empty⟩

/-- A component by its number. -/
def get (cs : Components) (id : ComponentId) : Component :=
  (cs.items[id.index]?).getD default

/-- The interfaces of the components. -/
def lineage (cs : Components) : Lineage where
  interfaces := cs.items.map (·.interface)
  ordered i c s hc hs := by
    rw [List.getElem?_map] at hc
    obtain ⟨k, hk, rfl⟩ := Option.map_eq_some_iff.1 hc
    exact cs.ordered i k s hk hs

/-- The number that the next component gets. -/
def next (cs : Components) : ComponentId :=
  ⟨cs.items.length⟩

/-- The components with one more, which derives from one of them if at all. -/
def push (cs : Components) (c : Component)
    (h : ∀ s, c.interface.superclass = some s → s.index < cs.items.length) :
    Components where
  items := cs.items ++ [c]
  ordered i k s hk hs := by
    rw [List.getElem?_append] at hk
    split at hk
    · exact cs.ordered i k s hk hs
    · have hlt := (List.getElem?_eq_some_iff.1 hk).1
      have hk' := List.mem_of_getElem? hk
      obtain rfl : k = c := by simpa using hk'
      have := h s hs
      omega

/-- The components with one of them changed. What it derives from stays as it is. -/
def modify (cs : Components) (id : ComponentId) (f : Component → Component) : Components where
  items := cs.items.modify id.index fun c =>
    { f c with interface := { (f c).interface with superclass := c.interface.superclass } }
  ordered i k s hk hs := by
    rw [List.getElem?_modify] at hk
    obtain ⟨c, hc, hkc⟩ := Option.map_eq_some_iff.1 hk
    refine cs.ordered i c s hc ?_
    split at hkc <;> subst hkc
    · exact hs
    · exact hs

end Components

end Componentry
