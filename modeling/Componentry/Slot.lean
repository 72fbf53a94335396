import Componentry.Fault

/-!
# Resolution slots

An import is resolved once. Its slot is unresolved until a load begins, resolving while the load
runs, and resolved when the load has given a value; a load that fails leaves the slot unresolved.
An import that is asked for while its load runs is a cycle.
-/

namespace Componentry

/-- The state of an import. -/
inductive Slot (α : Type) where
  | unresolved
  | resolving
  | resolved (value : α)
  deriving Repr, DecidableEq

namespace Slot

variable {σ α : Type}

instance : Inhabited (Slot α) := ⟨.unresolved⟩

/-- The word for a state. -/
def word : Slot α → String
  | .unresolved => "unresolved"
  | .resolving => "resolving"
  | .resolved _ => "resolved"

/-- The value of an import that is resolved. -/
def value? : Slot α → Option α
  | .resolved value => some value
  | _ => none

/-- Resolves the import of a name, whose slot is read and written in a larger state, by a load that
is run if there is no value yet. -/
def resolve (read : σ → Slot α) (write : Slot α → σ → σ) (name : String)
    (load : EStateM Fault σ α) :
    EStateM Fault σ α := do
  match read (← get) with
  | .resolved value => return value
  | .resolving => throw (.importCycle name)
  | .unresolved =>
    modify (write .resolving)
    let value ← tryCatch load fun fault => do
      modify (write .unresolved)
      throw fault
    modify (write (.resolved value))
    return value

end Slot

/-- Slots by number, each with its name. -/
structure Slots (α : Type) where
  items : List (String × Slot α) := []

namespace Slots

variable {α : Type}

/-- The name of a slot. -/
def name (s : Slots α) (slot : Nat) : String :=
  (s.items[slot]?.map (·.1)).getD ""

/-- The state of a slot. -/
def state (s : Slots α) (slot : Nat) : Slot α :=
  (s.items[slot]?.map (·.2)).getD .unresolved

/-- The slots with one in another state. -/
def setState (s : Slots α) (slot : Nat) (state : Slot α) : Slots α :=
  ⟨s.items.modify slot fun (name, _) => (name, state)⟩

/-- The slots with one more. -/
def push (s : Slots α) (name : String) : Slots α :=
  ⟨s.items ++ [(name, .unresolved)]⟩

end Slots

/-- A load of an import: it gives a value, fails, or resolves an import itself. -/
inductive Loader (α : Type) where
  | value (value : α)
  | fail (fault : Fault)
  /-- Resolves a slot by a loader. A fault of the model is turned into a value if `rescue` tells
  how. -/
  | resolve (slot : Nat) (loader : Loader α) (rescue : Option (Fault → α))

/-- Runs a load. -/
def Loader.run {α : Type} : Loader α → EStateM Fault (Slots α) α
  | .value v => pure v
  | .fail fault => throw fault
  | .resolve slot loader rescue => do
    let name := (← get).name slot
    let load := Slot.resolve (·.state slot) (fun state s => s.setState slot state) name loader.run
    tryCatch load fun fault =>
      match rescue with
      | some turn => if fault.isModelFault then pure (turn fault) else throw fault
      | none => throw fault

/-- Resolves a slot by a loader. -/
def Loader.resolveSlot {α : Type} (slot : Nat) (loader : Loader α) : EStateM Fault (Slots α) α :=
  (Loader.resolve slot loader none).run

end Componentry
