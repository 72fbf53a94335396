import Componentry.Lineage
import Componentry.Text.Lines

/-!
# Pieces of generated code

A piece of code is given by its text, or computed when it is needed, from what all components have
declared by then.
-/

namespace Componentry

/-- A piece of generated code. -/
inductive Code where
  | absent
  | text (code : String)
  /-- Code that is computed when it is written; there may turn out to be none. -/
  | deferred (compute : Lineage → Except Fault (Option String))

namespace Code

instance : Inhabited Code := ⟨.absent⟩

/-- The piece of code given by an optional text and an optional computation, but not by both. -/
def ofParts (code : Option String) (compute : Option (Lineage → Except Fault (Option String))) :
    Except Fault Code :=
  match code, compute with
  | some _, some _ => .error .codeGivenTwice
  | some code, none => .ok (.text code)
  | none, some compute => .ok (.deferred compute)
  | none, none => .ok .absent

/-- Whether no code is given. -/
def isAbsent : Code → Bool
  | .absent => true
  | _ => false

/-- The text of a piece of code. -/
def content (l : Lineage) : Code → Except Fault String
  | .absent => .ok ""
  | .text code => .ok code
  | .deferred compute => (·.getD "") <$> compute l

/-- The text of a piece of code, its lines indented. -/
def render (l : Lineage) (width : Nat) (c : Code) : Except Fault String :=
  Text.indented width <$> c.content l

end Code

/-- Code outside of any class, before or after the generated class. -/
structure Snippet where
  code : Code
  before : Bool := true

end Componentry
