import Componentry.Issue

/-!
# Checked values

A part of a description is either read, or refused with the issues found in it. Parts that stand
side by side are all checked, and their issues are listed in the order of the parts.
-/

namespace Componentry.Description

/-- The outcome of reading a part of a description. -/
inductive Checked (α : Type) where
  | valid (value : α)
  | refused (issues : List Issue)

namespace Checked

variable {α β : Type}

/-- The issues of an outcome. -/
def issues : Checked α → List Issue
  | .valid _ => []
  | .refused issues => issues

/-- The outcome of two parts, one of them a function of the other. -/
def apply (f : Checked (α → β)) (x : Checked α) : Checked β :=
  match f, x with
  | .valid f, .valid a => .valid (f a)
  | f, x => .refused (f.issues ++ x.issues)

/-- The faults of all parts are gathered, not only the first one. -/
instance : Applicative Checked where
  pure := .valid
  seq f x := apply f (x ())

/-- The outcome with the issues seen from one level further out. -/
def under (part : String) : Checked α → Checked α
  | .valid a => .valid a
  | .refused issues => .refused (issues.map (Issue.under part))

/-- A part that is refused for one reason. -/
def refuse (kind : IssueKind) : Checked α :=
  .refused [⟨[], kind⟩]

/-- The outcomes of the parts of a list. -/
def all : List (Checked α) → Checked (List α)
  | [] => .valid []
  | x :: rest => List.cons <$> x <*> all rest

/-- A further rule for a part that was read. -/
def andThen (x : Checked α) (rule : α → Checked β) : Checked β :=
  match x with
  | .valid a => rule a
  | .refused issues => .refused issues

end Checked

end Componentry.Description
