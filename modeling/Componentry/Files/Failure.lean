import Componentry.Text.Quoted

/-!
# Failures of file operations

Why a file operation failed, and the number and words by which the operating system reports it.
-/

namespace Componentry.Files

/-- The reason why a file operation failed. -/
inductive Reason where
  | missing
  | alreadyExists
  | notDirectory
  | isDirectory
  | nameTooLong
  | linkLoop
  deriving Repr, DecidableEq

/-- The number of a failure. -/
def Reason.number : Reason → Nat
  | .missing => 2
  | .alreadyExists => 17
  | .notDirectory => 20
  | .isDirectory => 21
  | .nameTooLong => 36
  | .linkLoop => 40

/-- The words for a failure. -/
def Reason.words : Reason → String
  | .missing => "No such file or directory"
  | .alreadyExists => "File exists"
  | .notDirectory => "Not a directory"
  | .isDirectory => "Is a directory"
  | .nameTooLong => "File name too long"
  | .linkLoop => "Too many levels of symbolic links"

/-- A failed operation on the file of a path. -/
structure Failure where
  reason : Reason
  path : String
  deriving Repr, DecidableEq

/-- The report of a failure. -/
def Failure.message (f : Failure) : String :=
  s!"[Errno {f.reason.number}] {f.reason.words}: " ++ Text.quoted f.path

end Componentry.Files
