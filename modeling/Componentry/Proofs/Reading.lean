import Componentry.Proofs.Ends
import Componentry.Proofs.Faults

/-!
# Looking at files

Operations that look at the files of a tree leave the tree as it is.
-/

namespace Componentry

/-- Whether a fault is that of an operation on files. -/
def Fault.isFileFault : Fault → Bool
  | .file _ | .pathWithNul | .undecodable | .linkCycle _ => true
  | _ => false

/-- Operations on files do not fail as cycles of imports do. -/
theorem Fault.isCycle_of_isFileFault {fault : Fault} (h : fault.isFileFault) :
    fault.isCycle = false := by
  cases fault <;> first | rfl | cases h

namespace Files

namespace Change

section Looks

variable {E : Effect Fault Tree} (faults : ∀ fault : Fault, fault.isFileFault → E.fault fault)

include faults

/-- A failure at a path is one of files. -/
theorem within_fail {α : Type} (reason : Reason) (p : Path) : E.Covers (fail reason p : Change α) :=
  Effect.covers_throw (faults _ rfl)

/-- A search fails as operations on files fail. -/
theorem within_found {α : Type} (p : Path) (x : Except Reason α) : E.Covers (found p x) := by
  cases x with
  | ok a => exact Effect.covers_pure a
  | error reason => exact within_fail faults reason p

/-- The entry of a path is read, or the path is refused. -/
theorem within_entryAt (p : Path) (place : Tree → Path → Except Reason Place) :
    E.Covers (entryAt p place) := by
  refine Effect.covers_get_bind fun t ht => ?_
  refine Effect.Covers.ite (fun _ => Effect.covers_pure _) (fun _ => ?_) t ht
  split
  · exact Effect.covers_pure _
  · exact within_fail faults _ p
  · exact Effect.covers_pure _

/-- An operation that only looks at files is within every effect in which operations on files may
fail. -/
theorem within_isPresent (p : Path) : E.Covers (isPresent p) :=
  (within_entryAt faults p Tree.place).bind fun _ => Effect.covers_pure _

/-- Whether a path leads to a file is read. -/
theorem within_isFile (p : Path) : E.Covers (isFile p) := by
  refine (within_entryAt faults p Tree.place).bind fun entry => ?_
  split <;> exact Effect.covers_pure _

/-- Whether a path leads to a directory is read. -/
theorem within_isDirectory (p : Path) : E.Covers (isDirectory p) := by
  refine (within_entryAt faults p Tree.place).bind fun entry => ?_
  split <;> exact Effect.covers_pure _

/-- Whether a path is a link is read. -/
theorem within_isLink (p : Path) : E.Covers (isLink p) := by
  refine (within_entryAt faults p Tree.placeOfLink).bind fun entry => ?_
  split <;> exact Effect.covers_pure _

/-- The bytes of a file are read. -/
theorem within_readBytes (p : Path) : E.Covers (readBytes p) := by
  refine Effect.Covers.ite (fun _ => Effect.covers_throw_bind (faults _ rfl) _) fun _ => ?_
  refine Effect.covers_get.bind fun t => (within_found faults p _).bind fun found => ?_
  split
  · exact within_fail faults _ p
  · exact within_fail faults _ p
  · exact Effect.covers_pure _
  · exact within_fail faults _ p

/-- The text of a file is read, if its bytes are one. -/
theorem within_readText (p : Path) : E.Covers (readText p) := by
  refine (within_readBytes faults p).bind fun bytes => ?_
  split
  · exact Effect.covers_pure _
  · exact Effect.covers_throw (faults _ rfl)

end Looks

end Change

/-- What operations may do that only look at files. -/
def reading : Effect Fault Tree where
  holds _ := True
  change t t' := t' = t
  fault fault := fault.isCycle = false
  refl _ := rfl
  trans h h' := h'.trans h

namespace Change

/-- Reading may fail as operations on files fail. -/
theorem reading_faults (fault : Fault) (h : fault.isFileFault) : reading.fault fault :=
  fault.isCycle_of_isFileFault h

/-- Whether a path leads to anything is read. -/
theorem covers_isPresent (p : Path) : reading.Covers (isPresent p) :=
  within_isPresent reading_faults p

/-- Whether a path leads to a file is read without a change. -/
theorem covers_isFile (p : Path) : reading.Covers (isFile p) :=
  within_isFile reading_faults p

/-- Whether a path leads to a directory is read without a change. -/
theorem covers_isDirectory (p : Path) : reading.Covers (isDirectory p) :=
  within_isDirectory reading_faults p

/-- Whether a path is a link is read without a change. -/
theorem covers_isLink (p : Path) : reading.Covers (isLink p) :=
  within_isLink reading_faults p

/-- The text of a file is read without a change. -/
theorem covers_readText (p : Path) : reading.Covers (readText p) :=
  within_readText reading_faults p

end Change

end Files

open Files (reading)

/-- A package is searched for without a change. -/
theorem PackageMap.covers_find (m : PackageMap) (name : String) : reading.Covers (m.find name) := by
  unfold PackageMap.find
  split
  · exact Effect.covers_throw rfl
  · refine (Files.Change.covers_isDirectory _).bind fun present => ?_
    exact Effect.Covers.ite (fun _ => Effect.covers_pure _) fun _ => Effect.covers_throw rfl

end Componentry
