import Componentry.Fault
import Componentry.Files.Path

/-!
# File trees

A tree of directories, files and symbolic links. Each entry has a place, the names that lead to it
from the root without any link. The place of a path is found name by name: a link is replaced by its
target, and two points lead to the directory above. At most forty links are followed.

Operations on files are given by absolute paths.
-/

namespace Componentry.Files

/-- The names that lead from the root to an entry, none of them a link. -/
abbrev Place := List String

/-- What stands at a place. -/
inductive Entry where
  | file (content : ByteArray)
  | directory
  | link (target : Path)

/-- Entries are equal if they are of one kind and hold the same. -/
instance : DecidableEq Entry
  | .file a, .file b =>
    decidable_of_iff (a.data = b.data) ⟨fun h => congrArg _ (ByteArray.ext h), by rintro ⟨⟩; rfl⟩
  | .link a, .link b => decidable_of_iff (a = b) ⟨congrArg _, Entry.link.inj⟩
  | .directory, .directory => isTrue rfl
  | .file _, .directory | .file _, .link _ | .link _, .file _ | .link _,
    .directory | .directory, .file _
  | .directory, .link _ => isFalse nofun

/-- The number of names along which an entry leads. -/
def Entry.targetLength : Entry → Nat
  | .link target => target.names.length
  | .file _ | .directory => 0

/-- A tree of entries. The root is a directory; the other entries are listed. -/
structure Tree where
  entries : List (Place × Entry) := []

namespace Tree

instance : Inhabited Tree := ⟨{}⟩

/-- The entry at a place. -/
def get? (t : Tree) (place : Place) : Option Entry :=
  if place.isEmpty then some .directory else t.entries.lookup place

/-- The entries with another one in the place of the first of its name, or at the end. -/
def putEntry (place : Place) (entry : Entry) : List (Place × Entry) → List (Place × Entry)
  | [] => [(place, entry)]
  | (p, e) :: rest => if p = place then (p, entry) :: rest else (p, e) :: putEntry place entry rest

/-- The tree with an entry at a place. -/
def put (t : Tree) (place : Place) (entry : Entry) : Tree :=
  ⟨putEntry place entry t.entries⟩

/-- The tree without the entry at a place. -/
def erase (t : Tree) (place : Place) : Tree :=
  ⟨t.entries.filter (·.1 ≠ place)⟩

/-- The most names along which a link of the tree leads. -/
def longestTarget (t : Tree) : Nat :=
  (t.entries.map (·.2.targetLength)).foldr max 0

/-- No link has more names in its target than the longest one. -/
theorem length_le_longestTarget {t : Tree} {place : Place} {target : Path}
    (h : t.get? place = some (.link target)) :
    target.names.length ≤ t.longestTarget := by
  unfold get? at h
  split at h
  · cases h
  · unfold longestTarget
    generalize t.entries = entries at h ⊢
    induction entries with
    | nil => cases h
    | cons first rest ih =>
      rw [List.lookup_cons] at h
      rw [List.map_cons, List.foldr_cons]
      split at h
      · rw [Option.some.inj h]
        exact Nat.le_max_left ..
      · exact Nat.le_trans (ih h) (Nat.le_max_right ..)

/-- The most bytes that a file name may have. -/
def longestName : Nat := 255

/-- The number of links that are followed on the way to a place. -/
def mostLinks : Nat := 40

/-- The place to which names lead from a directory. The last name need not exist, and is not
followed if it is a link, unless `follow` says so. `links` more links may be followed. -/
def walk (t : Tree) (follow : Bool) (links : Nat) (base : Place)
    (names : List String) : Except Reason Place :=
  match names with
  | [] => .ok base
  | name :: rest =>
    if name = ".." then t.walk follow links base.dropLast rest
    else if longestName < name.utf8ByteSize then .error .nameTooLong
    else
      let place := base ++ [name]
      match _h : t.get? place with
      | none => if rest.isEmpty then .ok place else .error .missing
      | some .directory => t.walk follow links place rest
      | some (.file _) => if rest.isEmpty then .ok place else .error .notDirectory
      | some (.link target) =>
        if rest.isEmpty && !follow then .ok place
        else
          match links with
          | 0 => .error .linkLoop
          | links + 1 =>
            t.walk follow links (if target.isAbsolute then [] else base) (target.names ++ rest)
termination_by links * (t.longestTarget + 1) + names.length
decreasing_by
  · simp
  · simp
  · have := length_le_longestTarget _h
    simp only [List.length_append, List.length_cons, Nat.succ_mul]
    omega

/-- Names lead on from a directory by the first of them. -/
theorem walk_cons (t : Tree) (follow : Bool) (links : Nat) (base : Place) (name : String)
    (rest : List String) :
    t.walk follow links base (name :: rest) =
      if name = ".." then t.walk follow links base.dropLast rest
      else if longestName < name.utf8ByteSize then .error .nameTooLong
      else
        match t.get? (base ++ [name]) with
        | none => if rest.isEmpty then .ok (base ++ [name]) else .error .missing
        | some .directory => t.walk follow links (base ++ [name]) rest
        | some (.file _) => if rest.isEmpty then .ok (base ++ [name]) else .error .notDirectory
        | some (.link target) =>
          if rest.isEmpty && !follow then .ok (base ++ [name])
          else
            match links with
            | 0 => .error .linkLoop
            | links + 1 =>
              t.walk follow links (if target.isAbsolute then [] else base)
                (target.names ++ rest) := by
  rw [walk]
  dsimp only
  generalize t.get? (base ++ [name]) = entry
  rcases entry with _ | _ | _ | _ <;> rfl

/-- The place of a path, its last name followed if it is a link. -/
def place (t : Tree) (p : Path) : Except Reason Place :=
  t.walk true mostLinks [] p.names

/-- The place of a path, its last name not followed. -/
def placeOfLink (t : Tree) (p : Path) : Except Reason Place :=
  t.walk false mostLinks [] p.names

/-- The place of a path with its entry, if there is one. -/
def find (t : Tree) (p : Path) : Except Reason (Place × Option Entry) := do
  let place ← t.place p
  return (place, t.get? place)

/-- The path at which a path ends when all links on the way are followed. What does not exist is
taken as it is written; no path is reached if the links close on themselves. -/
def follow (t : Tree) (links : Nat) (base : Place) (names : List String) : Option Place :=
  match names with
  | [] => some base
  | name :: rest =>
    if name = ".." then t.follow links base.dropLast rest
    else
      match _h : t.get? (base ++ [name]) with
      | some (.link target) =>
        match links with
        | 0 => none
        | links + 1 =>
          t.follow links (if target.isAbsolute then [] else base) (target.names ++ rest)
      | _ => t.follow links (base ++ [name]) rest
termination_by links * (t.longestTarget + 1) + names.length
decreasing_by
  · simp
  · have := length_le_longestTarget _h
    simp only [List.length_append, List.length_cons, Nat.succ_mul]
    omega
  · simp

/-- All links on the way are followed name by name. -/
theorem follow_cons (t : Tree) (links : Nat) (base : Place) (name : String) (rest : List String) :
    t.follow links base (name :: rest) =
      if name = ".." then t.follow links base.dropLast rest
      else
        match t.get? (base ++ [name]) with
        | some (.link target) =>
          match links with
          | 0 => none
          | links + 1 =>
            t.follow links (if target.isAbsolute then [] else base) (target.names ++ rest)
        | _ => t.follow links (base ++ [name]) rest := by
  rw [follow]
  generalize t.get? (base ++ [name]) = entry
  rcases entry with _ | _ | _ | _ <;> rfl

/-- The files and links below a directory: their names from there, joined by slashes, in increasing
order. -/
def below (t : Tree) (directory : Place) : List (String × Entry) :=
  let inside := t.entries.filter fun (place, entry) =>
    directory.isPrefixOf place && place != directory && entry != .directory
  let named := inside.map fun (place, entry) =>
    (Text.joined "/" (place.drop directory.length), entry)
  named.mergeSort fun a b => decide (a.1 ≤ b.1)

end Tree

/-- Operations on a file tree. One that fails keeps what it has done before. -/
abbrev Change := EStateM Fault Tree

namespace Change

/-- Fails for a reason. -/
def fail {α : Type} (reason : Reason) (p : Path) : Change α :=
  throw (.file ⟨reason, p.toText⟩)

/-- The outcome of a search. -/
def found {α : Type} (p : Path) : Except Reason α → Change α
  | .ok a => pure a
  | .error reason => fail reason p

/-- What a path leads to. A path that leads nowhere has no entry, unless a name in it is too
long. -/
def entryAt (p : Path) (place : Tree → Path → Except Reason Place) : Change (Option Entry) := do
  let t ← get
  if p.hasNul then return none
  match place t p with
  | .ok place => return t.get? place
  | .error .nameTooLong => fail .nameTooLong p
  | .error _ => return none

/-- Whether a path leads to anything. -/
def isPresent (p : Path) : Change Bool := do
  return (← entryAt p Tree.place).isSome

/-- Whether a path leads to a file. -/
def isFile (p : Path) : Change Bool := do
  match ← entryAt p Tree.place with
  | some (.file _) => return true
  | _ => return false

/-- Whether a path leads to a directory. -/
def isDirectory (p : Path) : Change Bool := do
  match ← entryAt p Tree.place with
  | some .directory => return true
  | _ => return false

/-- Whether a path itself is a link. -/
def isLink (p : Path) : Change Bool := do
  match ← entryAt p Tree.placeOfLink with
  | some (.link _) => return true
  | _ => return false

/-- The bytes of a file. -/
def readBytes (p : Path) : Change ByteArray := do
  if p.hasNul then throw .pathWithNul
  match ← found p ((← get).find p) with
  | (_, none) => fail .missing p
  | (_, some .directory) => fail .isDirectory p
  | (_, some (.file content)) => return content
  | (_, some (.link _)) => fail .linkLoop p

/-- The text of a file, its line ends unified. -/
def readText (p : Path) : Change String := do
  match Text.ofFile? (← readBytes p) with
  | some text => return text
  | none => throw .undecodable

/-- Writes a file, in a directory that is there. -/
def writeBytes (p : Path) (content : ByteArray) : Change Unit := do
  if p.hasNul then throw .pathWithNul
  match ← found p ((← get).find p) with
  | (_, some .directory) => fail .isDirectory p
  | (place, _) => modify (·.put place (.file content))

/-- Writes a text file, in a directory that is there. -/
def writeText (p : Path) (text : String) : Change Unit :=
  writeBytes p text.toUTF8

/-- Makes an entry where there is nothing, in a directory that is there. -/
def makeEntry (p : Path) (entry : Entry) : Change Unit := do
  if p.hasNul then throw .pathWithNul
  let t ← get
  let place ← found p (t.placeOfLink p)
  match t.get? place with
  | some _ => fail .alreadyExists p
  | none => set (t.put place entry)

/-- Makes a directory, in a directory that is there. -/
def makeDirectory (p : Path) : Change Unit :=
  makeEntry p .directory

/-- Makes a directory that may already be there. -/
def ensureDirectory (p : Path) : Change Unit :=
  tryCatch (makeDirectory p) fun fault => do
    match fault with
    | .file ⟨.missing, _⟩ => throw fault
    | .file _ => if ← isDirectory p then pure () else throw fault
    | _ => throw fault

/-- Makes a directory and those above it, as far as they are not there. -/
def ensureDirectories (p : Path) : Change Unit :=
  tryCatch (makeDirectory p) fun fault => do
    match fault with
    | .file ⟨.missing, _⟩ =>
      if _h : p.names = [] then throw fault
      else do
        ensureDirectories p.parent
        ensureDirectory p
    | .file _ => if ← isDirectory p then pure () else throw fault
    | _ => throw fault
termination_by p.names.length
decreasing_by
  simp only [Path.parent, List.length_dropLast]
  have := List.length_pos_iff.2 _h
  omega

/-- Writes a file, and makes the directories above it as far as they are not there. -/
def place (p : Path) (content : ByteArray) : Change Unit := do
  ensureDirectories p.parent
  writeBytes p content

/-- Removes a file or a link. -/
def remove (p : Path) : Change Unit := do
  if p.hasNul then throw .pathWithNul
  let t ← get
  let place ← found p (t.placeOfLink p)
  match t.get? place with
  | none => fail .missing p
  | some .directory => fail .isDirectory p
  | some _ => set (t.erase place)

/-- Makes a link. -/
def makeLink (p target : Path) : Change Unit :=
  makeEntry p (.link target)

/-- The path with all links followed. -/
def resolve (p : Path) : Change Path := do
  if p.hasNul then throw .pathWithNul
  match (← get).follow Tree.mostLinks [] p.names with
  | some place => return ⟨"/", place⟩
  | none => throw (.linkCycle p.toText)

end Change

end Componentry.Files
