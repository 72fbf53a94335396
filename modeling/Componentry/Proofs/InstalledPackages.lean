import Componentry.Package
import Componentry.Proofs.Ends
import Componentry.Proofs.FilePlaces
import Componentry.Proofs.LineEnds

/-!
# Installed packages

A path without links on its way leads to the place that its names tell. So a package whose directory
is in the file tree is found, and its files are read as they were written.
-/

namespace Componentry

open Files

namespace Files

/-- Whether a path can be looked up under its own names, and leads to an entry, or to none. -/
structure Tree.LeadsTo (t : Tree) (p : Path) (entry : Option Entry) : Prop where
  plain : p.hasNul = false
  place : t.place p = .ok p.names
  here : t.get? p.names = entry

namespace Tree.LeadsTo

variable {t : Tree} {p : Path} {entry : Option Entry}

/-- A directory is found under its names. -/
theorem directory (solid : t.Solid p.names) (plain : p.hasNul = false) :
    t.LeadsTo p (some .directory) := by
  have walks : t.Walks true mostLinks [] p.names p.names :=
    Settled.walks (.directory solid) (linkAt_of_directory solid.isDirectory) _
  exact ⟨plain, walks.walk, solid.isDirectory⟩

/-- What is in a directory, and no link, is found under its names. -/
theorem inside {place : Place} (name : String) (solid : t.Solid place)
    (names : p.names = place ++ [name]) (plain : p.hasNul = false) (notUp : name ≠ "..")
    (short : name.utf8ByteSize ≤ longestName) (here : t.get? (place ++ [name]) = entry)
    (other : entry ≠ some .directory) (noLink : ∀ target, entry ≠ some (.link target)) :
    t.LeadsTo p entry := by
  have walks : t.Walks true mostLinks [] p.names p.names := by
    rw [names]
    exact Settled.walks (.inside solid notUp short (here ▸ other))
      (linkAt_eq_none.2 fun target => here ▸ noLink target) _
  exact ⟨plain, walks.walk, names ▸ here⟩

/-- The entry that a path leads to is found. -/
theorem entryAt (h : t.LeadsTo p entry) : Change.entryAt p Tree.place t = .ok entry t := by
  have read : (get : Change Tree) t = .ok t t := rfl
  simp only [Change.entryAt, h.plain, bind, EStateM.bind, read, h.place, h.here, Bool.false_eq_true,
    if_false]
  rfl

/-- The bytes of the file that a path leads to are read. -/
theorem readBytes {content : ByteArray} (h : t.LeadsTo p (some (.file content))) :
    Change.readBytes p t = .ok content t := by
  have found : t.find p = .ok (p.names, some (.file content)) := by
    rw [Tree.find, h.place, ← h.here]
    rfl
  have read : (get : Change Tree) t = .ok t t := rfl
  simp only [Change.readBytes, h.plain, bind, EStateM.bind, read, found, Bool.false_eq_true,
    if_false]
  rfl

/-- A path that leads to a directory is one. -/
theorem isDirectory (h : t.LeadsTo p (some .directory)) : Change.isDirectory p t = .ok true t :=
  bind_of_ok h.entryAt

/-- A path that leads to a file is one. -/
theorem isFile {content : ByteArray} (h : t.LeadsTo p (some (.file content))) :
    Change.isFile p t = .ok true t :=
  bind_of_ok h.entryAt

/-- Whether a path leads to anything is found out. -/
theorem isPresent (h : t.LeadsTo p entry) : Change.isPresent p t = .ok entry.isSome t :=
  bind_of_ok h.entryAt

/-- The text of a file is read as it was written, but for its line ends. -/
theorem readText {text : String} (h : t.LeadsTo p (some (.file text.toUTF8))) :
    Change.readText p t = .ok (Text.unified text) t := by
  rw [Change.readText, bind_of_ok h.readBytes, Text.ofFile?_toUTF8]
  rfl

end Tree.LeadsTo

end Files

/-- A package is found if it is configured and its directory is there. -/
theorem PackageMap.find_of_leadsTo {map : PackageMap} {name : String} {path : Path} {t : Tree}
    (entry : map.entries.lookup name = some path) (directory : t.LeadsTo path (some .directory)) :
    map.find name t = .ok (.atPath name path) t := by
  unfold PackageMap.find
  rw [entry]
  exact bind_of_ok directory.isDirectory

end Componentry
