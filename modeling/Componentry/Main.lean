import Componentry.CommandLine.Reach

/-!
# The program

Takes the files that a command line can look at from the disk, runs the command line on them, and
writes what has changed back to the disk. A link is written as a second name of the file that it
leads to.
-/

namespace Componentry.Disk

open Files (Path Place Entry Tree)

/-- What is on the disk at a path, and below it if `inside` says so. What cannot be read is left
out. -/
partial def entriesAt (inside : Bool) (path : Path) : IO (List (Place × Entry)) :=
  try
    let real ← IO.FS.realPath path.toText
    let place := (Path.ofText real.toString).names
    let link := if place = path.names then [] else [(path.names, .link ⟨"/", place⟩)]
    match (← real.metadata).type with
    | .dir =>
      let children ← if inside then (·.toList) <$> real.readDir else pure []
      let below ← children.mapM fun child => entriesAt inside (Path.ofText child.path.toString)
      return link ++ (place, .directory) :: below.flatten
    | .file => return link ++ [(place, .file (← IO.FS.readBinFile real))]
    | _ => return link
  catch _ => return []

/-- A tree with one more entry, unless there is one at its place, and the directories above it. -/
def addEntry (files : Tree) (entry : Place × Entry) : Tree :=
  let above := (List.range entry.1.length).map fun n => (entry.1.take n, Entry.directory)
  (entry :: above).foldl
    (fun t (place, e) => if (t.get? place).isSome then t else t.put place e) files

/-- A tree with what is on the disk at the paths. -/
def take (inside : Bool) (paths : List Path) (files : Tree) : IO Tree := do
  let entries ← paths.mapM (entriesAt inside)
  return entries.flatten.foldl addEntry files

/-- The files that a run in a directory can look at. -/
def filesFor (directory : Path) : IO Tree := do
  let files ← take false (CommandLine.Reach.atStart directory) {}
  let reach := CommandLine.Reach.find files directory
  take true reach.areas (← take false reach.paths files)

/-- Writes an entry to the disk. -/
def writeEntry (place : Place) (entry : Entry) : IO Unit := do
  let path := Files.Path.toText ⟨"/", place⟩
  match entry with
  | .directory => IO.FS.createDirAll path
  | .file content => IO.FS.writeBinFile path content
  | .link target =>
    try IO.FS.removeFile path catch _ => pure ()
    IO.FS.hardLink target.toText path

/-- Writes what has changed to the disk. -/
def writeChanges (old new : Tree) : IO Unit := do
  for (place, _) in old.entries do
    if (new.get? place).isNone then IO.FS.removeFile (Files.Path.toText ⟨"/", place⟩)
  for (place, entry) in new.entries do
    if old.get? place ≠ some entry then writeEntry place entry

/-- The directory of the task of a command line. -/
def directoryOf (words : List String) (workingDir : Path) : Path :=
  match CommandLine.Request.parse words with
  | .ok { task := some task, .. } => workingDir.join task.directory
  | _ => workingDir

end Componentry.Disk

open Componentry in
/-- Runs a command line. -/
def main (words : List String) : IO UInt32 := do
  let workingDir := Files.Path.ofText (← IO.currentDir).toString
  let files ← Disk.filesFor (Disk.directoryOf words workingDir)
  let finish (t : CommandLine.Terminal) : IO Unit := do
    Disk.writeChanges files t.store.files
    IO.print t.output
    IO.eprint t.errors
  match CommandLine.run words workingDir { store := { files } } with
  | .ok code t => do
    finish t
    return code.toUInt32
  | .error fault t => do
    finish t
    IO.eprintln s!"Error: {fault.message}"
    return 1
