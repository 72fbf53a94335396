import Componentry.CommandLine.Run

/-!
# What a run looks at

A run acts on a tree of files that is taken from the disk before it starts. The files that describe
the project and its workspace tell which other files the run can look at.
-/

namespace Componentry.CommandLine

open Files (Path Tree)

/-- What has to be taken from the disk. -/
structure Reach where
  /-- Files, and directories without what is in them. -/
  paths : List Path := []
  /-- Directories with all that is in them. -/
  areas : List Path := []

namespace Reach

/-- What a run in a directory looks at first. -/
def atStart (directory : Path) : List Path :=
  [directory, directory.join projectFileName, directory.join workspaceFileName]

/-- The paths of a package that are looked at. -/
def ofPackage (package : Package) : List Path :=
  [package.path, package.registryFile, package.typelistFile, package.projectFile]

/-- The files of the typekit of a project. -/
def ofDescription (directory : Path) (d : Description.Project) : List Path :=
  d.typekit.toList.flatMap fun t => (t.registry.toList ++ t.typelist.toList).map directory.join

/-- What a run in a directory looks at besides, given the workspace configuration and the packages
that it names. -/
def ofWorkspace (directory : Path) (workspace : Workspace) (packages : PackageMap) : Reach where
  paths := packages.entries.flatMap fun (name, path) => ofPackage (.atPath name path)
  areas :=
    [(FileWriter.mk directory workspace.area workspace.links).automaticDir, directory.join "tasks"]

/-- The workspace configuration in a directory. -/
def workspaceIn (directory : Path) : Work Workspace := do
  let file := directory.join workspaceFileName
  if ← Work.onFiles (Files.Change.isPresent file) then Workspace.load file else return {}

/-- The value of an operation on a tree of files, and a default if it fails. -/
def valueOn {α : Type} [Inhabited α] (files : Tree) (x : Work α) : α :=
  match x { files } with
  | .ok a _ => a
  | .error _ _ => default

/-- What a run in a directory looks at, as far as the files that it looks at first tell. -/
def find (files : Tree) (directory : Path) : Reach :=
  let workspace := valueOn files (some <$> workspaceIn directory)
  let packages := valueOn files do
    match workspace with
    | some w => w.packageMap directory
    | none => return {}
  let description := valueOn files do
    let file := directory.join projectFileName
    some <$> Work.ofExcept (Description.Project.parse file.toText (← Work.readProjectFile file))
  let reach := match workspace with
    | some w => ofWorkspace directory w packages
    | none => {}
  { reach with paths := reach.paths ++ description.toList.flatMap (ofDescription directory) }

end Reach

end Componentry.CommandLine
