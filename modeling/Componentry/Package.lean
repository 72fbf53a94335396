import Componentry.Files.Tree
import Componentry.NameSet

/-!
# Packages

An installed package is a directory. It holds a typekit if there is a type descriptor named after
the package in it, and a component library if there is a project description in it.
-/

namespace Componentry

/-- The name of the file that describes a project. -/
def projectFileName : String := "taskgen.yaml"

/-- An installed package. -/
structure Package where
  name : String
  path : Files.Path
  /-- The directories in which its headers are searched. -/
  includeDirs : List Files.Path
  /-- The directory of its libraries. -/
  libDir : Files.Path

namespace Package

open Files (Path)

/-- A package with the usual directories for headers and libraries. -/
def atPath (name : String) (path : Path) : Package :=
  ⟨name, path, [path.join "include"], path.join "lib"⟩

/-- The directory of the headers of the package. -/
def includeDir (p : Package) : Path :=
  p.includeDirs.headD (p.path.join "include")

/-- The file of the type descriptor. -/
def registryFile (p : Package) : Path :=
  p.path.join (p.name ++ ".tlb")

/-- The file of the typelist. -/
def typelistFile (p : Package) : Path :=
  p.path.join (p.name ++ ".typelist")

/-- The file of the project description. -/
def projectFile (p : Package) : Path :=
  p.path.join projectFileName

/-- Whether the package holds a typekit. -/
def hasTypekit (p : Package) : Files.Change Bool :=
  Files.Change.isFile p.registryFile

/-- Whether the package holds a component library. -/
def hasLibrary (p : Package) : Files.Change Bool :=
  Files.Change.isFile p.projectFile

/-- The texts of the directories in which the headers of a package, if there is one, are
searched. -/
def includePaths (package : Option Package) : NameSet :=
  .ofList (package.toList.flatMap fun p => p.includeDirs.map (·.toText))

end Package

/-- The directories of installed packages by their names. -/
structure PackageMap where
  entries : List (String × Files.Path) := []

namespace PackageMap

open Files (Path)

instance : Inhabited PackageMap := ⟨{}⟩

/-- The map with the directory of one more package, or another directory for one. -/
def insert (m : PackageMap) (name : String) (path : Path) : PackageMap :=
  if (m.entries.lookup name).isSome then
    ⟨m.entries.map fun (n, p) => if n = name then (n, path) else (n, p)⟩
  else ⟨m.entries ++ [(name, path)]⟩

/-- The map with the given packages; of two with one name the last counts. -/
def ofList (entries : List (String × Path)) : PackageMap :=
  entries.foldl (fun m (name, path) => m.insert name path) {}

/-- The names of the packages. -/
def names (m : PackageMap) : List String :=
  m.entries.map (·.1)

/-- The package of a name, if its directory is there. -/
def find (m : PackageMap) (name : String) : Files.Change Package := do
  match m.entries.lookup name with
  | none => throw (.packageNotConfigured name)
  | some path =>
    if ← Files.Change.isDirectory path then return .atPath name path
    else throw (.packageDirectoryMissing name path.toText)

end PackageMap

end Componentry
