import Componentry.Generation.Writer
import Componentry.Yaml.Value

/-!
# Workspaces

A workspace configuration names the automatic area, says whether headers are linked, and tells where
the packages that a project uses are found. What it does not say has its default.
-/

namespace Componentry

open Componentry.Yaml (Value)
open Files (Path)

/-- The name of the file that configures a workspace. -/
def workspaceFileName : String := ".taskgen-workspace.yaml"

/-- A package that a workspace imports, and its path from the root of the workspace. -/
structure PackageImport where
  name : String
  localPath : String
  deriving Repr, DecidableEq

/-- The configuration of a workspace. -/
structure Workspace where
  area : String := defaultArea
  links : Bool := true
  imports : List PackageImport := []
  deriving Repr, DecidableEq

namespace Workspace

/-- The entries of a mapping. -/
abbrev Entries := List (Value × Value)

/-- The value under a key. -/
def valueAt? (entries : Entries) (key : String) : Option Value :=
  (entries.find? fun entry => entry.1.sameKey (.text key)).map (·.2)

/-- The keys that a configuration may have. -/
def knownKeys : List String :=
  ["automatic-area", "fake-install", "package-imports"]

/-- The keys of a mapping that a configuration does not have. All of them must be texts. -/
def unknownKeys (entries : Entries) : Except Fault (List String) := do
  let unknown := (entries.map (·.1)).filter fun key =>
    !knownKeys.any fun known => key.sameKey (.text known)
  let names ← unknown.mapM fun key =>
    match key with
    | .text name => .ok name
    | _ => .error .keysUnordered
  return (NameSet.ofList names).toList

/-- The text that a mapping must have under a key. -/
def requiredText (entries : Entries) (key place : String) : Except Fault String :=
  match valueAt? entries key with
  | none => .error (.workspaceFieldMissing place key)
  | some (.text s) => .ok s
  | some _ => .error (.workspaceFieldNotText place key)

/-- An import of a package. The place says where it stands. -/
def readImport (place : String) (value : Value) : Except Fault PackageImport :=
  match value with
  | .dict entries => do
    let name ← requiredText entries "name" place
    return ⟨name, ← requiredText entries "local-path" place⟩
  | _ => .error (.importNotMapping place)

/-- The automatic area of a configuration. -/
def readArea (label : String) (entries : Entries) : Except Fault String :=
  if (valueAt? entries "automatic-area").isSome then requiredText entries "automatic-area" label
  else .ok defaultArea

/-- Whether a configuration asks for links. -/
def readLinks (label : String) (entries : Entries) : Except Fault Bool :=
  match valueAt? entries "fake-install" with
  | none => .ok true
  | some (.bool b) => .ok b
  | some _ => .error (.linksNotBool label)

/-- The packages that a configuration imports. -/
def readImports (label : String) (entries : Entries) : Except Fault (List PackageImport) :=
  match valueAt? entries "package-imports" with
  | none => .ok []
  | some (.list items) =>
    items.zipIdx.mapM fun (item, index) => readImport s!"{label}: package-imports[{index}]" item
  | some _ => .error (.importsNotList label)

/-- The names that occur more than once. -/
def repeatedNames (names : List String) : List String :=
  (NameSet.ofList (names.filter fun name => 1 < names.count name)).toList

/-- The configuration that a value denotes. The label names the document in messages. -/
def ofValue (label : String) (value : Value) : Except Fault Workspace :=
  match value with
  | .null => .ok {}
  | .dict entries => do
    let unknown ← unknownKeys entries
    if !unknown.isEmpty then throw (.workspaceFieldsUnknown label unknown)
    let area ← readArea label entries
    let links ← readLinks label entries
    let imports ← readImports label entries
    let repeated := repeatedNames (imports.map (·.name))
    if !repeated.isEmpty then throw (.importsRepeated label repeated)
    return { area, links, imports }
  | _ => .error (.workspaceNotMapping label)

/-- The configuration that the text of a document denotes. -/
def parse (label text : String) : Except Fault Workspace :=
  match Value.parse text with
  | .ok value => ofValue label value
  | .error .form => .error (.workspaceSyntax label)
  | .error (.scalar problem) => .error problem.fault

/-- The configuration that a file holds. -/
def load (path : Path) : Work Workspace := do
  let text ← tryCatch (Work.onFiles (Files.Change.readText path)) fun fault =>
    match fault with
    | .file ⟨.missing, _⟩ => throw (.workspaceFileMissing path.toText)
    | .file failure => throw (.workspaceFileUnreadable failure)
    | _ => throw fault
  Work.ofExcept (parse path.toText text)

/-- The packages of a workspace with the given root. -/
def packageMap (w : Workspace) (root : Path) : Work PackageMap := do
  let entries ← w.imports.mapM fun i => do
    return (i.name, ← Work.onFiles (Files.Change.resolve (root.join i.localPath)))
  return .ofList entries

end Workspace

end Componentry
