import Componentry.CommandLine.Request
import Componentry.Description.Writer
import Componentry.Generation.Run
import Componentry.Scope.Loading
import Componentry.Workspace

/-!
# Running the commands

A run acts on a store and writes lines to a terminal: results to the output, faults of the model and
of the workspace configuration to the errors. The exit code is 0 if the work was done, 1 if a fault
was reported or found by a check, and 2 if the command line cannot be understood. Faults of other
kinds end the run.
-/

namespace Componentry.CommandLine

open Files (Path)

/-- The state of a run: its store, and what it has written so far. -/
structure Terminal where
  store : Store
  /-- Whether all lines of the log are shown, and not only the warnings. -/
  verbose : Bool := false
  output : String := ""
  reports : String := ""

namespace Terminal

/-- Whether a line of the log is shown. -/
def shows (t : Terminal) (line : LogLine) : Bool :=
  t.verbose || line.severity = .warning

/-- What was written besides the output: the log, and then the reports, which no line of the log
follows. -/
def errors (t : Terminal) : String :=
  String.join ((t.store.log.filter t.shows).map fun line => line.render ++ "\n") ++ t.reports

end Terminal

/-- A part of a run. -/
abbrev Job := EStateM Fault Terminal

namespace Job

/-- An operation on the store. -/
def onStore {α : Type} (x : Work α) : Job α := fun t =>
  match x t.store with
  | .ok a store => .ok a { t with store }
  | .error fault store => .error fault { t with store }

/-- Writes a line to the output. -/
def say (line : String) : Job Unit :=
  modify fun t => { t with output := t.output ++ line ++ "\n" }

/-- Writes a line to the errors. -/
def report (line : String) : Job Unit :=
  modify fun t => { t with reports := t.reports ++ line ++ "\n" }

/-- The value of an operation. A fault that is one of those to be reported is, and there is no
value. -/
def reporting {α : Type} (reported : Fault → Bool) (x : Work α) : Job (Option α) :=
  tryCatch (some <$> onStore x) fun fault => do
    if reported fault then
      report s!"Error: {fault.message}"
      return none
    else throw fault

/-- Whether a path leads to anything. -/
def isPresent (path : Path) : Job Bool :=
  onStore (Work.onFiles (Files.Change.isPresent path))

end Job

/-- A name made of a text: what cannot stand in a word is replaced. -/
def wordOf (text : String) : String :=
  text.map fun c => if Text.isWord c then c else '_'

/-- The description of a new project. It has one component, without members. -/
def newDescription (name : String) : Description.Project :=
  { name, components := [{ name := "Task" }] }

/-- The configuration of a new workspace. It says what would hold without it. -/
def newWorkspace : String :=
  "# TaskGen Workspace Configuration\n" ++
  "automatic-area: .taskgen\n" ++
  "fake-install: true\n" ++
  "package-imports: []\n"

/-- Writes the description of a project. -/
def saveDescription (description : Description.Project) (path : Path) : Work Unit :=
  tryCatch (Work.onFiles (Files.Change.writeText path description.write)) fun fault =>
    match fault with
    | .file failure => throw (.projectFileUnwritable path.toText failure)
    | _ => throw fault

/-- Makes a project in a directory. -/
def create (directory : Path) (projectName : Option String) : Job Nat := do
  let directory ← Job.onStore (Work.onFiles (Files.Change.resolve directory))
  if !(← Job.isPresent directory) then
    Job.report s!"Error: directory '{directory.toText}' does not exist."
    return 1
  let projectFile := directory.join projectFileName
  if ← Job.isPresent projectFile then
    Job.report s!"Error: project already exists at '{projectFile.toText}'."
    return 1
  let name := match projectName with
    | some name => if name.isEmpty then wordOf directory.name else name
    | none => wordOf directory.name
  match ← Job.reporting Fault.isModelFault (saveDescription (newDescription name) projectFile) with
  | none => return 1
  | some _ =>
    let workspaceFile := directory.join workspaceFileName
    if !(← Job.isPresent workspaceFile) then
      Job.onStore (Work.onFiles (Files.Change.writeText workspaceFile newWorkspace))
    Job.say s!"Initialized TaskGen project '{name}' at '{projectFile.toText}'."
    return 0

/-- The configuration of the workspace in a directory; that of every workspace if there is no
file. -/
def loadWorkspace (directory : Path) : Job (Option Workspace) := do
  let workspaceFile := directory.join workspaceFileName
  if ← Job.isPresent workspaceFile then
    Job.reporting (·.area = .workspace) (Workspace.load workspaceFile)
  else return some {}

/-- The project in a directory, and the configuration of its workspace. -/
def loadProject (directory : Path) : Job (Option (ProjectId × Workspace)) := do
  let directory ← Job.onStore (Work.onFiles (Files.Change.resolve directory))
  if !(← Job.isPresent directory) then
    Job.report s!"Error: directory '{directory.toText}' does not exist."
    return none
  let projectFile := directory.join projectFileName
  if !(← Job.isPresent projectFile) then
    Job.report
      s!"Error: no TaskGen project found at '{directory.toText}'. Run 'taskgen init' to create one."
    return none
  match ← loadWorkspace directory with
  | none => return none
  | some workspace =>
    let project? ← Job.reporting Fault.isModelFault do
      let packages ← Work.newPackageMap (← workspace.packageMap directory)
      Work.loadFile projectFile { baseDir := directory, packages }
    return project?.map (·, workspace)

/-- Checks the project in a directory. -/
def check (directory : Path) : Job Nat := do
  match ← loadProject directory with
  | none => return 1
  | some (project, _) =>
    let s := (← get).store
    let report := Validation.validate s project
    let count := (s.project project).components.length
    Job.say s!"Checking {count} component(s) of project '{(s.project project).name}'..."
    report.warnings.forM fun warning => Job.say s!"Warning: {warning}"
    report.errors.forM fun error => Job.report s!"Error: {error}"
    if !report.errors.isEmpty then return 1
    Job.say "No issues found."
    return 0

/-- Lists the generated files of a project. -/
def sayFiles (projectName : String) (files : Generation.ProjectFiles) : Job Unit := do
  files.warnings.forM fun warning => Job.say s!"Warning: {warning}"
  match files.typekit with
  | some typekit => Job.say s!"  typekit {projectName}: {typekit.typesHeader.toText}"
  | none => pure ()
  files.components.forM fun c => Job.say s!"  {c.userHeader.stem}: {c.baseHeader.parent.toText}"
  Job.say s!"Generated {files.components.length} component(s) of project '{projectName}'."

/-- Generates the project in a directory. -/
def generate (directory : Path) : Job Nat := do
  match ← loadProject directory with
  | none => return 1
  | some (project, workspace) =>
    match ← Job.reporting Fault.isModelFault
      (project.generate workspace.area workspace.links Generation.Page.text) with
    | none => return 1
    | some files =>
      sayFiles ((← get).store.project project).name files
      return 0

/-- Does what a command line asks for; the directory of a task is seen from the given one. -/
def perform (request : Request) (workingDir : Path) : Job Nat := do
  modify ({ · with verbose := request.verbose })
  match request.task with
  | none =>
    Job.say programGrammar.help
    return 0
  | some task =>
    let directory := workingDir.join task.directory
    match task.command with
    | .init => create directory task.projectName
    | .check => check directory
    | .generate => generate directory

/-- Runs a command line in a directory. -/
def run (words : List String) (workingDir : Path) : Job Nat :=
  match Request.parse words with
  | .ok request => perform request workingDir
  | .error (.help asked) => do
    Job.say asked.help
    return 0
  | .error (.misuse command words) => do
    Job.report command.usage
    Job.report s!"{command.program}: error: {words}"
    return 2

end Componentry.CommandLine
