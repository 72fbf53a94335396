import Componentry.CommandLine.Options

/-!
# Requests

A command line consists of options, the name of a command, and the words that the command reads:
options of its own and at most one directory. What fits nowhere is reported together, when all else
has been read.
-/

namespace Componentry.CommandLine

/-- What can be done with a project. -/
inductive Command where
  | init
  | check
  | generate
  deriving Repr, DecidableEq

namespace Command

/-- Every command. -/
def all : List Command :=
  [.init, .check, .generate]

/-- The name of a command. -/
def name : Command → String
  | .init => "init"
  | .check => "check"
  | .generate => "generate"

/-- The options of every command. -/
def helpOptions : List (String × Switch) :=
  [("-h", .help), ("--help", .help)]

/-- The part of the help that `check` and `generate` share. -/
def sharedDetails : String :=
  "positional arguments:\n" ++
  "  directory   Directory containing the TaskGen project (default: current\n" ++
  "              directory)\n\n" ++
  "options:\n" ++
  "  -h, --help  show this help message and exit"

/-- What a command understands. -/
def grammar : Command → Grammar
  | .init => {
    program := "taskgen init"
    usage := "usage: taskgen init [-h] [--name NAME] [directory]"
    details :=
      "Write a skeleton taskgen.yaml and workspace configuration.\n\n" ++
      "positional arguments:\n" ++
      "  directory    Directory to create the project in (default: current directory)\n\n" ++
      "options:\n" ++
      "  -h, --help   show this help message and exit\n" ++
      "  --name NAME  Project name (default: the directory name)"
    options := helpOptions ++ [("--name", .projectName)] }
  | .check => {
    program := "taskgen check"
    usage := "usage: taskgen check [-h] [directory]"
    details := "Validate the project description without generating any file.\n\n" ++ sharedDetails
    options := helpOptions }
  | .generate => {
    program := "taskgen generate"
    usage := "usage: taskgen generate [-h] [directory]"
    details :=
      "Regenerate the base classes in the automatic area and create the user classes\n" ++
      "that do not exist yet. Existing user files are never modified.\n\n" ++ sharedDetails
    options := helpOptions }

/-- The command of a name. -/
def ofName? (name : String) : Option Command :=
  all.find? (·.name = name)

end Command

/-- What stands in front of a command. -/
def programGrammar : Grammar where
  program := "taskgen"
  usage := "usage: taskgen [-h] [-v] COMMAND ..."
  details :=
    "TaskGen: component code generator\n\n" ++
    "positional arguments:\n" ++
    "  COMMAND\n" ++
    "    init         Create a new TaskGen project\n" ++
    "    check        Load the project and run the lint checks\n" ++
    "    generate     Generate the typekit and component classes\n\n" ++
    "options:\n" ++
    "  -h, --help     show this help message and exit\n" ++
    "  -v, --verbose  Log every generation step"
  options := Command.helpOptions ++ [("-v", .verbose), ("--verbose", .verbose)]

/-- A command with its directory and the name that a new project is to get. -/
structure Task where
  command : Command
  directory : String
  projectName : Option String
  deriving Repr, DecidableEq

/-- What a command line asks for. -/
structure Request where
  verbose : Bool
  /-- The task; without one, help is shown. -/
  task : Option Task
  deriving Repr, DecidableEq

/-- What the words of a command have said: settings, its directory if there is one, and the words
that fit nowhere. -/
structure CommandWords where
  settings : Settings := {}
  directory : Option String := none
  strays : List String := []

namespace CommandWords

/-- The state after a word that is no option. A divider leaves no trace next to the directory. -/
def place (w : CommandWords) (text : String) : CommandWords :=
  match w.directory with
  | none => { w with directory := some text }
  | some _ => { w with strays := w.strays ++ [text] }

/-- Reads the words of a command. -/
def read (g : Grammar) (w : CommandWords) (words : List Word) : Except Stop CommandWords :=
  match words with
  | [] => .ok w
  | ⟨text, .plain⟩ :: rest =>
    match w.directory, rest with
    | none, ⟨_, .divider⟩ :: rest => (w.place text).read g rest
    | _, rest => (w.place text).read g rest
  | ⟨text, .divider⟩ :: rest =>
    if w.directory.isNone then w.read g rest else (w.place text).read g rest
  | word :: rest => do
    let p ← g.readOption w.settings word rest.head?
    let w := { w with settings := p.settings, strays := w.strays ++ p.stray.toList }
    if p.usesNext then w.read g rest.tail else w.read g rest
termination_by words.length
decreasing_by
  all_goals simp only [wfParam, List.length_cons, List.length_tail]
  all_goals omega

end CommandWords

namespace Request

/-- Reads the words of a command, of which the first one names it. -/
def readCommand (words : List String) : Except Stop (Task × List String) :=
  match words with
  | [] => .error (.help programGrammar)
  | name :: rest =>
    match Command.ofName? name with
    | none =>
      let choices := Text.joined ", " (Command.all.map fun c => Text.quoted c.name)
      .error (.misuse programGrammar (s!"argument COMMAND: invalid choice: " ++ Text.quoted name ++
        s!" (choose from {choices})"))
    | some command => do
      let g := command.grammar
      let w ← CommandWords.read g {} (← g.readAll rest)
      return (⟨command, w.directory.getD ".", w.settings.projectName⟩, w.strays)

/-- Reads the words up to the name of a command and those that belong to the command. -/
def read (settings : Settings) (strays : List String) (words : List Word) :
    Except Stop (Request × List String) :=
  match words with
  | [] => .ok (⟨settings.verbose, none⟩, strays)
  | [⟨text, .divider⟩] => .ok (⟨settings.verbose, none⟩, strays ++ [text])
  | ⟨text, .divider⟩ :: rest | ⟨text, .plain⟩ :: rest => do
    let (task, left) ← readCommand (text :: rest.map (·.text))
    return (⟨settings.verbose, some task⟩, strays ++ left)
  | word :: rest => do
    let p ← programGrammar.readOption settings word rest.head?
    let strays := strays ++ p.stray.toList
    if p.usesNext then read p.settings strays rest.tail else read p.settings strays rest
termination_by words.length
decreasing_by
  all_goals simp only [List.length_cons, List.length_tail]
  all_goals omega

/-- What a command line asks for. -/
def parse (words : List String) : Except Stop Request := do
  let (request, strays) ← read {} [] (← programGrammar.readAll words)
  if strays.isEmpty then return request
  else throw (.misuse programGrammar (s!"unrecognized arguments: " ++ Text.joined " " strays))

end Request

end Componentry.CommandLine
