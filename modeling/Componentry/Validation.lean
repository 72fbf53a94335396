import Componentry.Scope.Dependencies
import Componentry.Text.Word

/-!
# Checks

What the declarations accept but is likely a mistake: members whose names the client side of the
framework uses itself, components with an empty interface, interface types that the typekits export
for internal use only, and user classes whose constructors no longer fit their base class.
-/

namespace Componentry

namespace Validation

/-- The names that the client side of the framework uses itself. -/
def reservedNames : List String :=
  ["attribute", "cleanup", "configure", "connect_to", "doc", "model", "name", "operation", "port",
   "ports", "property", "properties", "reset_exception", "start", "stop"]

/-- The outcome of the checks of a project. -/
structure Report where
  warnings : List String := []
  errors : List String := []

/-- One report after another. -/
def Report.append (a b : Report) : Report :=
  ⟨a.warnings ++ b.warnings, a.errors ++ b.errors⟩

/-- The warnings about members with reserved names. -/
def reservedWarnings (c : Interface) : List String :=
  (c.members.filter fun m => m.name ∈ reservedNames).map fun m =>
    s!"{c.name}: '{m.name}' is a method name of the client-side component API; " ++
      s!"the {m.kind} will not be reachable through the shortcut accessor"

/-- The warning about a component without members. -/
def isolationWarnings (s : Store) (c : ComponentId) : List String :=
  if (s.lineage.allMembers c).isEmpty then
    [s!"{(s.interface c).name} has an empty interface"] else []

/-- The typekits visible from a project that export a type, besides the one built into the
framework. -/
def exporting (s : Store) (p : ProjectId) (type : String) : List Typekit :=
  ((s.visibleTypekits p).map s.typekit).filter fun k => !k.isVirtual && k.includes (.named type)

/-- The errors about interface types that the typekits export for internal use only. -/
def internalTypeErrors (s : Store) (p : ProjectId) (c : ComponentId) : List String :=
  (s.interfaceTypes c).toList.filterMap fun type =>
    let typekits := exporting s p type
    if typekits.isEmpty || typekits.any (·.isInterfaceType (.named type)) then none
    else some (s!"{(s.interface c).name}: type {type} is internal to typekit(s) " ++
      Text.joined ", " (typekits.map (·.name)))

/-- The report on a component. -/
def checkComponent (s : Store) (p : ProjectId) (c : ComponentId) : Report where
  warnings := reservedWarnings (s.interface c) ++ isolationWarnings s c
  errors := internalTypeErrors s p c

/-- The report on a project. Imported projects are not checked. -/
def validate (s : Store) (p : ProjectId) : Report :=
  let project := s.project p
  if project.isImported then {}
  else (project.components.map (checkComponent s p)).foldl Report.append {}

/-- Whether some characters stand next to each other in a text. -/
def occursIn (part : List Char) : List Char → Bool
  | [] => part.isEmpty
  | c :: rest => part.isPrefixOf (c :: rest) || occursIn part rest

/-- The text before the last closing bracket. -/
def beforeLastBracket? (cs : List Char) : Option (List Char) :=
  match cs.reverse.dropWhile (· != ')') with
  | [] => none
  | _ :: front => some front.reverse

/-- What stands in a line between the first call of a name and the last closing bracket. `inWord`
says that the character before belongs to a word; the name must begin at the edge of a word. -/
def callArguments? (call : List Char) (inWord : Bool) : List Char → Option (List Char)
  | [] => none
  | c :: rest =>
    let here :=
      if inWord != Text.isWord c && call.isPrefixOf (c :: rest) then
        beforeLastBracket? ((c :: rest).drop call.length)
      else none
    here.or (callArguments? call (Text.isWord c) rest)

/-- Whether a line has a constructor of a class that takes an initial state. -/
def takesState (className line : String) : Bool :=
  match callArguments? (className.toList ++ ['(']) false line.toList with
  | some arguments => occursIn "TaskCore::TaskState".toList arguments
  | none => false

/-- The warning about constructors in a file that still take an initial state. -/
def stateWarning (className : String) (path : Files.Path) : String :=
  "'needs_configuration' or 'fixed_initial_state' has been specified for the task " ++
    s!"'{className}', but the constructors in {path.toText} still take a TaskState. " ++
    "Setting an initial state is not allowed with a fixed initial state, the constructors must be adapted."

/-- The warnings about constructors in a user file of a component. Only those of a component with a
fixed initial state are looked at. -/
def constructorWarnings (c : ComponentId) (path : Files.Path) : Work (List String) := do
  let s ← get
  if !s.lineage.isFixedInitialState c then return []
  if !(← Work.onFiles (Files.Change.isFile path)) then return []
  let text ← Work.onFiles (Files.Change.readText path)
  let className := (s.interface c).basename
  return if (Text.lines text).any (takesState className) then [stateWarning className path] else []

end Validation

end Componentry
