import Componentry.Files.Failure
import Componentry.Issue
import Componentry.Text.Lines

/-!
# Faults

Every way in which an operation can fail, by its cause. `Fault.message` gives the words of each, and
`Fault.area` the part of the work that the cause belongs to; the command line reports the faults of
the model and lets the others pass.
-/

namespace Componentry

/-- The lifecycle hooks of a component, in the order in which the framework calls them. -/
def hookNames : List String :=
  ["configure", "start", "update", "error", "exception", "fatal", "stop", "cleanup"]

/-- The cause of a failure. -/
inductive Fault where
  /-- A line of a typelist has the form of no entry. -/
  | typelistLine (line : String)
  /-- A typelist has interface types that it does not export. -/
  | interfaceOutsideExports
  | typekitInterfaceOutsideExports (typekit : String) (names : List String)
  | conflictingTypes (name : String)
  | descriptorSyntax
  | attributeMissing (element key : String)
  | attributeNotInteger (element key value : String)
  | unknownEntry (element : String)
  | incompleteOpaque
  | opaqueTwice (typekit name : String)
  | typeNotFound (name : String)
  | toplevelArray (name : String)
  | toplevelNumeric (name : String)
  | notOpaque (name : String)
  | memberTaken (member component : String)
  | componentTaken (component project : String)
  | extensionTaken (component extension : String)
  /-- Two records of generated code of one kind have the same field name. -/
  | recordTaken (component kind field : String)
  | methodTaken (component method : String)
  | bodyMissing (component operation : String)
  /-- No visible typekit tells how an opaque type is marshalled. -/
  | opaqueUnspecified (name project : String)
  /-- The typekit that would have to hold an opaque type cannot be changed. -/
  | opaqueOutsideTypekit (name project : String)
  | methodsReplaced
  | commandsReplaced
  | importedComponent (name : String)
  | importedTypekit (project : String)
  | frozenProject (name : String)
  | frozenTypekit (name : String)
  /-- An import is asked for while it is under way. -/
  | importCycle (name : String)
  | packageNotConfigured (name : String)
  | packageDirectoryMissing (name path : String)
  | typekitUnavailable (name : String)
  | notLibrary (name : String)
  /-- A package cannot be had, in the words of whoever looked for it. -/
  | packageUnavailable (report : String)
  | projectFileMissing (path : String)
  | projectFileUnreadable (path : String) (failure : Files.Failure)
  | projectFileUnwritable (path : String) (failure : Files.Failure)
  | typekitUnreadable (name : String) (failure : Files.Failure)
  | typekitFileUnreadable (path : String) (failure : Files.Failure)
  | projectSyntax (label : String)
  | projectNotMapping (label : String)
  | projectShape (label : String) (issues : List Issue)
  | componentNotFound (name project : String)
  | noPort (component port : String)
  | noOperation (component operation : String)
  | noInputPort (component port : String)
  | workspaceFileMissing (path : String)
  | workspaceFileUnreadable (failure : Files.Failure)
  | workspaceSyntax (label : String)
  | workspaceNotMapping (label : String)
  | workspaceFieldsUnknown (label : String) (names : List String)
  | workspaceFieldMissing (place field : String)
  | workspaceFieldNotText (place field : String)
  | linksNotBool (label : String)
  | importsNotList (label : String)
  | importNotMapping (place : String)
  | importsRepeated (label : String) (names : List String)
  /-- A piece of code is given both as a text and by a computation. -/
  | codeGivenTwice
  | unknownHook (name : String)
  | unknownRetention (shown : String)
  | unknownTypeKind (word : String)
  | noLiteral (shown : String)
  /-- A scalar of a document does not denote a value of its type. -/
  | scalarValue (report : String)
  /-- A truth value is tagged as such and is none. -/
  | scalarNotBool
  /-- A number is tagged as such and has no characters. -/
  | scalarEmpty
  /-- A timestamp is tagged as such and is none. -/
  | scalarNotTime
  /-- A number is too large. -/
  | scalarOverflow
  /-- The unknown keys of a mapping have no common order. -/
  | keysUnordered
  /-- A file is not UTF-8. -/
  | undecodable
  /-- A path holds a NUL character. -/
  | pathWithNul
  | file (failure : Files.Failure)
  /-- A chain of symbolic links closes on itself. -/
  | linkCycle (path : String)
  /-- A project that imports its typekit has none. -/
  | typekitAbsent
  /-- An operation needs a type that a description does not name. -/
  | typeUnnamed
  deriving Repr, DecidableEq

namespace Fault

/-- The part of the work that a fault belongs to. -/
inductive Area where
  | malformedDeclaration
  | typeLookup
  | illegalType
  | duplicateMember
  | missingBody
  | missingOpaque
  | unsupportedOperation
  | generationOnImport
  | frozen
  | importCycle
  | packageLookup
  | projectLoad
  | componentLookup
  | memberLookup
  | workspace
  | value
  | system
  deriving Repr, DecidableEq

/-- The part of the work that a fault belongs to. -/
def area : Fault → Area
  | typelistLine _ | interfaceOutsideExports | typekitInterfaceOutsideExports ..
  | conflictingTypes _ | descriptorSyntax | attributeMissing .. | attributeNotInteger ..
  | unknownEntry _ | incompleteOpaque | opaqueTwice .. => .malformedDeclaration
  | typeNotFound _ => .typeLookup
  | toplevelArray _ | toplevelNumeric _ | notOpaque _ => .illegalType
  | memberTaken .. | componentTaken .. | extensionTaken .. | recordTaken .. | methodTaken .. =>
    .duplicateMember
  | bodyMissing .. => .missingBody
  | opaqueUnspecified .. | opaqueOutsideTypekit .. => .missingOpaque
  | methodsReplaced | commandsReplaced => .unsupportedOperation
  | importedComponent _ | importedTypekit _ => .generationOnImport
  | frozenProject _ | frozenTypekit _ => .frozen
  | importCycle _ => .importCycle
  | packageNotConfigured _ | packageDirectoryMissing .. | typekitUnavailable _ | notLibrary _
  | packageUnavailable _ => .packageLookup
  | projectFileMissing _ | projectFileUnreadable .. | projectFileUnwritable ..
  | typekitUnreadable .. | typekitFileUnreadable .. | projectSyntax _ | projectNotMapping _
  | projectShape .. =>
    .projectLoad
  | componentNotFound .. => .componentLookup
  | noPort .. | noOperation .. | noInputPort .. => .memberLookup
  | workspaceFileMissing _ | workspaceFileUnreadable _ | workspaceSyntax _ | workspaceNotMapping _
  | workspaceFieldsUnknown .. | workspaceFieldMissing .. | workspaceFieldNotText .. | linksNotBool _
  | importsNotList _ | importNotMapping _ | importsRepeated .. => .workspace
  | codeGivenTwice | unknownHook _ | unknownRetention _ | unknownTypeKind _ | noLiteral _
  | scalarValue _ | pathWithNul => .value
  | scalarNotBool | scalarEmpty | scalarNotTime | scalarOverflow | keysUnordered | undecodable
  | file _ | linkCycle _ | typekitAbsent | typeUnnamed => .system

/-- Whether the fault is one of the model, its declarations and its files, and not of a workspace
configuration, a value or the system. -/
def isModelFault (f : Fault) : Bool :=
  match f.area with
  | .workspace | .value | .system => false
  | _ => true

/-- The words of a fault. -/
def message : Fault → String
  | typelistLine line =>
    s!"Declaration '{line}' in a typelist could not be parsed -- wrong type pattern"
  | interfaceOutsideExports => "interface types must be a subset of the exported types"
  | typekitInterfaceOutsideExports typekit names =>
    s!"typekit '{typekit}': interface types not exported by the typekit: " ++ Text.joined ", " names
  | conflictingTypes name => s!"conflicting definitions for type '{name}'"
  | descriptorSyntax => "invalid type descriptor"
  | attributeMissing element key => s!"<{element}> entry is missing the '{key}' attribute"
  | attributeNotInteger element key value =>
    s!"<{element}> attribute '{key}' must be an integer, got " ++ Text.quoted value
  | unknownEntry element => s!"unknown type descriptor entry <{element}>"
  | incompleteOpaque => "<opaque> entries need both 'name' and 'marshal_as'"
  | opaqueTwice typekit name => s!"typekit '{typekit}': opaque '{name}' is defined twice"
  | typeNotFound name => s!"type '{name}' is not defined"
  | toplevelArray name => s!"{name}: array types can be used only in a structure"
  | toplevelNumeric name => s!"{name} cannot be used as a toplevel type"
  | notOpaque name => s!"{name} is not an opaque type"
  | memberTaken member component => s!"{member} is already used in the interface of {component}"
  | componentTaken component project =>
    s!"component '{component}' is already defined in project '{project}'"
  | extensionTaken component extension =>
    s!"{component} already has an extension named '{extension}'"
  | recordTaken component kind field =>
    s!"{component}: duplicate name {kind}:{field} used for base member"
  | methodTaken component method =>
    s!"{component}: there is already a method called {method} defined at this level"
  | bodyMissing component operation =>
    s!"{component}: hidden operation '{operation}' must have a body"
  | opaqueUnspecified name project =>
    s!"opaque type '{name}' has no marshalling definition in any typekit of '{project}'"
  | opaqueOutsideTypekit name project =>
    s!"opaque type '{name}' must be defined by the typekit of '{project}'"
  | methodsReplaced => "RTT 1.x methods must be replaced by RTT 2.x operations. Use #operation"
  | commandsReplaced => "RTT 1.x commands must be replaced by RTT 2.x operations. Use #operation"
  | importedComponent name => s!"cannot generate {name}: it is defined by an imported library"
  | importedTypekit project => s!"cannot generate the typekit of imported project {project}"
  | frozenProject name => s!"project '{name}' is frozen, no more declarations are allowed"
  | frozenTypekit name => s!"typekit '{name}' cannot be modified after it has been loaded"
  | importCycle name => s!"'{name}' is imported while it is being imported"
  | packageNotConfigured name => s!"package '{name}' is not configured in the workspace"
  | packageDirectoryMissing name path => s!"package '{name}': directory '{path}' does not exist"
  | typekitUnavailable name => s!"no typekit named '{name}' is available"
  | notLibrary name => s!"package '{name}' does not define a component library"
  | packageUnavailable report => report
  | projectFileMissing path => s!"Project file not found: {path}"
  | projectFileUnreadable path failure => s!"Cannot read project file '{path}': " ++ failure.message
  | projectFileUnwritable path failure =>
    s!"Cannot write project file '{path}': " ++ failure.message
  | typekitUnreadable name failure => s!"Cannot read typekit '{name}': " ++ failure.message
  | typekitFileUnreadable path failure => s!"Cannot read typekit file '{path}': " ++ failure.message
  | projectSyntax label => s!"Invalid YAML in {label}"
  | projectNotMapping label => s!"{label}: project description must be a YAML mapping"
  | projectShape label _ => s!"Invalid project description {label}"
  | componentNotFound name project =>
    s!"no component named '{name}' in project '{project}' or its imports"
  | noPort component port => s!"{component} has no port named '{port}'"
  | noOperation component operation => s!"{component} has no operation named '{operation}'"
  | noInputPort component port => s!"{component} has no input port named '{port}' to be driven by"
  | workspaceFileMissing path => s!"Workspace config file not found: {path}"
  | workspaceFileUnreadable failure => "Cannot read workspace config file: " ++ failure.message
  | workspaceSyntax label => s!"Invalid YAML in {label}"
  | workspaceNotMapping label => s!"{label}: workspace config must be a YAML mapping"
  | workspaceFieldsUnknown label names => s!"{label}: unknown field(s) " ++ Text.joined ", " names
  | workspaceFieldMissing place field => s!"{place}: missing required field '{field}'"
  | workspaceFieldNotText place field => s!"{place}: '{field}' must be a string"
  | linksNotBool label => s!"{label}: 'fake-install' must be a boolean"
  | importsNotList label => s!"{label}: 'package-imports' must be a list"
  | importNotMapping place => s!"{place} must be a YAML mapping"
  | importsRepeated label names =>
    s!"{label}: package(s) imported more than once: " ++ Text.joined ", " names
  | codeGivenTwice => "you can provide either a string or a callback, not both"
  | unknownHook name => s!"unknown hook '{name}', must be one of " ++ Text.joined ", " hookNames
  | unknownRetention shown => s!"{shown} is not a valid RetentionPolicy"
  | unknownTypeKind word => Text.quoted word ++ " is not a valid TypeKind"
  | noLiteral shown => s!"cannot represent {shown} as a C++ literal"
  | scalarValue report => report
  | scalarNotBool => "not a truth value"
  | scalarEmpty => "a number without characters"
  | scalarNotTime => "not a timestamp"
  | scalarOverflow => "a number that is too large"
  | keysUnordered => "keys without a common order"
  | undecodable => "a file that is not UTF-8"
  | pathWithNul => "embedded null byte"
  | file failure => failure.message
  | linkCycle path => "Symlink loop from " ++ Text.quoted path
  | typekitAbsent => "no typekit"
  | typeUnnamed => "no type"

end Fault

end Componentry
