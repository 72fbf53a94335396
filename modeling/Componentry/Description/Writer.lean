import Componentry.Description.Basic
import Componentry.Yaml.Tree

/-!
# Writing project descriptions

A description is written field by field, in order, without the fields that have their default.
-/

namespace Componentry.Description

open Componentry.Yaml (Tree)

/-- The fields that are written. -/
abbrev Fields := List (String × Tree)

/-- A text that is always written. -/
def textField (key value : String) : Fields :=
  [(key, .text value)]

/-- A text that is written if there is one. -/
def optionalField (key : String) : Option String → Fields
  | some value => [(key, .text value)]
  | none => []

/-- A truth value that is written if it is not the default. -/
def boolField (key : String) (default value : Bool) : Fields :=
  if value = default then [] else [(key, .bool value)]

/-- A list that is written if it is not empty. -/
def listField {α : Type} (key : String) (item : α → Tree) (items : List α) : Fields :=
  if items.isEmpty then [] else [(key, .list (items.map item))]

/-- A list of texts that is written if it is not empty. -/
def textsField (key : String) (items : List String) : Fields :=
  listField key Tree.text items

/-- A default value as it is written; there is no value of a list. -/
def Setting.defaultField : Scalar → Fields
  | .null | .list _ => []
  | .bool b => [("default", .bool b)]
  | .int n => [("default", .int n)]
  | .float x => [("default", .float x)]
  | .text s => [("default", .text s)]

/-- The fields of a marshalling rule. -/
def Marshalling.fields (m : Marshalling) : Fields :=
  textField "type" m.type ++ textField "marshal-as" m.marshalAs ++
    textsField "includes" m.headers ++ boolField "needs-copy" true m.needsCopy

/-- The fields of a typekit. -/
def Typekit.fields (t : Typekit) : Fields :=
  optionalField "registry" t.registry ++ optionalField "typelist" t.typelist ++
    listField "opaques" (fun m => .dict m.fields) t.opaques

/-- The fields of a property or attribute. -/
def Setting.fields (s : Setting) : Fields :=
  textField "name" s.name ++ textField "type" s.type ++ defaultField s.default ++
    optionalField "doc" s.doc

/-- The field of a pointer. -/
def pointerField (pointer : Option Pointer) : Fields :=
  optionalField "pointer" (pointer.map Pointer.word)

/-- The fields of an input port. -/
def InputPort.fields (p : InputPort) : Fields :=
  textField "name" p.name ++ textField "type" p.type ++ optionalField "doc" p.doc ++
    pointerField p.pointer ++ boolField "clear-on-start" true p.clearOnStart

/-- The fields of an output port. -/
def OutputPort.fields (p : OutputPort) : Fields :=
  textField "name" p.name ++ textField "type" p.type ++ optionalField "doc" p.doc ++
    pointerField p.pointer ++
    if p.retention = .onlyIfUnread then [] else textField "keep-last-written-value" p.retention.word

/-- The fields of a template for ports. -/
def DynamicPort.fields (p : DynamicPort) : Fields :=
  textField "name" p.name ++ optionalField "type" p.type ++ optionalField "doc" p.doc

/-- The fields of an argument. -/
def Argument.fields (a : Argument) : Fields :=
  textField "name" a.name ++ textField "type" a.type ++ optionalField "doc" a.doc

/-- The fields of an operation. -/
def Operation.fields (o : Operation) : Fields :=
  textField "name" o.name ++ optionalField "doc" o.doc ++
    optionalField "method-name" o.methodName ++
    optionalField "returns" o.returns ++
      listField "arguments" (fun a => .dict a.fields) o.arguments ++
    boolField "caller-thread" false o.callerThread ++ boolField "hidden" false o.hidden ++
    optionalField "body" o.body

/-- The field of the trigger ports. -/
def Triggers.fields : Triggers → Fields
  | .all driven => boolField "port-driven" false driven
  | .named ports => [("port-driven", .list (ports.map Tree.text))]

/-- The field of the statements for hooks. -/
def hooksField (hooks : List (String × List String)) : Fields :=
  if hooks.isEmpty then []
  else [("hooks",
    .dict (hooks.map fun (hook, statements) => (hook, .list (statements.map Tree.text))))]

/-- The fields of a component. -/
def Component.fields (c : Component) : Fields :=
  textField "name" c.name ++ optionalField "subclasses" c.subclasses ++ optionalField "doc" c.doc ++
    boolField "fixed-initial-state" false c.fixedInitialState ++
    boolField "needs-configuration" false c.needsConfiguration ++ c.portDriven.fields ++
    listField "properties" (fun s => .dict s.fields) c.properties ++
    listField "attributes" (fun s => .dict s.fields) c.attributes ++
    listField "input-ports" (fun p => .dict p.fields) c.inputPorts ++
    listField "output-ports" (fun p => .dict p.fields) c.outputPorts ++
    listField "dynamic-input-ports" (fun p => .dict p.fields) c.dynamicInputPorts ++
    listField "dynamic-output-ports" (fun p => .dict p.fields) c.dynamicOutputPorts ++
    listField "operations" (fun o => .dict o.fields) c.operations ++
    hooksField c.hooks ++ textsField "methods" c.methods ++ textsField "commands" c.commands

/-- The field of the typekit that a project builds. A typekit without fields is written, too. -/
def typekitField : Option Typekit → Fields
  | some t => [("typekit", .dict t.fields)]
  | none => []

/-- The fields of a project. -/
def Project.fields (p : Project) : Fields :=
  textField "name" p.name ++ typekitField p.typekit ++ textsField "using-typekits" p.usedTypekits ++
    textsField "using-task-libraries" p.usedLibraries ++
    listField "tasks" (fun c => .dict c.fields) p.components

/-- The document that describes a project. -/
def Project.write (p : Project) : String :=
  Tree.document p.fields

end Componentry.Description
