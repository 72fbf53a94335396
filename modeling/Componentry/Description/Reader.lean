import Componentry.Description.Basic
import Componentry.Description.Checked
import Componentry.Fault
import Componentry.NameSet
import Componentry.Yaml.Value

/-!
# Reading project descriptions

A description is read from a YAML mapping. Each field has a key, whose words are joined by hyphens;
a key with low lines is accepted as well. Fields that are absent have their default. A mapping may
have no other keys. All issues of a description are found, first those of the fields in their order,
then those of the other keys.

A truth value may also be given by one of the usual words or by the numbers 0 and 1, and a text by
its bytes.
-/

namespace Componentry.Description

open Componentry.Yaml (Value)
open Decimal (readFloat? readInt?)

/-- A value as the place of an issue shows it. -/
def placeOf (value : Value) : String :=
  match value with
  | .text s => s
  | .bool b => if b then "1" else "0"
  | .int n => toString n
  | .null => "None"
  | .float x => Decimal.Layout.standard.float x
  | .moment m => m.shown
  | .bytes octets =>
    "b" ++ Text.quoted (String.ofList (octets.toList.map fun o => Char.ofNat o.toNat))
  | .list _ | .dict _ | .set _ | .pair .. => ""

/-- A text, or the bytes of one. -/
def readText : Value → Checked String
  | .text s => .valid s
  | .bytes octets =>
    match String.fromUTF8? octets with
    | some s => .valid s
    | none => .refuse .undecodableText
  | _ => .refuse .notText

/-- The truth value that a word stands for, whatever the case of its ASCII letters. -/
def boolOfWord? (word : String) : Option Bool :=
  match word.map Char.toLower with
  | "1" | "on" | "t" | "true" | "y" | "yes" => some true
  | "0" | "off" | "f" | "false" | "n" | "no" => some false
  | _ => none

/-- The truth value that a number stands for. -/
def boolOfInt? (n : Int) : Option Bool :=
  if n = 0 then some false else if n = 1 then some true else none

/-- The least positive integer that does not fit into 64 bits with its sign. -/
def wordBound : Int := Nat.pow 2 63

/-- Whether an integer fits into 64 bits with its sign. -/
def isWordSized (n : Int) : Bool :=
  -wordBound ≤ n && n < wordBound

/-- A truth value, or a word or number that stands for one. -/
def readBool : Value → Checked Bool
  | .bool b => .valid b
  | .text s => ofOption (boolOfWord? s)
  | .bytes octets => ofOption ((String.fromUTF8? octets).bind boolOfWord?)
  | .int n => if isWordSized n then ofOption (boolOfInt? n) else .refuse .notBool
  | .float x =>
    match Decimal.integer? x with
    | some n =>
      if isWordSized n && n != -wordBound then ofOption (boolOfInt? n) else .refuse .notBool
    | none => .refuse .notBool
  | _ => .refuse .notBool
where
  /-- The outcome for a value of the right kind. -/
  ofOption : Option Bool → Checked Bool
    | some b => .valid b
    | none => .refuse .unclearBool

/-- The items of a list, or of a set. -/
def readList {α : Type} (item : Value → Checked α) (value : Value) : Checked (List α) :=
  match value with
  | .list items | .set items =>
    Checked.all ((items.zipIdx).map fun (x, i) => (item x).under (toString i))
  | _ => .refuse .notList

/-- A value that may be absent. -/
def readOptional {α : Type} (read : Value → Checked α) (value : Value) : Checked (Option α) :=
  match value with
  | .null => .valid none
  | value => some <$> read value

/-- The integer that a text denotes, possibly with zeros after a point. -/
def intOfText? (s : String) : Option Int :=
  let cs := Text.trim s.toList
  let whole := cs.takeWhile (· != '.')
  let fraction := (cs.dropWhile (· != '.')).drop 1
  if cs.all (·.toNat < 0x80) && fraction.all (· == '0') then readInt? 10 whole else none

/-- A default value. A truth value, a number and a text are taken as they are; bytes count as what
they can first be read as in this order. -/
def readScalar (value : Value) : Checked Scalar :=
  match value with
  | .null => .valid .null
  | .bool b => .valid (.bool b)
  | .int n => .valid (.int n)
  | .float x => .valid (.float x)
  | .text s => .valid (.text s)
  | .bytes octets =>
    match String.fromUTF8? octets with
    | none =>
      .refused [⟨["bool"], .unclearBool⟩, ⟨["int"], .unclearInt⟩, ⟨["float"], .unclearFloat⟩,
        ⟨["str"], .undecodableText⟩]
    | some s =>
      match boolOfWord? s, intOfText? s, readFloat? s.toList with
      | some b, _, _ => .valid (.bool b)
      | none, some n, _ => .valid (.int n)
      | none, none, some x => .valid (.float x)
      | none, none, none => .valid (.text s)
  | _ =>
    .refused [⟨["bool"], .notBool⟩, ⟨["int"], .notInt⟩, ⟨["float"], .notFloat⟩, ⟨["str"], .notText⟩]

/-- The trigger ports of a component. -/
def readTriggers (value : Value) : Checked Triggers :=
  match readBool value, readList readText value with
  | .valid b, _ => .valid (.all b)
  | _, .valid names => .valid (.named names)
  | .refused first, .refused second =>
    .refused (first.map (Issue.under "bool") ++ second.map (Issue.under "list[str]"))

/-- A pointer. -/
def readPointer : Value → Checked Pointer
  | .text s =>
    match Pointer.ofWord? s with
    | some p => .valid p
    | none => .refuse .notLiteral
  | _ => .refuse .notLiteral

/-- A retention policy. -/
def readRetention : Value → Checked Retention
  | .text s =>
    match Retention.ofWord? s with
    | some p => .valid p
    | none => .refuse .notEnumerator
  | _ => .refuse .notEnumerator

/-- The entries of a mapping. -/
abbrev Entries := List (Value × Value)

/-- The value under a key. -/
def valueAt? (entries : Entries) (key : String) : Option Value :=
  (entries.find? fun entry => entry.1.sameKey (.text key)).map (·.2)

/-- The second spelling of a key, with low lines. -/
def lowLined (key : String) : String :=
  key.map fun c => if c = '-' then '_' else c

/-- The spelling of a key under which a mapping has a value. -/
def spelling (entries : Entries) (key : String) : String :=
  if (valueAt? entries key).isSome then key else lowLined key

/-- A field that must be present. -/
def required {α : Type} (entries : Entries) (key : String) (read : Value → Checked α) : Checked α :=
  match valueAt? entries (spelling entries key) with
  | some value => (read value).under key
  | none => .refused [⟨[key], .missing⟩]

/-- A field with a default. -/
def field {α : Type} (entries : Entries) (key : String) (default : α)
    (read : Value → Checked α) : Checked α :=
  match valueAt? entries (spelling entries key) with
  | some value => (read value).under key
  | none => .valid default

/-- A mapping of fields with the given keys; it has no keys besides them. -/
def readRecord {α : Type} (keys : List String) (fields : Entries → Checked α)
    (value : Value) : Checked α :=
  match value with
  | .dict entries =>
    let known := keys.map (spelling entries)
    let extra := entries.flatMap fun (key, _) =>
      match key with
      | .text s => if s ∈ known then [] else [⟨[s], .extraField⟩]
      | key => [⟨[placeOf key], .keyNotText⟩]
    match fields entries with
    | .valid a => if extra.isEmpty then .valid a else .refused extra
    | .refused issues => .refused (issues ++ extra)
  | _ => .refuse .notRecord

/-- The marshalling rule of an opaque type. -/
def readMarshalling : Value → Checked Marshalling :=
  readRecord ["type", "marshal-as", "includes", "needs-copy"] fun e =>
    Marshalling.mk <$> required e "type" readText <*> required e "marshal-as" readText <*>
      field e "includes" [] (readList readText) <*> field e "needs-copy" true readBool

/-- The typekit of a project. -/
def readTypekit : Value → Checked Typekit :=
  readRecord ["registry", "typelist", "opaques"] fun e =>
    Typekit.mk <$> field e "registry" none (readOptional readText) <*>
      field e "typelist" none (readOptional readText) <*> field e "opaques" []
        (readList readMarshalling)

/-- A property or attribute. -/
def readSetting : Value → Checked Setting :=
  readRecord ["name", "type", "default", "doc"] fun e =>
    Setting.mk <$> required e "name" readText <*> required e "type" readText <*>
      field e "default" .null readScalar <*> field e "doc" none (readOptional readText)

/-- An input port. -/
def readInputPort : Value → Checked InputPort :=
  readRecord ["name", "type", "doc", "pointer", "clear-on-start"] fun e =>
    InputPort.mk <$> required e "name" readText <*> required e "type" readText <*>
      field e "doc" none (readOptional readText) <*> field e "pointer" none
        (readOptional readPointer) <*>
      field e "clear-on-start" true readBool

/-- An output port. -/
def readOutputPort : Value → Checked OutputPort :=
  readRecord ["name", "type", "doc", "pointer", "keep-last-written-value"] fun e =>
    OutputPort.mk <$> required e "name" readText <*> required e "type" readText <*>
      field e "doc" none (readOptional readText) <*> field e "pointer" none
        (readOptional readPointer) <*>
      field e "keep-last-written-value" .onlyIfUnread readRetention

/-- A template for ports. -/
def readDynamicPort : Value → Checked DynamicPort :=
  readRecord ["name", "type", "doc"] fun e =>
    DynamicPort.mk <$> required e "name" readText <*> field e "type" none
      (readOptional readText) <*> field e "doc" none (readOptional readText)

/-- An argument of an operation. -/
def readArgument : Value → Checked Argument :=
  readRecord ["name", "type", "doc"] fun e =>
    Argument.mk <$> required e "name" readText <*> required e "type" readText <*>
      field e "doc" none (readOptional readText)

/-- An operation. -/
def readOperation : Value → Checked Operation :=
  readRecord ["name", "doc", "method-name", "returns", "arguments", "caller-thread", "hidden",
      "body"] fun e =>
    Operation.mk <$> required e "name" readText <*> field e "doc" none (readOptional readText) <*>
      field e "method-name" none (readOptional readText) <*> field e "returns" none
        (readOptional readText) <*>
      field e "arguments" [] (readList readArgument) <*> field e "caller-thread" false readBool <*>
      field e "hidden" false readBool <*> field e "body" none (readOptional readText)

/-- The entries with one more. A key that is present gets the new value. -/
def putStatements (hooks : List (String × List String)) (hook : String) (statements : List String) :
    List (String × List String) :=
  match hooks with
  | [] => [(hook, statements)]
  | (h, old) :: rest =>
    if h = hook then (h, statements) :: rest else (h, old) :: putStatements rest hook statements

/-- Statements by the names of hooks. -/
def readStatements (value : Value) : Checked (List (String × List String)) :=
  match value with
  | .dict entries =>
    let parts := entries.map fun (key, value) =>
      Prod.mk <$> ((readText key).under "[key]").under (placeOf key) <*>
        (readList readText value).under (placeOf key)
    (fun pairs => pairs.foldl
      (fun hooks (hook, statements) => putStatements hooks hook statements) []) <$>
      Checked.all parts
  | _ => .refuse .notDictionary

/-- The statements for the hooks of a component. Each key must name a hook. -/
def readHooks (value : Value) : Checked (List (String × List String)) :=
  (readStatements value).andThen fun hooks =>
    let unknown := NameSet.ofList ((hooks.map (·.1)).filter (· ∉ hookNames))
    if unknown.toList.isEmpty then .valid hooks
    else
      .refuse (.refused ("Value error, unknown hook(s) " ++ Text.joined ", " unknown.toList ++
        ", must be one of " ++ Text.joined ", " hookNames))

/-- The keys of a component, in order. -/
def componentKeys : List String :=
  ["name", "subclasses", "doc", "fixed-initial-state", "needs-configuration", "port-driven",
   "properties", "attributes", "input-ports", "output-ports", "dynamic-input-ports",
   "dynamic-output-ports", "operations", "hooks", "methods", "commands"]

/-- A component. -/
def readComponent : Value → Checked Component :=
  readRecord componentKeys fun e =>
    Component.mk <$> required e "name" readText <*>
      field e "subclasses" none (readOptional readText) <*>
      field e "doc" none (readOptional readText) <*>
      field e "fixed-initial-state" false readBool <*>
      field e "needs-configuration" false readBool <*>
      field e "port-driven" (.all false) readTriggers <*>
      field e "properties" [] (readList readSetting) <*>
      field e "attributes" [] (readList readSetting) <*>
      field e "input-ports" [] (readList readInputPort) <*>
      field e "output-ports" [] (readList readOutputPort) <*>
      field e "dynamic-input-ports" [] (readList readDynamicPort) <*>
      field e "dynamic-output-ports" [] (readList readDynamicPort) <*>
      field e "operations" [] (readList readOperation) <*>
      field e "hooks" [] readHooks <*>
      field e "methods" [] (readList readText) <*>
      field e "commands" [] (readList readText)

/-- A project. -/
def readProject : Value → Checked Project :=
  readRecord ["name", "typekit", "using-typekits", "using-task-libraries", "tasks"] fun e =>
    Project.mk <$> required e "name" readText <*>
      field e "typekit" none (readOptional readTypekit) <*>
      field e "using-typekits" [] (readList readText) <*>
      field e "using-task-libraries" [] (readList readText) <*>
      field e "tasks" [] (readList readComponent)

/-- The project that a value describes. The label names the document in messages. -/
def Project.ofValue (label : String) (value : Value) : Except Fault Project :=
  match value with
  | .dict _ =>
    match readProject value with
    | .valid project => .ok project
    | .refused issues => .error (.projectShape label issues)
  | _ => .error (.projectNotMapping label)

/-- The project that the text of a document describes. -/
def Project.parse (label text : String) : Except Fault Project :=
  match Value.parse text with
  | .ok value => Project.ofValue label value
  | .error .form => .error (.projectSyntax label)
  | .error (.scalar problem) => .error problem.fault

end Componentry.Description
