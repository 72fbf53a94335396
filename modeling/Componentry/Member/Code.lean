import Componentry.Contribution

/-!
# The code of members

What each member contributes to the generated classes of the component that it belongs to.
-/

namespace Componentry

/-- The literal of the documentation of a member, empty if there is none. -/
def docLiteral (doc : Option String) : String :=
  Scalar.textLiteral (doc.getD "")

/-- The word for a truth value in generated code. -/
def boolLiteral (b : Bool) : String :=
  if b then "true" else "false"

namespace Port

/-- The name of the data member for the port. -/
def fieldName (p : Port) : String := "_" ++ p.name

/-- The kind of the records for the port. -/
def recordKind (p : Port) : String :=
  p.direction.word ++ "_port_declaration"

/-- The statements that tell an output port what to keep. -/
def retentionSetup (p : Port) : String :=
  let (last, next) := p.retention.flags
  s!"{p.fieldName}.keepLastWrittenValue({boolLiteral last});\n" ++
    s!"{p.fieldName}.keepNextWrittenValue({boolLiteral next});"

/-- The statement that registers the port. -/
def registration (p : Port) : String :=
  let add := if p.isTrigger then "addEventPort" else "addPort"
  let doc := if p.doc.getD "" = "" then "" else s!"\n  .doc({docLiteral p.doc})"
  s!"ports()->{add}({p.fieldName}){doc};"

/-- The records that set up the port. -/
def constructions (p : Port) : List ConstructionRecord :=
  let declared : ConstructionRecord := {
    kind := p.recordKind
    fieldName := p.fieldName
    initializer := .text s!"{p.fieldName}(\"{p.name}\")"
    setUp := .text p.registration }
  if p.isInput then [declared]
  else
    [declared, { kind := "output_port", fieldName := p.fieldName, setUp := .text p.retentionSetup }]

/-- What a port contributes. A dynamic port contributes nothing. -/
def contribution (p : Port) : Except Fault Contribution :=
  if p.isDynamic then .ok .empty
  else
    match p.typeName with
    | none => .error .typeUnnamed
    | some type =>
      .ok {
        declarations :=
          [⟨p.recordKind, p.fieldName, s!"{p.frameworkClass}< {Typename.cxxName type} >", none⟩]
        constructions := p.constructions
        hooks := if p.isInput && p.clearOnStart then [⟨.start, .text s!"{p.fieldName}.clear();"⟩]
          else [] }

end Port

namespace Setting

/-- The name of the data member for the property or attribute. -/
def fieldName (s : Setting) : String := "_" ++ s.name

/-- The statement that sets the default value, if there is one. -/
def defaultSetup (s : Setting) : Except Fault (List String) :=
  match s.default with
  | .null => .ok []
  | value => (fun literal => [s!"{s.fieldName}.set({literal});"]) <$> value.literal

/-- What a property contributes. -/
def propertyContribution (s : Setting) : Except Fault Contribution := do
  let setUp ← s.defaultSetup
  return {
    declarations :=
      [⟨"property", s.fieldName, s!"RTT::Property< {Typename.cxxName s.typeName} >", none⟩]
    constructions := [{
      kind := "property"
      fieldName := s.fieldName
      initializer := .text s!"{s.fieldName}(\"{s.name}\", {docLiteral s.doc})"
      setUp :=
        .text (Text.joined "\n" (setUp ++ [s!"properties()->addProperty( {s.fieldName} );"])) }] }

/-- What an attribute contributes. -/
def attributeContribution (s : Setting) : Except Fault Contribution := do
  let setUp ← s.defaultSetup
  return {
    declarations :=
      [⟨"attribute", s.fieldName, s!"RTT::Attribute< {Typename.cxxName s.typeName} >", none⟩]
    constructions := [{
      kind := "attribute"
      fieldName := s.fieldName
      initializer := .text s!"{s.fieldName}(\"{s.name}\")"
      setUp :=
        .text (Text.joined "\n" (setUp ++ [s!"attributes()->addAttribute( {s.fieldName} );"])) }] }

end Setting

namespace Operation

/-- The name of the data member for the operation. -/
def fieldName (o : Operation) : String := "_" ++ o.name

/-- An argument as it is passed: numbers by value, all else by constant reference. -/
def passed (a : Argument) (isNumeric : Bool) : String :=
  let cxx := Typename.cxxName a.typeName
  if isNumeric then cxx else s!"{cxx} const &"

/-- The list of the arguments with their names. `numeric` tells for each whether it is a number. -/
def argumentSignature (o : Operation) (numeric : List Bool) : String :=
  Text.joined ", " ((o.arguments.zip numeric).map fun (a, n) => s!"{passed a n} {a.name}")

/-- The type of the operation as a function. -/
def signature (o : Operation) (numeric : List Bool) : String :=
  o.cxxReturnType ++ "(" ++ Text.joined ", " ((o.arguments.zip numeric).map
    fun (a, n) => passed a n) ++ ")"

/-- The statement that registers the operation. -/
def registration (o : Operation) : String :=
  let arguments := o.arguments.map fun a => s!"\n    .arg(\"{a.name}\", {docLiteral a.doc})"
  s!"provides()->addOperation( {o.fieldName})\n    .doc({docLiteral o.doc})" ++
    String.join arguments ++ ";"

/-- The body of the method that serves the operation: the one given, or one that returns a fresh
value. -/
def methodBody (o : Operation) : String :=
  match o.body with
  | some body => body
  | none => if o.returnType.isSome then s!"    return {o.cxxReturnType}();" else ""

/-- The method that serves the operation. -/
def method (o : Operation) (numeric : List Bool) : MethodRecord where
  returnType := o.cxxReturnType
  name := o.methodName
  signature := o.argumentSignature numeric
  body := some (.text o.methodBody)
  doc := [s!"Handler for the {o.methodName} operation"]
  inBase := o.hidden

/-- What an operation contributes to the component of a name. A hidden operation must have a
body. -/
def contribution (o : Operation) (owner : Interface)
    (numeric : List Bool) : Except Fault Contribution :=
  if o.hidden && o.body.isNone then .error (.bodyMissing owner.name o.name)
  else
    let thread := if o.runsInCallerThread then "RTT::ClientThread" else "RTT::OwnThread"
    let records : Contribution := {
      declarations :=
        [⟨"operation", o.fieldName, s!"RTT::Operation< {o.signature numeric} >", none⟩]
      constructions := [{
        kind := "operation"
        fieldName := o.fieldName
        initializer :=
          .text
            s!"{o.fieldName}(\"{o.name}\", &{owner.basename}Base::{o.methodName}, this, {thread})"
        setUp := .text o.registration }] }
    .ok (records.withMethods [o.method numeric])

end Operation

end Componentry
