import Componentry.Decimal.Numeral
import Componentry.OpaqueRule
import Componentry.Registry
import Componentry.Text.Lines
import Componentry.Xml.Document

/-!
# Type descriptors

A descriptor is an XML document whose outermost element holds one element for each type. The entries
of opaque types also give their marshalling rules; those are read from entries at any depth.
-/

namespace Componentry.Descriptor

open Componentry.Xml

/-- The outermost element of a descriptor. -/
def root (text : String) : Except Fault Element :=
  match Element.parse? text with
  | some e => .ok e
  | none => .error .descriptorSyntax

/-- The value of an attribute that must be present. -/
def required (e : Element) (key : String) : Except Fault String :=
  match e.attribute? key with
  | some value => .ok value
  | none => .error (.attributeMissing e.tag key)

/-- The integer value of an attribute that may be absent. -/
def integer? (e : Element) (key : String) : Except Fault (Option Int) :=
  match e.attribute? key with
  | none => .ok none
  | some value =>
    match Decimal.readInt? 10 value.toList with
    | some n => .ok (some n)
    | none => .error (.attributeNotInteger e.tag key value)

/-- The canonical type name that an attribute gives. -/
def typeName (e : Element) (key : String) : Except Fault String := do
  return Typename.normalize (← required e key)

/-- The field that an element describes. -/
def field (e : Element) : Except Fault TypeField := do
  let name ← required e "name"
  return ⟨name, ← typeName e "type"⟩

/-- The definition that an entry gives. -/
def typeDef (e : Element) : Except Fault TypeDef :=
  match e.tag with
  | "numeric" => do
    let name ← typeName e "name"
    return { name, kind := .numeric, category := e.attribute? "category",
             size := ← integer? e "size" }
  | "null" => do return { name := ← typeName e "name", kind := .null }
  | "enum" => do
    let name ← typeName e "name"
    return { name, kind := .enumeration,
             values := ← (e.childrenNamed "value").mapM (required · "symbol") }
  | "compound" => do
    let name ← typeName e "name"
    return { name, kind := .compound, fields := ← (e.childrenNamed "field").mapM field }
  | "array" => do
    let name ← typeName e "name"
    let element ← typeName e "of"
    return { name, kind := .array, elementType := some element,
             dimension := ← integer? e "dimension" }
  | "container" => do
    let name ← typeName e "name"
    let element ← typeName e "of"
    return { name, kind := .container, elementType := some element,
             containerKind := e.attribute? "kind" }
  | "opaque" => do return { name := ← typeName e "name", kind := .opaqueType }
  | tag => .error (.unknownEntry tag)

/-- Adds the types that a descriptor defines, and tells which of them were new. -/
def mergeInto (text : String) : Registry.Extension (List String) := do
  let e ← liftExcept (root text)
  let mut added := []
  for entry in e.children do
    let t ← liftExcept (typeDef entry)
    if ← Registry.add t then added := added ++ [t.name]
  return added
where
  /-- A computation that does not touch the registry. -/
  liftExcept {α : Type} (x : Except Fault α) : Registry.Extension α :=
    match x with
    | .ok a => pure a
    | .error fault => throw fault

/-- The marshalling rule that an entry gives. -/
def opaqueRule (e : Element) : Except Fault OpaqueRule :=
  match e.attribute? "name", e.attribute? "marshal_as" with
  | some name, some intermediate =>
    .ok {
      typeName := Typename.normalize name
      intermediateName := Typename.normalize intermediate
      needsCopy := e.attribute? "needs_copy" = some "1"
      headers := (Text.split ':' ((e.attribute? "includes").getD "")).filter (· ≠ "") }
  | _, _ => .error .incompleteOpaque

/-- The marshalling rules of a descriptor. -/
def opaqueRules (text : String) : Except Fault (List OpaqueRule) := do
  let e ← root text
  (e.allNamed "opaque").mapM opaqueRule

end Componentry.Descriptor
