/-!
# Issues of a project description

A description that does not have the required shape is reported by a list of issues, each with the
place where it was found.
-/

namespace Componentry

/-- What is wrong with a part of a description. -/
inductive IssueKind where
  /-- A required field is absent. -/
  | missing
  /-- A mapping has a key that is no field. -/
  | extraField
  /-- A mapping has a key that is no text. -/
  | keyNotText
  | notText
  /-- A text is given by bytes that are not UTF-8. -/
  | undecodableText
  | notList
  | notDictionary
  /-- A mapping of fields is required. -/
  | notRecord
  | notBool
  /-- A text or number that stands for neither truth value. -/
  | unclearBool
  | notInt
  | unclearInt
  /-- A number with a fractional part where an integer is required. -/
  | fractionalInt
  /-- An infinity, or no number, where a finite number is required. -/
  | infiniteInt
  | notFloat
  | unclearFloat
  /-- A text that is none of the permitted ones. -/
  | notLiteral
  /-- A text that names no retention policy. -/
  | notEnumerator
  /-- A value that a further rule refuses, with the words of that rule. -/
  | refused (reason : String)
  deriving Repr, DecidableEq

/-- The code by which reports tell the kinds of issues apart. -/
def IssueKind.code : IssueKind → String
  | .missing => "missing"
  | .extraField => "extra_forbidden"
  | .keyNotText => "invalid_key"
  | .notText => "string_type"
  | .undecodableText => "string_unicode"
  | .notList => "list_type"
  | .notDictionary => "dict_type"
  | .notRecord => "model_type"
  | .notBool => "bool_type"
  | .unclearBool => "bool_parsing"
  | .notInt => "int_type"
  | .unclearInt => "int_parsing"
  | .fractionalInt => "int_from_float"
  | .infiniteInt => "finite_number"
  | .notFloat => "float_type"
  | .unclearFloat => "float_parsing"
  | .notLiteral => "literal_error"
  | .notEnumerator => "enum"
  | .refused _ => "value_error"

/-- An issue and its place: the keys and positions that lead to the faulty part. -/
structure Issue where
  place : List String
  kind : IssueKind
  deriving Repr, DecidableEq

/-- The issue seen from one level further out. -/
def Issue.under (part : String) (issue : Issue) : Issue :=
  { issue with place := part :: issue.place }

end Componentry
