import Componentry.NameSet
import Componentry.Text.Case
import Componentry.Typename

/-!
# Operations

A service that a component offers. It is served by a method, which the user class implements, or the
generated base class if the operation is hidden.
-/

namespace Componentry

/-- An argument of an operation. -/
structure Argument where
  name : String
  typeName : String
  doc : Option String := none
  deriving Repr, DecidableEq

/-- An operation of a component. -/
structure Operation where
  name : String
  doc : Option String := none
  arguments : List Argument := []
  /-- The type of the result; none if there is no result. -/
  returnType : Option String := none
  runsInCallerThread : Bool := false
  body : Option String := none
  hidden : Bool := false
  /-- The name of the method that serves the operation. -/
  methodName : String
  deriving Repr, DecidableEq

namespace Operation

/-- A name with its first letter in lower case. -/
def uncapitalized (name : String) : String :=
  match name.toList with
  | [] => ""
  | c :: rest => Text.lower c.toString ++ String.ofList rest

/-- The name of the method that serves an operation: the one asked for, or the name of the operation
with its first letter in lower case. -/
def methodNameFor (name : String) (asked : Option String) : String :=
  match asked with
  | some methodName => if methodName = "" then uncapitalized name else methodName
  | none => uncapitalized name

/-- An operation without arguments and result. -/
def new (name : String) (doc methodName : Option String) : Operation :=
  { name, doc, methodName := methodNameFor name methodName }

/-- The operation with one more argument. -/
def withArgument (o : Operation) (a : Argument) : Operation :=
  { o with arguments := o.arguments ++ [a] }

/-- The types that the operation exposes. -/
def usedTypes (o : Operation) : NameSet :=
  .ofList (o.arguments.map (·.typeName) ++ o.returnType.toList)

/-- The type of the result in generated code. -/
def cxxReturnType (o : Operation) : String :=
  match o.returnType with
  | some type => if type = "" then "void" else Typename.cxxName type
  | none => "void"

end Operation

end Componentry
