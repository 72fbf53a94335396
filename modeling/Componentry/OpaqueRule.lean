import Componentry.Typename

/-!
# Marshalling rules

An opaque type has no known structure. Its marshalling rule names the type through which its values
are passed on.
-/

namespace Componentry

/-- How an opaque type is marshalled. -/
structure OpaqueRule where
  typeName : String
  intermediateName : String
  /-- Whether conversion from the intermediate type needs a copy. -/
  needsCopy : Bool := true
  /-- The headers that define the opaque type. -/
  headers : List String := []
  deriving Repr, DecidableEq

namespace OpaqueRule

/-- The template of shared pointers, which are marshalled as what they point to. -/
def sharedPointer : String := "/boost/shared_ptr"

/-- The template of read-only pointers, which are marshalled as what they point to. -/
def readOnlyPointer : String := "/RTT/extras/ReadOnlyPointer"

/-- The pointer template of which the opaque type is an instance. -/
def pointerTemplate? (rule : OpaqueRule) : Option String :=
  [sharedPointer, readOnlyPointer].find? fun template => rule.typeName.startsWith (template ++ "<")

end OpaqueRule

end Componentry
