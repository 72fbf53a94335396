/-!
# XML elements

An element with its attributes and the elements inside it. Text between the elements is not kept,
since the descriptors that are read here have none. A name in a namespace is written with the
namespace between braces in front.
-/

namespace Componentry.Xml

/-- An element, its attributes in document order, and its child elements. -/
inductive Element where
  | node (tag : String) (attributes : List (String × String)) (children : List Element)

namespace Element

/-- The name of the element. -/
def tag : Element → String
  | .node tag _ _ => tag

/-- The attributes of the element. -/
def attributes : Element → List (String × String)
  | .node _ attributes _ => attributes

/-- The elements directly inside the element. -/
def children : Element → List Element
  | .node _ _ children => children

/-- The value of an attribute. -/
def attribute? (e : Element) (name : String) : Option String :=
  e.attributes.lookup name

/-- The children with the given name. -/
def childrenNamed (e : Element) (name : String) : List Element :=
  e.children.filter (·.tag = name)

/-- The element and all elements inside it, each before those inside it. -/
def descendants : Element → List Element
  | .node tag attributes children => .node tag attributes children :: descendantsOf children
where
  /-- The given elements and all elements inside them. -/
  descendantsOf : List Element → List Element
    | [] => []
    | e :: rest => e.descendants ++ descendantsOf rest

/-- The element itself, if it has the name, and all elements of that name inside it. -/
def allNamed (e : Element) (name : String) : List Element :=
  e.descendants.filter (·.tag = name)

end Element

end Componentry.Xml
