import Componentry.Xml.Doctype
import Componentry.Xml.Element
import Componentry.Text.Lines

/-!
# XML documents

A document is an optional declaration, an optional document type and one element. `Element.parse?`
gives that element if the document is well-formed and its names agree with the namespaces in force.
-/

namespace Componentry.Xml

open Componentry.Text

/-- The namespaces in force: the prefixes, the empty one included, with what they stand for. -/
abbrev Namespaces := List (String × String)

/-- The namespace that the prefix `xml` always stands for. -/
def xmlSpace : String := "http://www.w3.org/XML/1998/namespace"

/-- The namespace of namespace declarations, which no prefix may stand for. -/
def declarationSpace : String := "http://www.w3.org/2000/xmlns/"

/-- A name in a namespace. -/
def inSpace (space name : String) : String :=
  "\x7b" ++ space ++ "\x7d" ++ name

/-- The namespaces with one more declaration. The last two arguments are the prefix and the
namespace. -/
def Namespaces.declare? (spaces : Namespaces) (name space : String) : Option Namespaces :=
  if name = "xmlns" || space = declarationSpace then none
  else if (name = "xml") != (space = xmlSpace) then none
  else if space.toList.contains '\x7d' then none
  else if name != "" && space = "" then none
  else some ((name, space) :: spaces)

/-- The name of an element. -/
def Namespaces.elementName? (spaces : Namespaces) (q : QName) : Option String :=
  match q.space with
  | some p => (spaces.lookup p).map fun space => inSpace space q.name
  | none =>
    match spaces.lookup "" with
    | some space => some (if space = "" then q.name else inSpace space q.name)
    | none => some q.name

/-- The name of an attribute. -/
def Namespaces.attributeName? (spaces : Namespaces) (q : QName) : Option String :=
  match q.space with
  | some p => (spaces.lookup p).map fun space => inSpace space q.name
  | none => some q.name

/-- An attribute with the name and the value that it stands for. -/
def readAttribute? (doctype : Doctype) (element : List Char)
    (raw : RawAttribute) : Option (QName × String) :=
  match QName.ofChars? raw.name, attributeText? doctype.lenient doctype.entities raw.value with
  | some q, some value =>
    let reduced := doctype.attributes.any fun d =>
      d.element == element && d.name == raw.name && d.reduced
    some (q, String.ofList (if reduced then reduce value else value))
  | _, _ => none

/-- The attributes that an element has by default and that its tag does not give. -/
def defaultAttributes (doctype : Doctype) (element : List Char) (given : List RawAttribute) :
    List (QName × String) :=
  doctype.attributes.filterMap fun d =>
    if d.element == element && !given.any (·.name == d.name) then
      match QName.ofChars? d.name, d.value with
      | some q, some value => some (q, String.ofList value)
      | _, _ => none
    else none

/-- The prefix that an attribute declares. -/
def declaredPrefix? (q : QName) : Option String :=
  if q.space = some "xmlns" then some q.name
  else if q = ⟨none, "xmlns"⟩ then some ""
  else none

/-- An element whose end tag is still to come. -/
structure OpenElement where
  rawName : List Char
  tag : String
  attributes : List (String × String)
  spaces : Namespaces
  /-- The elements inside it so far, the last first. -/
  children : List Element

/-- The element of a start tag, with the namespaces in force outside it. -/
def openElement? (doctype : Doctype) (spaces : Namespaces) (name : List Char)
    (raw : List RawAttribute) :
    Option OpenElement := do
  let q ← QName.ofChars? name
  let given ← raw.mapM (readAttribute? doctype name)
  if !decide (raw.map (·.name)).Nodup then none
  else
    let all := given ++ defaultAttributes doctype name raw
    let spaces ← all.foldlM (fun spaces (q, value) =>
      match declaredPrefix? q with
      | some p => Namespaces.declare? spaces p value
      | none => some spaces) spaces
    let tag ← spaces.elementName? q
    let attributes ← (all.filter fun (q, _) => (declaredPrefix? q).isNone).mapM fun (q, value) =>
      (spaces.attributeName? q).map (·, value)
    if decide (attributes.map (·.1)).Nodup then some ⟨name, tag, attributes, spaces, []⟩ else none

/-- The element that the markup forms. The arguments are the elements still open, the innermost
first, and the outermost element once it is closed. -/
def assemble? (doctype : Doctype) : List OpenElement → Option Element → List Markup → Option Element
  | [], root, [] => root
  | _ :: _, _, [] => none
  | stack, root, .blank :: rest => assemble? doctype stack root rest
  | [], _, .text :: _ => none
  | top :: stack, root, .text :: rest => assemble? doctype (top :: stack) root rest
  | stack, root, .start name raw closed :: rest =>
    if stack.isEmpty && root.isSome then none
    else
      let spaces :=
        match stack with
        | top :: _ => top.spaces
        | [] => [("xml", xmlSpace)]
      match openElement? doctype spaces name raw with
      | none => none
      | some new =>
        if closed then
          let e := .node new.tag new.attributes []
          match stack with
          | [] => assemble? doctype [] (some e) rest
          | top :: below =>
            assemble? doctype ({ top with children := e :: top.children } :: below) root rest
        else assemble? doctype (new :: stack) root rest
  | [], _, .finish _ :: _ => none
  | top :: stack, root, .finish name :: rest =>
    if name = top.rawName then
      let e := .node top.tag top.attributes top.children.reverse
      match stack with
      | [] => assemble? doctype [] (some e) rest
      | next :: below =>
        assemble? doctype ({ next with children := e :: next.children } :: below) root rest
    else none

/-- Whether the attributes of an XML declaration are in order: the version, and then possibly the
encoding and whether the document stands alone. -/
def declarationInOrder (attributes : List RawAttribute) : Bool :=
  let plain (cs : List Char) : Bool :=
    cs.all fun c => c.isAlphanum || c == '.' || c == '-' || c == '_'
  let standalone (value : List Char) : Bool := value = ['y', 'e', 's'] || value = ['n', 'o']
  attributes.all (fun a => plain a.value) &&
    match attributes.map fun a => (String.ofList a.name, a.value) with
    | [("version", _)] => true
    | [("version", _), ("encoding", e)] => (e.head?.map Char.isAlpha).getD false
    | [("version", _), ("standalone", s)] => standalone s
    | [("version", _), ("encoding", e), ("standalone", s)] =>
      (e.head?.map Char.isAlpha).getD false && standalone s
    | _ => false

/-- The text after an XML declaration, if there is one, and whether that says that the document
stands alone. -/
def afterDeclaration? (cs : List Char) : Option (Bool × List Char) :=
  let opening := ['<', '?', 'x', 'm', 'l']
  let rest := cs.drop opening.length
  if opening.isPrefixOf cs && (rest.head?.map isSpace).getD false then
    match cut? ['?', '>'] rest with
    | some (inner, after) =>
      match attributes? inner with
      | some attributes =>
        if declarationInOrder attributes then
          some (attributes.any
            (fun a => a.name == "standalone".toList && a.value == ['y', 'e', 's']), after)
        else none
      | none => none
    | none => none
  else some (false, cs)

/-- The document type, if there is one, and the text from the element on. -/
def afterDoctype? (standalone : Bool) (cs : List Char) : Option (Doctype × List Char) :=
  match cs with
  | '<' :: '!' :: '-' :: '-' :: rest =>
    match _h : cut? ['-', '-'] rest with
    | some (_, '>' :: after) => afterDoctype? standalone after
    | _ => none
  | '<' :: '?' :: rest =>
    match _h : cut? ['?', '>'] rest with
    | some (inner, after) => if isInstruction inner then afterDoctype? standalone after else none
    | none => none
  | '<' :: '!' :: 'D' :: 'O' :: 'C' :: 'T' :: 'Y' :: 'P' :: 'E' :: c :: rest =>
    if isSpace c then Doctype.ofChars? standalone rest else none
  | c :: rest => if isSpace c then afterDoctype? standalone rest else some ({}, c :: rest)
  | [] => some ({}, [])
termination_by cs.length
decreasing_by
  · have shorter := length_of_cut? ‹_›
    simp only [List.length_cons] at shorter ⊢
    omega
  · have shorter := length_of_cut? ‹_›
    simp only [List.length_cons]
    omega
  · exact Nat.lt_succ_self _

/-- The element of a document. A byte order mark in front of the document is passed over. -/
def Element.parse? (text : String) : Option Element := do
  let cs := text.toList
  let cs := if cs.head? = some '\uFEFF' then cs.drop 1 else cs
  if !cs.all isXmlChar then none
  else
    let (standalone, rest) ← afterDeclaration? (unifyNewlines cs)
    let (doctype, rest) ← afterDoctype? standalone rest
    let markup ← markup? doctype.entities rest
    assemble? doctype [] none markup

end Componentry.Xml
