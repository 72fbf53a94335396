import Componentry.Xml.Markup

/-!
# XML document types

The declarations inside a document: the entities it may refer to, and the attributes that elements
have by default. Declarations kept in other files are not read; if there may be any, references to
unknown entities are no faults.
-/

namespace Componentry.Xml

/-- The declaration of an attribute of an element. -/
structure AttributeDecl where
  element : List Char
  name : List Char
  /-- Whether white space in values is reduced to single spaces between words. -/
  reduced : Bool
  /-- The value, if the element has the attribute by default. -/
  value : Option (List Char)

/-- The declarations of a document. -/
structure Doctype where
  entities : Entities := []
  attributes : List AttributeDecl := []
  /-- Whether there may be declarations that are not read. -/
  lenient : Bool := false
  /-- Whether the declarations that follow count. -/
  reading : Bool := true

/-- A word of a declaration: text between quotes, or other text without white space. -/
inductive Word where
  | quoted (text : List Char)
  | plain (text : List Char)

/-- Adds a character to the word in front, or starts one. -/
def Word.extend (c : Char) : Bool → List Word → List Word
  | true, .plain text :: rest => .plain (c :: text) :: rest
  | _, words => .plain [c] :: words

/-- The words of a declaration. A parenthesised group is one word. The first argument is the quote
inside which the text stands, with the characters since that quote in reverse order, and the second
the number of parentheses open. -/
def words? (quote : Option (Char × List Char)) (depth : Nat) : List Char → Option (List Word)
  | [] => if quote.isNone && depth == 0 then some [] else none
  | c :: rest =>
    match quote with
    | some (q, text) =>
      if c = q then (words? none depth rest).map (.quoted text.reverse :: ·)
      else words? (some (q, c :: text)) depth rest
    | none =>
      if depth = 0 && (c = '\x22' || c = '\x27') then words? (some (c, [])) depth rest
      else if depth = 0 && isSpace c then words? none depth rest
      else
        let inside := if c = '(' then depth + 1 else if c = ')' then depth - 1 else depth
        let joins := inside != 0 || match rest with
          | [] => false
          | next :: _ => !isSpace next && next != '\x22' && next != '\x27'
        (words? none inside rest).map (Word.extend c joins)

/-- The replacement text of an entity: references to characters are replaced, others are kept. -/
def entityText? (cs : List Char) : Option (List Char) :=
  match cs with
  | [] => some []
  | '%' :: _ => none
  | '&' :: rest =>
    match _h : cut? [';'] rest with
    | none => none
    | some (name, after) =>
      if name.head? = some '#' then
        match builtIn? name with
        | some c => (entityText? after).map (c :: ·)
        | none => none
      else if isLocalName name then (entityText? after).map (['&'] ++ name ++ [';'] ++ ·) else none
  | c :: rest => (entityText? rest).map (c :: ·)
termination_by cs.length
decreasing_by
  · exact Nat.lt_succ_of_le (length_of_cut? ‹_›)
  · exact Nat.lt_succ_of_le (length_of_cut? ‹_›)
  · exact Nat.lt_succ_self _

/-- White space reduced to single spaces between words. -/
def reduce (cs : List Char) : List Char :=
  let words := (cs.splitOn ' ').filter (!·.isEmpty)
  (words.intersperse [' ']).flatten

/-- Whether a word is a type of attribute values. -/
def isAttributeType (cs : List Char) : Bool :=
  cs.head? = some '(' || String.ofList cs ∈
    ["CDATA", "ID", "IDREF", "IDREFS", "ENTITY", "ENTITIES", "NMTOKEN", "NMTOKENS"]

/-- The document type with the attributes that a declaration gives to an element. -/
def Doctype.declareAttributes? (doctype : Doctype)
    (element : List Char) : List Word → Option Doctype
  | [] => some doctype
  | .plain name :: .plain kind :: rest =>
    let reduced := kind != ['C', 'D', 'A', 'T', 'A']
    let declare (value : Option (List Char)) : Doctype :=
      if doctype.reading && !doctype.attributes.any fun d =>
          d.element == element && d.name == name then
        { doctype with attributes := doctype.attributes ++ [⟨element, name, reduced, value⟩] }
      else doctype
    let value? (text : List Char) : Option (List Char) :=
      (attributeText? doctype.lenient doctype.entities text).map fun v =>
        if reduced then reduce v else v
    if (QName.ofChars? name).isNone || !isAttributeType kind then none
    else
    match rest with
    | .plain ['#', 'R', 'E', 'Q', 'U', 'I', 'R', 'E', 'D'] :: rest =>
      (declare none).declareAttributes? element rest
    | .plain ['#', 'I', 'M', 'P', 'L', 'I', 'E', 'D'] :: rest =>
      (declare none).declareAttributes? element rest
    | .plain ['#', 'F', 'I', 'X', 'E', 'D'] :: .quoted text :: rest =>
      match value? text with
      | some v => (declare (some v)).declareAttributes? element rest
      | none => none
    | .quoted text :: rest =>
      match value? text with
      | some v => (declare (some v)).declareAttributes? element rest
      | none => none
    | _ => none
  | _ => none

/-- The document type with one more entity; the first declaration of a name counts. -/
def Doctype.declareEntity (doctype : Doctype) (name : List Char)
    (text : Option (List Char)) : Doctype :=
  let name := String.ofList name
  if doctype.reading && (doctype.entities.find? name).isNone then
    { doctype with entities := doctype.entities ++ [(name, text)] }
  else doctype

/-- Whether the words tell where something is kept outside the document. -/
def isExternal : List Word → Bool
  | [.plain ['S', 'Y', 'S', 'T', 'E', 'M'], .quoted _] => true
  | [.plain ['P', 'U', 'B', 'L', 'I', 'C'], .quoted _, .quoted _] => true
  | _ => false

/-- Whether the words tell what an entity outside the document is. -/
def isExternalEntity (words : List Word) : Bool :=
  isExternal words || match words.reverse with
    | .plain format :: .plain ['N', 'D', 'A', 'T', 'A'] :: rest =>
      isLocalName format && isExternal rest.reverse
    | _ => false

/-- The document type with one more declaration, given by its keyword and its words. -/
def Doctype.declare? (doctype : Doctype) (keyword : String) (words : List Word) : Option Doctype :=
  match keyword, words with
  | "ENTITY", [.plain ['%'], .plain name, .quoted _] =>
    if isLocalName name then some doctype else none
  | "ENTITY", .plain ['%'] :: .plain name :: place =>
    if isLocalName name && isExternal place then some doctype else none
  | "ENTITY", [.plain name, .quoted text] =>
    if isLocalName name then (entityText? text).map fun t =>
      doctype.declareEntity name (some t) else none
  | "ENTITY", .plain name :: place =>
    if isLocalName name && isExternalEntity place then some (doctype.declareEntity name none)
      else none
  | "ATTLIST", .plain element :: rest =>
    if (QName.ofChars? element).isSome then doctype.declareAttributes? element rest else none
  | "ELEMENT", .plain name :: .plain _ :: _ =>
    if (QName.ofChars? name).isSome then some doctype else none
  | "NOTATION", [.plain name, .plain ['P', 'U', 'B', 'L', 'I', 'C'], .quoted _] =>
    if isLocalName name then some doctype else none
  | "NOTATION", .plain name :: place =>
    if isLocalName name && isExternal place then some doctype else none
  | _, _ => none

/-- The document type with the declarations up to the closing bracket, and what follows that. -/
def Doctype.declarations? (doctype : Doctype) (standalone : Bool) (cs : List Char) :
    Option (Doctype × List Char) :=
  match cs with
  | [] => none
  | ']' :: rest => some (doctype, rest)
  | '<' :: '!' :: '-' :: '-' :: rest =>
    match h : cut? ['-', '-'] rest with
    | some (_, '>' :: after) =>
      have := length_of_cut? h
      have : after.length < rest.length := by simp at this; omega
      doctype.declarations? standalone after
    | _ => none
  | '<' :: '?' :: rest =>
    match h : cut? ['?', '>'] rest with
    | some (inner, after) =>
      have := length_of_cut? h
      if isInstruction inner then doctype.declarations? standalone after else none
    | none => none
  | '<' :: '!' :: rest =>
    match h : cutTag? none rest with
    | some (inner, after) =>
      have := length_of_cutTag? h
      let keyword := inner.takeWhile (!isSpace ·)
      match (words? none 0 (inner.drop keyword.length)).bind
        (doctype.declare? (String.ofList keyword)) with
      | some doctype => doctype.declarations? standalone after
      | none => none
    | none => none
  | '%' :: rest =>
    match h : cut? [';'] rest with
    | some (name, after) =>
      have := length_of_cut? h
      if isLocalName name then
        { doctype with lenient := true, reading := doctype.reading && standalone }.declarations?
          standalone after
      else none
    | none => none
  | c :: rest => if isSpace c then doctype.declarations? standalone rest else none
termination_by cs.length

/-- The document type after its keyword, and what follows its closing bracket. -/
def Doctype.ofChars? (standalone : Bool) (cs : List Char) : Option (Doctype × List Char) :=
  let head := cs.takeWhile fun c => c != '[' && c != '>'
  let external? : Option Bool :=
    match words? none 0 head with
    | some [.plain name] => if (QName.ofChars? name).isSome then some false else none
    | some (.plain name :: place) =>
      if (QName.ofChars? name).isSome && isExternal place then some true else none
    | _ => none
  match external? with
  | none => none
  | some external =>
    let doctype : Doctype := { lenient := external && !standalone }
    match cs.drop head.length with
    | '>' :: rest => some (doctype, rest)
    | '[' :: rest =>
      match doctype.declarations? standalone rest with
      | some (doctype, after) =>
        match after.dropWhile isSpace with
        | '>' :: rest => some (doctype, rest)
        | _ => none
      | none => none
    | _ => none

end Componentry.Xml
