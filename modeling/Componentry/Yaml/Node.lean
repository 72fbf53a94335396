import Componentry.Yaml.Tag
import Componentry.Yaml.Token

/-!
# YAML nodes

The tree of a document. A node that is referred to by its anchor stands in each of its places. An
alias for a collection that is not yet complete refers back to it.
-/

namespace Componentry.Yaml

/-- A node with its type. -/
inductive Node where
  | scalar (tag : Tag) (text : List Char)
  | sequence (tag : Tag) (anchor : Option (List Char)) (items : List Node)
  | mapping (tag : Tag) (anchor : Option (List Char)) (entries : List (Node × Node))
  /-- The collection with this anchor that the node is inside of. -/
  | enclosing (anchor : List Char)

instance : Inhabited Node := ⟨.scalar .null []⟩

/-- The node that stands where nothing is written. -/
def Node.absent : Node := .scalar .null []

namespace Node

/-- The unread tokens of a document, and the anchors met so far. An anchor whose node is not yet
complete has none. -/
structure Reading where
  tokens : List Token
  anchors : List (List Char × Option Node) := []

/-- The fault of a token that cannot stand where it does. -/
def unexpected (r : Reading) : Problem :=
  match r.tokens with
  | .broken problem :: _ => problem
  | _ => .form

/-- The anchor and the tag in front of a node. -/
structure Properties where
  anchor : Option (List Char) := none
  tag : Option (Option (List Char) × List Char) := none

/-- The anchor and the tag in front of a node, in either order, and what follows them. -/
def properties : List Token → Properties × List Token
  | .anchor a :: .tag h s :: rest => (⟨some a, some (h, s)⟩, rest)
  | .tag h s :: .anchor a :: rest => (⟨some a, some (h, s)⟩, rest)
  | .anchor a :: rest => (⟨some a, none⟩, rest)
  | .tag h s :: rest => (⟨none, some (h, s)⟩, rest)
  | tokens => ({}, tokens)

/-- The tag handles that a document declares, with what they stand for. -/
abbrev Handles := List (List Char × List Char)

/-- The full name that a tag stands for. -/
def fullName (handles : Handles) : Option (List Char) × List Char → Except Problem (List Char)
  | (none, suffix) => .ok suffix
  | (some handle, suffix) =>
    match handles.lookup handle with
    | some target => .ok (target ++ suffix)
    | none => .error .form

/-- The type of a collection with the given tag. -/
def collectionTag (name : Option (List Char)) (default : Tag) : Tag :=
  match name with
  | none | some ['!'] => default
  | some name => Tag.ofName name

/-- The type of a scalar. A plain scalar without a tag, and any scalar with the tag that leaves the
type open, has the type of its text. -/
def scalarTag (name : Option (List Char)) (plain : Bool) (text : List Char) : Tag :=
  match name with
  | none => if plain then Tag.ofPlain text else .text
  | some ['!'] => Tag.ofPlain text
  | some name => Tag.ofName name

/-- Enters an anchor, which no other node of the document may have. -/
def Reading.enter (r : Reading) (anchor : Option (List Char))
    (node : Option Node) : Except Problem Reading :=
  match anchor with
  | none => .ok r
  | some a =>
    if (r.anchors.lookup a).isSome then .error .form
    else .ok { r with anchors := (a, node) :: r.anchors }

/-- Gives an anchor its node, now that it is complete. -/
def Reading.complete (r : Reading) (anchor : Option (List Char)) (node : Node) : Reading :=
  match anchor with
  | none => r
  | some a => { r with anchors := (a, some node) :: r.anchors }

/-- Where a node stands: block collections may begin only outside flow collections, and a sequence
without further indentation only as part of a block mapping. -/
inductive Place where
  | flow
  | block
  | blockEntry

/-- Whether the tokens begin with one of those that end an entry of a block collection. -/
def endsBlockEntry : List Token → Bool
  | .blockEntry :: _ | .blockEnd :: _ => true
  | _ => false

/-- Whether the tokens begin with one of those that end a part of a block mapping. -/
def endsBlockPart : List Token → Bool
  | .key :: _ | .value :: _ | .blockEnd :: _ => true
  | _ => false

/-- Whether the tokens begin with one of those that end an entry of a flow collection. -/
def endsFlowEntry : List Token → Bool
  | .flowEntry :: _ | .flowSequenceEnd :: _ | .flowMappingEnd :: _ => true
  | _ => false

/-- The fault of a text in which nothing was read. It cannot arise. -/
def idle {α : Type} : Except Problem α := .error .form

mutual

/-- The node at the front of the tokens. -/
def read (handles : Handles) (place : Place) (r : Reading) : Except Problem (Node × Reading) :=
  match r.tokens with
  | .alias name :: rest =>
    match r.anchors.lookup name with
    | none => .error .form
    | some none => .ok (.enclosing name, { r with tokens := rest })
    | some (some node) => .ok (node, { r with tokens := rest })
  | tokens => do
    let (p, rest) := properties tokens
    let name ←
      match p.tag with
      | none => pure none
      | some tag => some <$> fullName handles tag
    if _h : rest.length ≤ r.tokens.length then
      match rest, place with
      | .blockEntry :: after, .blockEntry => do
        let r ← Reading.enter { r with tokens := after } p.anchor none
        if _h : r.tokens.length < rest.length then
          let (items, r) ← readIndentless handles r
          let node := Node.sequence (collectionTag name .sequence) p.anchor items
          return (node, r.complete p.anchor node)
        else idle
      | .scalar text plain :: after, _ => do
        let node := Node.scalar (scalarTag name plain text) text
        return (node, ← Reading.enter { r with tokens := after } p.anchor (some node))
      | .flowSequenceStart :: after, _ => do
        let r ← Reading.enter { r with tokens := after } p.anchor none
        if _h : r.tokens.length < rest.length then
          let (items, r) ← readFlowSequence handles true r
          let node := Node.sequence (collectionTag name .sequence) p.anchor items
          return (node, r.complete p.anchor node)
        else idle
      | .flowMappingStart :: after, _ => do
        let r ← Reading.enter { r with tokens := after } p.anchor none
        if _h : r.tokens.length < rest.length then
          let (entries, r) ← readFlowMapping handles true r
          let node := Node.mapping (collectionTag name .mapping) p.anchor entries
          return (node, r.complete p.anchor node)
        else idle
      | .blockSequenceStart :: after, .block | .blockSequenceStart :: after, .blockEntry => do
        let r ← Reading.enter { r with tokens := after } p.anchor none
        if _h : r.tokens.length < rest.length then
          let (items, r) ← readBlockSequence handles r
          let node := Node.sequence (collectionTag name .sequence) p.anchor items
          return (node, r.complete p.anchor node)
        else idle
      | .blockMappingStart :: after, .block | .blockMappingStart :: after, .blockEntry => do
        let r ← Reading.enter { r with tokens := after } p.anchor none
        if _h : r.tokens.length < rest.length then
          let (entries, r) ← readBlockMapping handles r
          let node := Node.mapping (collectionTag name .mapping) p.anchor entries
          return (node, r.complete p.anchor node)
        else idle
      | _, _ =>
        if p.anchor.isSome || p.tag.isSome then do
          let node := Node.scalar (scalarTag name true []) []
          return (node, ← Reading.enter { r with tokens := rest } p.anchor (some node))
        else .error (unexpected { r with tokens := rest })
    else idle
termination_by 3 * r.tokens.length + 1

/-- The entries of a block sequence and its end. -/
def readBlockSequence (handles : Handles) (r : Reading) : Except Problem (List Node × Reading) :=
  match ht : r.tokens with
  | .blockEnd :: rest => .ok ([], { r with tokens := rest })
  | .blockEntry :: rest => do
    have : rest.length < r.tokens.length := by simp [ht]
    let (item, after) ←
      if endsBlockEntry rest then pure (Node.absent, { r with tokens := rest })
      else read handles .block { r with tokens := rest }
    if h : after.tokens.length < r.tokens.length then
      let (items, last) ← readBlockSequence handles after
      return (item :: items, last)
    else idle
  | _ => .error (unexpected r)
termination_by 3 * r.tokens.length + 0

/-- The entries of a block sequence without further indentation, after the first dash. -/
def readIndentless (handles : Handles) (r : Reading) : Except Problem (List Node × Reading) := do
  let (item, after) ←
    if endsBlockEntry r.tokens || endsBlockPart r.tokens then pure (Node.absent, r)
    else read handles .block r
  match after.tokens with
  | .blockEntry :: rest =>
    if _h : rest.length < r.tokens.length then
      let (items, last) ← readIndentless handles { after with tokens := rest }
      return (item :: items, last)
    else idle
  | _ => return ([item], after)
termination_by 3 * r.tokens.length + 2

/-- The entries of a block mapping and its end. -/
def readBlockMapping (handles : Handles)
    (r : Reading) : Except Problem (List (Node × Node) × Reading) :=
  match ht : r.tokens with
  | .blockEnd :: rest => .ok ([], { r with tokens := rest })
  | .key :: rest => do
    have : rest.length < r.tokens.length := by simp [ht]
    let (key, after) ←
      if endsBlockPart rest then pure (Node.absent, { r with tokens := rest })
      else read handles .blockEntry { r with tokens := rest }
    if h : after.tokens.length < r.tokens.length then
      let (value, after) ←
        match after.tokens with
        | .value :: rest =>
          if h' : rest.length < after.tokens.length then
            if endsBlockPart rest then pure (Node.absent, { after with tokens := rest })
            else read handles .blockEntry { after with tokens := rest }
          else idle
        | _ => pure (Node.absent, after)
      if h : after.tokens.length < r.tokens.length then
        let (entries, last) ← readBlockMapping handles after
        return ((key, value) :: entries, last)
      else idle
    else idle
  | _ => .error (unexpected r)
termination_by 3 * r.tokens.length + 0

/-- The entries of a flow sequence and its end. -/
def readFlowSequence (handles : Handles) (first : Bool) (r : Reading) :
    Except Problem (List Node × Reading) := do
  match r.tokens with
  | .flowSequenceEnd :: rest => return ([], { r with tokens := rest })
  | tokens =>
    let tokens ←
      if first then pure tokens
      else
        match tokens with
        | .flowEntry :: rest => pure rest
        | _ => throw (unexpected r)
    if h : tokens.length ≤ r.tokens.length then
      match ht : tokens with
      | .flowSequenceEnd :: rest => return ([], { r with tokens := rest })
      | .key :: rest =>
        have : rest.length < r.tokens.length := by simp [ht] at h; omega
        let (entry, after) ← readFlowPair handles { r with tokens := rest }
        if h' : after.tokens.length < r.tokens.length then
          let (items, last) ← readFlowSequence handles false after
          return (.mapping .mapping none [entry] :: items, last)
        else idle
      | _ =>
        let (item, after) ← read handles .flow { r with tokens }
        if h' : after.tokens.length < r.tokens.length then
          let (items, last) ← readFlowSequence handles false after
          return (item :: items, last)
        else idle
    else idle
termination_by 3 * r.tokens.length + 2

/-- The key of a flow mapping and its value, after the sign of the key. -/
def readFlowPair (handles : Handles) (r : Reading) : Except Problem ((Node × Node) × Reading) := do
  let noKey :=
    match r.tokens with
    | .value :: _ => true
    | tokens => endsFlowEntry tokens
  let (key, after) ← if noKey then pure (Node.absent, r) else read handles .flow r
  match after.tokens with
  | .value :: rest =>
    if _h : rest.length < r.tokens.length then
      if endsFlowEntry rest then return ((key, Node.absent), { after with tokens := rest })
      else
        let (value, after) ← read handles .flow { after with tokens := rest }
        return ((key, value), after)
    else idle
  | _ => return ((key, Node.absent), after)
termination_by 3 * r.tokens.length + 2

/-- The entries of a flow mapping and its end. -/
def readFlowMapping (handles : Handles) (first : Bool) (r : Reading) :
    Except Problem (List (Node × Node) × Reading) := do
  match r.tokens with
  | .flowMappingEnd :: rest => return ([], { r with tokens := rest })
  | tokens =>
    let tokens ←
      if first then pure tokens
      else
        match tokens with
        | .flowEntry :: rest => pure rest
        | _ => throw (unexpected r)
    if h : tokens.length ≤ r.tokens.length then
      match ht : tokens with
      | .flowMappingEnd :: rest => return ([], { r with tokens := rest })
      | .key :: rest =>
        have : rest.length < r.tokens.length := by simp [ht] at h; omega
        let (entry, after) ← readFlowPair handles { r with tokens := rest }
        if h' : after.tokens.length < r.tokens.length then
          let (entries, last) ← readFlowMapping handles false after
          return (entry :: entries, last)
        else idle
      | _ =>
        let (key, after) ← read handles .flow { r with tokens }
        if h' : after.tokens.length < r.tokens.length then
          let (entries, last) ← readFlowMapping handles false after
          return ((key, Node.absent) :: entries, last)
        else idle
    else idle
termination_by 3 * r.tokens.length + 2

end

/-- The tag handles that directives declare, and the tokens after the directives. A version must be
one of YAML 1, and be given once, as must each handle. -/
def directives (version : Bool) (handles : Handles) :
    List Token → Except Problem (Handles × List Token)
  | .version major :: rest =>
    if version || major != 1 then .error .form else directives true handles rest
  | .handle h target :: rest =>
    if (handles.lookup h).isSome then .error .form
      else directives version ((h, target) :: handles) rest
  | .otherDirective :: rest => directives version handles rest
  | tokens => .ok (handles, tokens)

/-- The tag handles that need no declaration. -/
def defaultHandles : Handles := [(['!'], ['!']), (['!', '!'], standardNames)]

/-- The tokens after the signs for the end of a document. -/
def passEnds : List Token → List Token
  | .documentEnd :: rest => passEnds rest
  | tokens => tokens

/-- Whether a document begins without a sign. -/
def beginsBare : List Token → Bool
  | .version _ :: _ | .handle _ _ :: _ | .otherDirective :: _ | .documentStart :: _ | [] => false
  | _ => true

/-- The node of the only document of the tokens; none if there is no document. -/
def ofTokens (tokens : List Token) : Except Problem (Option Node) := do
  if beginsBare tokens then
    let (node, r) ← read defaultHandles .block { tokens }
    atEnd r
    return some node
  else
    let tokens := passEnds tokens
    if tokens.isEmpty then return none
    let (handles, tokens) ← directives false [] tokens
    match tokens with
    | .documentStart :: rest =>
      match rest with
      | .version _ :: _ | .handle _ _ :: _ | .otherDirective :: _ | .documentStart :: _
      | .documentEnd :: _ | [] =>
        atEnd { tokens := rest }
        return some .absent
      | _ =>
        let (node, r) ← read (handles ++ defaultHandles) .block { tokens := rest }
        atEnd r
        return some node
    | _ => throw (unexpected { tokens })
where
  /-- Nothing may follow the document. -/
  atEnd (r : Reading) : Except Problem Unit :=
    match passEnds r.tokens with
    | [] => .ok ()
    | tokens => .error (unexpected { tokens })

end Node

end Componentry.Yaml
