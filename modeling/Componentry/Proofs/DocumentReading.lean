import Componentry.Descriptor
import Componentry.Proofs.LineEnds

/-!
# Reading documents tag by tag

A start tag is its name and its attributes, and each attribute that holds neither references nor
white space is what is written between its quotes. The markup of a text is the tag that the text
begins with and the markup of what follows it. The tags of a document open and close its elements
one after the other.
-/

namespace Componentry.Xml

/-- A tag is read from its bracket to the end of it, and what follows is read on its own. -/
theorem markup?_tag {entities : Entities} {rest inner after : List Char} {tag : Markup}
    (opens : rest.head?.all fun c => c != '!' && c != '?' && c != '/')
    (cut : cutTag? none rest = some (inner, after)) (start : startTag? inner = some tag) :
    markup? entities ('<' :: rest) = (markup? entities after).map (tag :: ·) := by
  rw [markup?.eq_def]
  split <;> grind

/-- No text holds no attributes. -/
theorem attributes?_nil : attributes? [] = some [] := by
  rw [attributes?.eq_def]
  rfl

/-- The first attribute is read, and then the others. -/
theorem attributes?_cons {cs : List Char} (first : RawAttribute) (after : List Char)
    (blank : (cs.head?.map isSpace).getD false = true)
    (cut : cutAttribute? (cs.dropWhile isSpace) = some (first, after)) :
    attributes? cs = (attributes? after).map (first :: ·) := by
  cases cs with
  | nil => cases blank
  | cons c cs =>
    have space : isSpace c = true := blank
    have shorter : ((c :: cs).dropWhile isSpace).length ≠ (c :: cs).length := by
      rw [List.dropWhile_cons_of_pos space]
      have := length_dropWhile_le isSpace cs
      simp only [List.length_cons]
      omega
    rw [attributes?.eq_def]
    split
    · rename_i none
      rw [none] at cut
      cases cut
    · rename_i d rest found
      rw [if_neg shorter]
      split
      · rename_i failed
        rw [← found, cut] at failed
        cases failed
      · rename_i first' after' read
        rw [← found, cut] at read
        cases read
        rfl

/-- A start tag is its name and its attributes. -/
theorem startTag?_eq {inner : List Char} (name rest : List Char) (closed : Bool)
    (isClosed : decide (inner.getLast? = some '/') = closed)
    (whole : (if inner.getLast? = some '/' then inner.dropLast else inner) = name ++ rest)
    (isName : (name ++ rest).takeWhile (!isSpace ·) = name) :
    startTag? inner = (attributes? rest).map (.start name · closed) := by
  unfold startTag?
  dsimp only
  rw [isClosed, whole, isName, List.drop_left]

/-- What follows a tag does not matter for where the tag ends. -/
theorem cutTag?_append {quote : Option Char} {inner : List Char}
    (cut : cutTag? quote (inner ++ ['>']) = some (inner, [])) (after : List Char) :
    cutTag? quote (inner ++ '>' :: after) = some (inner, after) := by
  induction inner generalizing quote with
  | nil =>
    cases quote with
    | none => rfl
    | some q => simp [cutTag?] at cut
  | cons c inner ih =>
    rw [List.cons_append] at cut ⊢
    unfold cutTag? at cut ⊢
    split at cut
    · cases cut
    · rename_i inside
      obtain ⟨⟨inner', after'⟩, cut, same⟩ := Option.map_eq_some_iff.1 cut
      cases same
      rw [if_neg inside]
      exact congrArg (Option.map _) (ih cut)

/-- A start tag is read, and then what follows it. -/
theorem markup?_startTag {entities : Entities} {inner : List Char} {tag : Markup}
    (opens : inner.head?.any (fun c => c != '!' && c != '?' && c != '/') = true)
    (cut : cutTag? none (inner ++ ['>']) = some (inner, [])) (start : startTag? inner = some tag)
    (after : List Char) :
    markup? entities ('<' :: (inner ++ '>' :: after)) =
      (markup? entities after).map (tag :: ·) := by
  refine markup?_tag ?_ (cutTag?_append cut after) start
  cases inner with
  | nil => cases opens
  | cons c inner => exact opens

/-- An end tag is read, and then what follows it. -/
theorem markup?_endTag {entities : Entities} {inner : List Char} (tag : Markup)
    (cut : cutTag? none (inner ++ ['>']) = some (inner, [])) (finish : endTag? inner = some tag)
    (after : List Char) :
    markup? entities ('<' :: '/' :: (inner ++ '>' :: after)) =
      (markup? entities after).map (tag :: ·) := by
  have cut := cutTag?_append cut after
  rw [markup?.eq_def]
  split <;> grind

/-- Without references, brackets and white space, the value of an attribute is as it is written. -/
theorem attributeText?_plain {lenient : Bool} {entities : Entities} {cs : List Char}
    (plain : cs.all (fun c => c != '<' && c != '&' && !isSpace c) = true) :
    attributeText? lenient entities cs = some cs := by
  induction cs with
  | nil => rw [attributeText?]
  | cons c cs ih =>
    simp only [List.all_cons, Bool.and_eq_true, bne_iff_ne, ne_eq, Bool.not_eq_true'] at plain
    obtain ⟨⟨⟨bracket, ampersand⟩, space⟩, rest⟩ := plain
    rw [attributeText?, ih (by simpa using rest), if_neg (by simp [space])]
    · rfl
    · exact bracket
    · exact fun h => ampersand h

/-- An attribute without references is read as it is written. -/
theorem readAttribute?_plain (element : List Char) {a : RawAttribute} {q : QName}
    (plain : a.value.all (fun c => c != '<' && c != '&' && !isSpace c) = true)
    (name : QName.ofChars? a.name = some q) :
    readAttribute? {} element a = some (q, String.ofList a.value) := by
  rw [readAttribute?, name, attributeText?_plain plain]
  rfl

section Elements

variable {doctype : Doctype} {rest : List Markup} {name : List Char} {raw : List RawAttribute}
  {new top next : OpenElement} {stack : List OpenElement}

/-- The first start tag opens the outermost element. -/
theorem assemble?_first (opens : openElement? doctype [("xml", xmlSpace)] name raw = some new) :
    assemble? doctype [] none (.start name raw false :: rest) =
      assemble? doctype [new] none rest := by
  rw [assemble?.eq_def]
  simp [opens]

/-- A start tag opens an element inside the one that was opened last. -/
theorem assemble?_open (opens : openElement? doctype top.spaces name raw = some new) :
    assemble? doctype (top :: stack) none (.start name raw false :: rest) =
      assemble? doctype (new :: top :: stack) none rest := by
  rw [assemble?.eq_def]
  simp [opens]

/-- An element whose start tag is its end tag too is put inside the element that was opened last. -/
theorem assemble?_closed (opens : openElement? doctype top.spaces name raw = some new) :
    assemble? doctype (top :: stack) none (.start name raw true :: rest) =
      assemble? doctype ({ top with children := .node new.tag new.attributes [] :: top.children } ::
        stack) none rest := by
  rw [assemble?.eq_def]
  simp [opens]

/-- An end tag puts the element that was opened last inside the one before it. -/
theorem assemble?_finish (top : OpenElement) :
    assemble? doctype (top :: next :: stack) none (.finish top.rawName :: rest) =
      assemble? doctype
        ({ next with
          children := .node top.tag top.attributes top.children.reverse :: next.children } :: stack)
        none rest := by
  rw [assemble?.eq_def]
  simp

/-- The document is the outermost element. -/
theorem assemble?_last (top : OpenElement) :
    assemble? doctype [top] none [.finish top.rawName] =
      some (.node top.tag top.attributes top.children.reverse) := by
  rw [assemble?.eq_def]
  simp only [if_true]
  rfl

end Elements

/-- A document that begins with its element is that element. -/
theorem parse?_of_element {text : String} {markup : List Markup}
    (plain : text.toList.all isXmlChar = true) (unmarked : text.toList.head? ≠ some '\uFEFF')
    (declaration : afterDeclaration? (Text.unifyNewlines text.toList) = some (false, text.toList))
    (doctype : afterDoctype? false text.toList = some ({}, text.toList))
    (read : markup? [] text.toList = some markup) :
    Element.parse? text = assemble? {} [] none markup := by
  unfold Element.parse?
  dsimp only
  rw [if_neg unmarked, plain, declaration]
  exact (congrArg (Option.bind · _) doctype).trans (congrArg (Option.bind · _) read)

end Componentry.Xml
