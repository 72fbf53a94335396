import Mathlib.Data.List.Nodup
import Mathlib.Data.List.TakeWhile
import Componentry.Proofs.DocumentReading

/-!
# Documents as they are written

An element can be written as it is if its names are words and the values of its attributes need no
references. Then a document that holds nothing but the element is read as this element: its tags are
read one after the other, and each opens or closes what it did when it was written. The proofs
follow the elements, and the elements inside them.
-/

namespace Componentry.Xml

/-- Whether a name can be written as it is. -/
def isPlainName (name : String) : Bool :=
  isLocalName name.toList && name.toList.all (fun c => c.isAlphanum || c == '_') && name != "xmlns"

/-- Whether the value of an attribute can be written between double quotes as it is. -/
def isPlainValue (value : String) : Bool :=
  value.toList.all fun c => isXmlChar c && !isSpace c && c != '<' && c != '&' && c != '\x22'

/-- Attributes as they are written in a tag. -/
def attributesText (attributes : List (String × String)) : List Char :=
  attributes.flatMap fun (name, value) =>
    ' ' :: (name.toList ++ '=' :: '\x22' :: (value.toList ++ ['\x22']))

/-- Attributes as they are read in a tag. -/
def rawAttributes (attributes : List (String × String)) : List RawAttribute :=
  attributes.map fun (name, value) => ⟨name.toList, value.toList⟩

namespace Element

/-- The element as it is written. Without elements inside it is a single tag. -/
def written : Element → List Char
  | .node tag attributes [] => '<' :: (tag.toList ++ attributesText attributes ++ ['/', '>'])
  | .node tag attributes (e :: rest) =>
    '<' :: (tag.toList ++ attributesText attributes ++ '>' ::
      (e.written ++ writtenAll rest ++ '<' :: '/' :: (tag.toList ++ ['>'])))
where
  /-- The given elements, one after the other. -/
  writtenAll : List Element → List Char
    | [] => []
    | e :: rest => e.written ++ writtenAll rest

/-- The markup of the element. -/
def markup : Element → List Markup
  | .node tag attributes [] => [.start tag.toList (rawAttributes attributes) true]
  | .node tag attributes (e :: rest) =>
    .start tag.toList (rawAttributes attributes) false ::
      (e.markup ++ markupAll rest ++ [.finish tag.toList])
where
  /-- The markup of the given elements. -/
  markupAll : List Element → List Markup
    | [] => []
    | e :: rest => e.markup ++ markupAll rest

/-- Whether an element and those inside it can be written as they are. -/
def isPlain : Element → Bool
  | .node tag attributes children =>
    isPlainName tag && attributes.all
      (fun (name, value) => isPlainName name && isPlainValue value) &&
      decide (attributes.map (·.1)).Nodup && allPlain children
where
  /-- Whether all given elements can be written as they are. -/
  allPlain : List Element → Bool
    | [] => true
    | e :: rest => e.isPlain && allPlain rest

end Element


section Names

variable {name : String}

/-- The conditions under which a name can be written as it is. -/
theorem isPlainName_iff : isPlainName name = true ↔
    isLocalName name.toList = true ∧ (∀ c ∈ name.toList, c.isAlphanum = true ∨ c = '_') ∧
      name ≠ "xmlns" := by
  simp [isPlainName, and_assoc]

/-- A plain name has none of the characters that delimit names in tags. -/
theorem not_mem_of_isPlainName (h : isPlainName name = true) {c : Char}
    (delimits : c.isAlphanum = false ∧ c ≠ '_') :
    c ∉ name.toList := by
  intro mem
  rcases (isPlainName_iff.1 h).2.1 c mem with word | low
  · rw [delimits.1] at word
    cases word
  · exact delimits.2 low

/-- A plain name has no white space. -/
theorem isSpace_of_isPlainName (h : isPlainName name = true) :
    ∀ c ∈ name.toList, isSpace c = false := by
  intro c mem
  refine Bool.eq_false_iff.2 fun space => ?_
  have blank : c = ' ' ∨ c = '\t' ∨ c = '\n' ∨ c = '\r' := by simpa [isSpace, or_assoc] using space
  rcases blank with rfl | rfl | rfl | rfl <;> exact not_mem_of_isPlainName h (by decide) mem

/-- A plain name is in no namespace. -/
theorem ofChars?_of_isPlainName (h : isPlainName name = true) :
    QName.ofChars? name.toList = some ⟨none, name⟩ := by
  have noColon : ∀ c ∈ name.toList, (c != ':') = true := fun c mem => by
    simpa using fun same : c = ':' => not_mem_of_isPlainName h (by decide) (same ▸ mem)
  have whole : name.toList.takeWhile (· != ':') = name.toList :=
    List.takeWhile_eq_self_iff.2 noColon
  have nothing : name.toList.dropWhile (· != ':') = [] := List.dropWhile_eq_nil_iff.2 noColon
  unfold QName.ofChars?
  dsimp only
  rw [whole, nothing, if_pos (isPlainName_iff.1 h).1, String.ofList_toList]

/-- A plain name begins with a letter or a low line. -/
theorem head_of_isPlainName (h : isPlainName name = true) :
    ∃ c rest, name.toList = c :: rest ∧ (c.isAlphanum = true ∨ c = '_') := by
  cases chars : name.toList with
  | nil =>
    have start := (isPlainName_iff.1 h).1
    rw [chars] at start
    cases start
  | cons c rest => exact ⟨c, rest, rfl, (isPlainName_iff.1 h).2.1 c (by simp [chars])⟩

end Names

section Tags

/-- A tag goes on to the end of text without brackets and quotes. -/
theorem cutTag?_plain {cs : List Char} (plain : ∀ c ∈ cs, c ≠ '>' ∧ c ≠ '\x22' ∧ c ≠ '\x27')
    (rest : List Char) :
    cutTag? none (cs ++ rest) = (cutTag? none rest).map fun (inner, after) =>
      (cs ++ inner, after) := by
  induction cs with
  | nil => simp
  | cons c cs ih =>
    obtain ⟨bracket, double, single⟩ := plain c List.mem_cons_self
    rw [List.cons_append, cutTag?]
    simp [bracket, double, single, ih fun c mem => plain c (List.mem_cons_of_mem _ mem),
      Function.comp_def]

/-- A tag goes on to the end of a quoted value. -/
theorem cutTag?_quoted {cs : List Char} (plain : ∀ c ∈ cs, c ≠ '\x22') (rest : List Char) :
    cutTag? (some '\x22') (cs ++ '\x22' :: rest) =
      (cutTag? none rest).map fun (inner, after) => (cs ++ '\x22' :: inner, after) := by
  induction cs with
  | nil => simp [cutTag?]
  | cons c cs ih =>
    rw [List.cons_append, cutTag?]
    simp [plain c List.mem_cons_self, ih fun c mem => plain c (List.mem_cons_of_mem _ mem),
      Function.comp_def]

/-- The conditions under which an attribute can be written as it is. -/
theorem isPlainValue_iff {value : String} : isPlainValue value = true ↔ ∀ c ∈ value.toList,
    isXmlChar c = true ∧ isSpace c = false ∧ c ≠ '<' ∧ c ≠ '&' ∧ c ≠ '\x22' := by
  simp [isPlainValue, and_assoc]

variable {attributes : List (String × String)}

/-- Whether attributes can be written as they are. -/
def ArePlain (attributes : List (String × String)) : Prop :=
  ∀ a ∈ attributes, isPlainName a.1 = true ∧ isPlainValue a.2 = true

/-- The first attribute is written after a space, and then the others. -/
theorem attributesText_cons (name value : String) (attributes : List (String × String)) :
    attributesText ((name, value) :: attributes) =
      ' ' :: (name.toList ++ '=' :: '\x22' ::
        (value.toList ++ '\x22' :: attributesText attributes)) := by
  simp [attributesText]

/-- A tag goes on to the end of its attributes. -/
theorem cutTag?_attributesText (plain : ArePlain attributes) (rest : List Char) :
    cutTag? none (attributesText attributes ++ rest) =
      (cutTag? none rest).map fun (inner, after) =>
      (attributesText attributes ++ inner, after) := by
  induction attributes with
  | nil => simp [attributesText]
  | cons a attributes ih =>
    obtain ⟨name, value⟩ := a
    obtain ⟨isName, isValue⟩ : isPlainName name = true ∧ isPlainValue value = true :=
      plain _ List.mem_cons_self
    have front : ∀ c ∈ ' ' :: (name.toList ++ ['=']), c ≠ '>' ∧ c ≠ '\x22' ∧ c ≠ '\x27' := by
      intro c mem
      simp only [List.mem_cons, List.mem_append, List.not_mem_nil, or_false] at mem
      rcases mem with rfl | mem | rfl
      · decide
      · refine ⟨?_, ?_, ?_⟩ <;> rintro rfl <;> exact not_mem_of_isPlainName isName (by decide) mem
      · decide
    have split :
        attributesText ((name, value) :: attributes) ++ rest = (' ' :: (name.toList ++ ['='])) ++
        '\x22' :: (value.toList ++ '\x22' :: (attributesText attributes ++ rest)) := by
          simp [attributesText_cons]
    have quoted := cutTag?_quoted (fun c mem => (isPlainValue_iff.1 isValue c mem).2.2.2.2)
      (attributesText attributes ++ rest)
    rw [split, cutTag?_plain front, cutTag?]
    simp [quoted, ih fun a mem => plain a (List.mem_cons_of_mem _ mem), attributesText_cons,
      Function.comp_def]

/-- An attribute that is written is read, and then what follows it. -/
theorem cutAttribute?_written {name value : String} (isName : isPlainName name = true)
    (isValue : isPlainValue value = true) (after : List Char) :
    cutAttribute? (name.toList ++ '=' :: '\x22' :: (value.toList ++ '\x22' :: after)) =
      some (⟨name.toList, value.toList⟩, after) := by
  have inName : ∀ c ∈ name.toList, (!isSpace c && c != '=') = true := by
    intro c mem
    have other : c ≠ '=' := fun same => not_mem_of_isPlainName isName (by decide) (same ▸ mem)
    simp [isSpace_of_isPlainName isName c mem, other]
  have inValue : ∀ c ∈ value.toList, (c != '\x22') = true := fun c mem => by
    simpa using (isPlainValue_iff.1 isValue c mem).2.2.2.2
  unfold cutAttribute?
  rw [List.takeWhile_append_of_pos inName]
  simp [isSpace, List.takeWhile_append_of_pos inValue]

/-- Attributes that are written are read one after the other. -/
theorem attributes?_attributesText (plain : ArePlain attributes) :
    attributes? (attributesText attributes) = some (rawAttributes attributes) := by
  induction attributes with
  | nil => exact attributes?_nil
  | cons a attributes ih =>
    obtain ⟨name, value⟩ := a
    obtain ⟨isName, isValue⟩ : isPlainName name = true ∧ isPlainValue value = true :=
      plain _ List.mem_cons_self
    obtain ⟨c, rest, chars, -⟩ := head_of_isPlainName isName
    have solid : isSpace c = false := isSpace_of_isPlainName isName c (by simp [chars])
    have cut := cutAttribute?_written isName isValue (attributesText attributes)
    rw [attributesText_cons, attributes?_cons ⟨name.toList, value.toList⟩
      (attributesText attributes) rfl ?_, ih fun a mem => plain a (List.mem_cons_of_mem _ mem)]
    · rfl
    · rw [List.dropWhile_cons_of_pos rfl, chars, List.cons_append,
        List.dropWhile_cons_of_neg (by simp [solid]), ← List.cons_append, ← chars]
      exact cut

variable {tag : String}

/-- No delimiter of tags is in a plain name. -/
theorem undelimited_of_isPlainName (isName : isPlainName tag = true) :
    ∀ c ∈ tag.toList, c ≠ '>' ∧ c ≠ '\x22' ∧ c ≠ '\x27' := by
  intro c mem
  refine ⟨?_, ?_, ?_⟩ <;> rintro rfl <;> exact not_mem_of_isPlainName isName (by decide) mem

/-- A tag goes on to the end of its name and its attributes. -/
theorem cutTag?_tagText (isName : isPlainName tag = true) (plain : ArePlain attributes)
    (rest : List Char) :
    cutTag? none (tag.toList ++ attributesText attributes ++ rest) =
      (cutTag? none rest).map fun (inner, after) =>
      (tag.toList ++ attributesText attributes ++ inner, after) := by
  rw [List.append_assoc, cutTag?_plain (undelimited_of_isPlainName isName),
    cutTag?_attributesText plain]
  simp [Function.comp_def]

/-- The name and the attributes of a tag do not end as an empty element does. -/
theorem getLast?_tagText (isName : isPlainName tag = true) (attributes : List (String × String)) :
    (tag.toList ++ attributesText attributes).getLast? ≠ some '/' := by
  intro slash
  rcases attributes.eq_nil_or_concat with rfl | ⟨front, ⟨name, value⟩, rfl⟩
  · rw [attributesText, List.flatMap_nil, List.append_nil] at slash
    exact not_mem_of_isPlainName isName (by decide) (List.mem_of_getLast? slash)
  · have text : tag.toList ++ attributesText (front ++ [(name, value)]) =
        tag.toList ++ attributesText front ++ ' ' ::
          (name.toList ++ '=' :: '\x22' :: value.toList) ++ ['\x22'] := by
      simp [attributesText]
    rw [List.concat_eq_append, text, List.getLast?_concat] at slash
    cases slash

/-- What is written between the brackets of a tag is its name and its attributes. -/
theorem startTag?_tagText (isName : isPlainName tag = true) (plain : ArePlain attributes)
    (closed : Bool) :
    startTag? (tag.toList ++ attributesText attributes ++ if closed then ['/'] else []) =
      some (.start tag.toList (rawAttributes attributes) closed) := by
  have isName' : (tag.toList ++ attributesText attributes).takeWhile (!isSpace ·) = tag.toList := by
    rw [List.takeWhile_append_of_pos fun c mem => by simp [isSpace_of_isPlainName isName c mem]]
    cases attributes with
    | nil => simp [attributesText]
    | cons a attributes =>
      obtain ⟨name, value⟩ := a
      simp [attributesText_cons, isSpace]
  have last := getLast?_tagText isName attributes
  rw [startTag?_eq tag.toList (attributesText attributes) closed ?_ ?_ isName',
    attributes?_attributesText plain]
  · rfl
  · cases closed with
    | true => simp
    | false =>
      rw [if_neg Bool.false_ne_true, List.append_nil]
      exact decide_eq_false last
  · cases closed with
    | true => simp
    | false => rw [if_neg Bool.false_ne_true, List.append_nil, if_neg last]

/-- A tag that is written is read, and then what follows it. -/
theorem markup?_tagText (entities : Entities) (isName : isPlainName tag = true)
    (plain : ArePlain attributes) (closed : Bool) (after : List Char) :
    markup? entities ('<' ::
      (tag.toList ++ attributesText attributes ++ (if closed then ['/'] else []) ++ '>' :: after)) =
      (markup? entities after).map (.start tag.toList (rawAttributes attributes) closed :: ·) := by
  obtain ⟨c, rest, chars, word⟩ := head_of_isPlainName isName
  refine markup?_startTag ?_ ?_ (startTag?_tagText isName plain closed) after
  · have other (d : Char) (delimits : d.isAlphanum = false ∧ d ≠ '_') : c ≠ d := by
      rintro rfl
      exact not_mem_of_isPlainName isName delimits (by simp [chars])
    simp [chars, other '!' (by decide), other '?' (by decide), other '/' (by decide)]
  · rw [List.append_assoc, cutTag?_tagText isName plain]
    cases closed <;> rfl

/-- An end tag that is written is read, and then what follows it. -/
theorem markup?_endText (entities : Entities) (isName : isPlainName tag = true)
    (after : List Char) :
    markup? entities ('<' :: '/' :: (tag.toList ++ '>' :: after)) =
      (markup? entities after).map (.finish tag.toList :: ·) := by
  have whole : tag.toList.takeWhile (!isSpace ·) = tag.toList :=
    List.takeWhile_eq_self_iff.2 fun c mem => by simp [isSpace_of_isPlainName isName c mem]
  refine markup?_endTag _ ?_ ?_ after
  · rw [cutTag?_plain (undelimited_of_isPlainName isName)]
    simp [cutTag?]
  · simp [endTag?, whole]

end Tags

namespace Element

/-- What it takes that an element can be written as it is. -/
theorem isPlain_node {tag : String} {attributes : List (String × String)} {children : List Element}
    (h : (node tag attributes children).isPlain = true) :
    isPlainName tag = true ∧ ArePlain attributes ∧ (attributes.map (·.1)).Nodup ∧
      isPlain.allPlain children = true := by
  simpa [isPlain, ArePlain, and_assoc] using h

mutual

/-- An element that is written is read tag by tag, and then what follows it. -/
theorem markup?_written (entities : Entities) : ∀ (e : Element), e.isPlain = true → ∀ after,
    markup? entities (e.written ++ after) = (Xml.markup? entities after).map (e.markup ++ ·)
  | .node tag attributes [], plain, after => by
    obtain ⟨isName, plain, -⟩ := isPlain_node plain
    have tagged := markup?_tagText entities isName plain true after
    simpa [written, markup] using tagged
  | .node tag attributes (e :: rest), plain, after => by
    obtain ⟨isName, plain, -, inside⟩ := isPlain_node plain
    have tagged := markup?_tagText entities isName plain false
      (written.writtenAll (e :: rest) ++ '<' :: '/' :: (tag.toList ++ '>' :: after))
    rw [markup?_writtenAll entities (e :: rest) inside, markup?_endText entities isName] at tagged
    simpa [written, written.writtenAll, markup, markup.markupAll, Function.comp_def] using tagged

/-- Elements that are written are read one after the other. -/
theorem markup?_writtenAll (entities : Entities) :
    ∀ (es : List Element), isPlain.allPlain es = true → ∀ after,
    markup? entities (written.writtenAll es ++ after) =
      (Xml.markup? entities after).map (markup.markupAll es ++ ·)
  | [], _, after => by simp [written.writtenAll, markup.markupAll]
  | e :: rest, plain, after => by
    obtain ⟨first, others⟩ : e.isPlain = true ∧ isPlain.allPlain rest = true := by
      simpa [isPlain.allPlain] using plain
    rw [written.writtenAll, List.append_assoc, markup?_written entities e first,
      markup?_writtenAll entities rest others]
    simp [markup.markupAll, Function.comp_def]

end

end Element

section Opening

variable {tag : String} {attributes : List (String × String)}

/-- Attributes under names that are in no namespace. -/
def unqualified (attributes : List (String × String)) : List (QName × String) :=
  attributes.map fun a => (⟨none, a.1⟩, a.2)

/-- Attributes that are written are read with their names and values. -/
theorem mapM_readAttribute? {element : List Char} (plain : ArePlain attributes) :
    (rawAttributes attributes).mapM (readAttribute? {} element) =
      some (unqualified attributes) := by
  induction attributes with
  | nil => rfl
  | cons a attributes ih =>
    obtain ⟨name, value⟩ := a
    obtain ⟨isName, isValue⟩ : isPlainName name = true ∧ isPlainValue value = true :=
      plain _ List.mem_cons_self
    have asWritten : value.toList.all (fun c => c != '<' && c != '&' && !isSpace c) = true := by
      refine List.all_eq_true.2 fun c mem => ?_
      obtain ⟨-, space, bracket, ampersand, -⟩ := isPlainValue_iff.1 isValue c mem
      simp [space, bracket, ampersand]
    have first := readAttribute?_plain element (a := ⟨name.toList, value.toList⟩) asWritten
      (ofChars?_of_isPlainName isName)
    have others := ih fun a mem => plain a (List.mem_cons_of_mem _ mem)
    rw [rawAttributes] at others
    simp [rawAttributes, unqualified, first, others]

/-- An attribute with a plain name declares no namespace. -/
theorem declaredPrefix?_of_isPlainName {name : String} (isName : isPlainName name = true) :
    declaredPrefix? ⟨none, name⟩ = none := by
  simp [declaredPrefix?, (isPlainName_iff.1 isName).2.2]

/-- Attributes with plain names leave the namespaces as they are. -/
theorem foldlM_declare?_unqualified (plain : ArePlain attributes) (spaces : Namespaces) :
    (unqualified attributes).foldlM (fun spaces (q, value) =>
      match declaredPrefix? q with
      | some p => Namespaces.declare? spaces p value
      | none => some spaces) spaces = some spaces := by
  induction attributes with
  | nil => rfl
  | cons a attributes ih =>
    have undeclared := declaredPrefix?_of_isPlainName (plain a List.mem_cons_self).1
    have others := ih fun a mem => plain a (List.mem_cons_of_mem _ mem)
    rw [unqualified] at others
    simp [unqualified, undeclared, others]

/-- None of the attributes with plain names is a declaration. -/
theorem filter_unqualified (plain : ArePlain attributes) :
    (unqualified attributes).filter (fun (q, _) => (declaredPrefix? q).isNone) =
      unqualified attributes := by
  refine List.filter_eq_self.2 fun a mem => ?_
  obtain ⟨b, given, rfl⟩ := List.mem_map.1 mem
  simp [declaredPrefix?_of_isPlainName (plain b given).1]

/-- Attributes in no namespace keep their names. -/
theorem mapM_attributeName?_unqualified (spaces : Namespaces) :
    (unqualified attributes).mapM (fun (q, value) => (spaces.attributeName? q).map (·, value)) =
      some attributes := by
  induction attributes with
  | nil => rfl
  | cons a attributes ih =>
    rw [unqualified, List.map_cons, ← unqualified, List.mapM_cons, ih]
    rfl

/-- The start tag of an element that can be written as it is opens it. -/
theorem openElement?_of_isPlain (isName : isPlainName tag = true) (plain : ArePlain attributes)
    (distinct : (attributes.map (·.1)).Nodup) {spaces : Namespaces}
    (unnamed : spaces.lookup "" = none) :
    openElement? {} spaces tag.toList (rawAttributes attributes) =
      some ⟨tag.toList, tag, attributes, spaces, []⟩ := by
  have names :
      (rawAttributes attributes).map (·.name) = (attributes.map (·.1)).map String.toList := by
    simp [rawAttributes, Function.comp_def]
  have distinct' : ((rawAttributes attributes).map (·.name)).Nodup := by
    rw [names]
    exact List.Nodup.map (fun _ _ same => String.toList_inj.1 same) distinct
  have noDefaults (element : List Char) :
    defaultAttributes {} element (rawAttributes attributes) = [] := rfl
  have tagged : spaces.elementName? ⟨none, tag⟩ = some tag := by
    simp [Namespaces.elementName?, unnamed]
  unfold openElement?
  simp only [ofChars?_of_isPlainName isName, mapM_readAttribute? plain, distinct', noDefaults,
    List.append_nil, filter_unqualified plain, mapM_attributeName?_unqualified, distinct,
    Option.bind_eq_bind, Option.bind_some, decide_true, Bool.not_true, Bool.false_eq_true, if_false,
    if_true]
  exact (congrArg (Option.bind · _) (foldlM_declare?_unqualified plain spaces)).trans
    (congrArg (Option.bind · _) tagged)

end Opening

namespace Element

mutual

/-- An element that is read tag by tag is put inside the element that was opened last. -/
theorem assemble?_markup :
    ∀ (e : Element), e.isPlain = true → ∀ (top : OpenElement) (stack : List OpenElement) rest,
    top.spaces.lookup "" = none →
    assemble? {} (top :: stack) none (e.markup ++ rest) =
      assemble? {} ({ top with children := e :: top.children } :: stack) none rest
  | .node tag attributes [], plain, top, stack, rest, unnamed => by
    obtain ⟨isName, plain, distinct, -⟩ := isPlain_node plain
    exact assemble?_closed (openElement?_of_isPlain isName plain distinct unnamed)
  | .node tag attributes (e :: es), plain, top, stack, rest, unnamed => by
    obtain ⟨isName, plain, distinct, inside⟩ := isPlain_node plain
    have opens := openElement?_of_isPlain isName plain distinct unnamed
    have tags : (node tag attributes (e :: es)).markup ++ rest =
        .start tag.toList (rawAttributes attributes) false ::
          (markup.markupAll (e :: es) ++ .finish tag.toList :: rest) := by
      simp [markup, markup.markupAll]
    rw [tags, assemble?_open opens,
      assemble?_markupAll (e :: es) inside
        ⟨tag.toList, tag, attributes, top.spaces, []⟩ _ _ unnamed]
    refine (assemble?_finish ⟨tag.toList, tag, attributes, top.spaces,
      (e :: es).reverse ++ []⟩).trans ?_
    rw [List.append_nil, List.reverse_reverse]

/-- Elements that are read one after the other are put inside the element that was opened last. -/
theorem assemble?_markupAll :
    ∀ (es : List Element), isPlain.allPlain es = true → ∀ (top : OpenElement)
    (stack : List OpenElement) rest, top.spaces.lookup "" = none →
    assemble? {} (top :: stack) none (markup.markupAll es ++ rest) =
      assemble? {} ({ top with children := es.reverse ++ top.children } :: stack) none rest
  | [], _, top, stack, rest, _ => rfl
  | e :: es, plain, top, stack, rest, unnamed => by
    obtain ⟨first, others⟩ : e.isPlain = true ∧ isPlain.allPlain es = true := by
      simpa [isPlain.allPlain] using plain
    rw [markup.markupAll, List.append_assoc, assemble?_markup e first top stack _ unnamed,
      assemble?_markupAll es others { top with children := e :: top.children } _ _ unnamed]
    simp

end

/-- The markup of an element forms a document with this element. -/
theorem assemble?_root {e : Element} (plain : e.isPlain = true) :
    assemble? {} [] none e.markup = some e := by
  obtain ⟨tag, attributes, children⟩ := e
  obtain ⟨isName, attributes', distinct, inside⟩ := isPlain_node plain
  have unnamed : List.lookup "" [("xml", xmlSpace)] = none := by decide
  have opens := openElement?_of_isPlain isName attributes' distinct unnamed
  cases children with
  | nil =>
    rw [markup, assemble?.eq_def]
    simp [opens, assemble?]
  | cons e es =>
    have tags : (node tag attributes (e :: es)).markup =
        .start tag.toList (rawAttributes attributes) false ::
          (markup.markupAll (e :: es) ++ [.finish tag.toList]) := by
      simp [markup, markup.markupAll]
    rw [tags, assemble?_first opens,
      assemble?_markupAll (e :: es) inside ⟨tag.toList, tag, attributes, _, []⟩ _ _ unnamed]
    refine (assemble?_last ⟨tag.toList, tag, attributes, _, (e :: es).reverse ++ []⟩).trans ?_
    rw [List.append_nil, List.reverse_reverse]

/-- Whether a character may stand in a document that is read as it is written. -/
def IsKept (c : Char) : Prop :=
  isXmlChar c = true ∧ c ≠ '\r'

/-- The characters of plain names may stand in a document. -/
theorem isKept_of_isPlainName {name : String} (isName : isPlainName name = true) :
    ∀ c ∈ name.toList, IsKept c := by
  intro c mem
  rcases (isPlainName_iff.1 isName).2.1 c mem with word | rfl
  · have bounds : 0x20 ≤ c.toNat ∧ c.toNat < 0xFFFE := by
      -- The letters and digits are three ranges of code points.
      change ((decide ('A'.val ≤ c.val ∧ c.val ≤ 'Z'.val) ||
        decide ('a'.val ≤ c.val) && decide (c.val ≤ 'z'.val)) ||
        decide ('0'.val ≤ c.val) && decide (c.val ≤ '9'.val)) = true at word
      simp only [Bool.or_eq_true, decide_eq_true_eq, Bool.and_eq_true, UInt32.le_iff_toNat_le,
        Char.toNat_val, Char.reduceToNat] at word
      omega
    refine ⟨?_, ?_⟩
    · simp [isXmlChar, bounds.1, Nat.ne_of_lt bounds.2, Nat.ne_of_lt (Nat.lt_succ_of_lt bounds.2)]
    · rintro rfl
      cases word
  · exact ⟨rfl, by decide⟩

/-- The characters of attributes may stand in a document. -/
theorem isKept_attributesText {attributes : List (String × String)} (plain : ArePlain attributes) :
    ∀ c ∈ attributesText attributes, IsKept c := by
  intro c mem
  obtain ⟨⟨name, value⟩, given, mem⟩ := List.mem_flatMap.1 mem
  simp only [List.mem_cons, List.mem_append, List.not_mem_nil, or_false] at mem
  rcases mem with rfl | mem | rfl | rfl | mem | rfl
  · exact ⟨rfl, by decide⟩
  · exact isKept_of_isPlainName (plain _ given).1 c mem
  · exact ⟨rfl, by decide⟩
  · exact ⟨rfl, by decide⟩
  · obtain ⟨isChar, space, -⟩ := isPlainValue_iff.1 (plain _ given).2 c mem
    refine ⟨isChar, ?_⟩
    rintro rfl
    cases space
  · exact ⟨rfl, by decide⟩

mutual

/-- The characters of an element that is written may stand in a document. -/
theorem isKept_written : ∀ (e : Element), e.isPlain = true → ∀ c ∈ e.written, IsKept c
  | .node tag attributes [], plain, c, mem => by
    obtain ⟨isName, plain, -⟩ := isPlain_node plain
    simp only [written, List.mem_cons, List.mem_append, List.not_mem_nil, or_false] at mem
    rcases mem with rfl | (mem | mem) | rfl | rfl
    · exact ⟨rfl, by decide⟩
    · exact isKept_of_isPlainName isName c mem
    · exact isKept_attributesText plain c mem
    · exact ⟨rfl, by decide⟩
    · exact ⟨rfl, by decide⟩
  | .node tag attributes (e :: es), plain, c, mem => by
    obtain ⟨isName, plain, -, inside⟩ := isPlain_node plain
    have inside := isKept_writtenAll (e :: es) inside c
    simp only [written.writtenAll, List.mem_append] at inside
    simp only [written, List.mem_cons, List.mem_append, List.not_mem_nil, or_false] at mem
    rcases mem with rfl | (mem | mem) | rfl | mem | rfl | rfl | mem | rfl
    · exact ⟨rfl, by decide⟩
    · exact isKept_of_isPlainName isName c mem
    · exact isKept_attributesText plain c mem
    · exact ⟨rfl, by decide⟩
    · exact inside mem
    · exact ⟨rfl, by decide⟩
    · exact ⟨rfl, by decide⟩
    · exact isKept_of_isPlainName isName c mem
    · exact ⟨rfl, by decide⟩

/-- The characters of elements that are written may stand in a document. -/
theorem isKept_writtenAll :
    ∀ (es : List Element), isPlain.allPlain es = true → ∀ c ∈ written.writtenAll es, IsKept c
  | [], _, c, mem => by cases mem
  | e :: es, plain, c, mem => by
    obtain ⟨first, others⟩ : e.isPlain = true ∧ isPlain.allPlain es = true := by
      simpa [isPlain.allPlain] using plain
    rcases List.mem_append.1 mem with mem | mem
    · exact isKept_written e first c mem
    · exact isKept_writtenAll es others c mem

end

/-- A document begins with a bracket and then a name. -/
theorem begins_written {e : Element} (plain : e.isPlain = true) :
    ∃ c rest, e.written = '<' :: c :: rest ∧ ∀ d : Char, (d.isAlphanum = false ∧ d ≠ '_') →
      c ≠ d := by
  obtain ⟨tag, attributes, children⟩ := e
  obtain ⟨isName, -⟩ := isPlain_node plain
  obtain ⟨c, rest, chars, word⟩ := head_of_isPlainName isName
  have other (d : Char) (delimits : d.isAlphanum = false ∧ d ≠ '_') : c ≠ d := by
    rintro rfl
    exact not_mem_of_isPlainName isName delimits (by simp [chars])
  cases children with
  | nil => exact ⟨c, _, by rw [written, chars]; rfl, other⟩
  | cons e es => exact ⟨c, _, by rw [written, chars]; rfl, other⟩

/-- An element that is written is read back. -/
theorem parse?_written {e : Element} (plain : e.isPlain = true) :
    parse? (String.ofList e.written) = some e := by
  have kept := isKept_written e plain
  have chars : (String.ofList e.written).toList = e.written := String.toList_ofList
  obtain ⟨c, rest, begins, other⟩ := begins_written plain
  have markup : Xml.markup? [] e.written = some e.markup := by
    have read := markup?_written [] e plain []
    rwa [List.append_nil, Xml.markup?, Option.map_some, List.append_nil] at read
  have unified : Text.unifyNewlines e.written = e.written :=
    Text.unifyNewlines_eq_self_iff.2 fun mem => (kept _ mem).2 rfl
  refine (parse?_of_element ?_ ?_ ?_ ?_ (chars.symm ▸ markup)).trans (assemble?_root plain) <;>
    rw [chars]
  · exact List.all_eq_true.2 fun c mem => (kept c mem).1
  · rw [begins]
    exact fun mark => absurd (Option.some.inj mark) (by decide)
  · have undeclared : ['<', '?', 'x', 'm', 'l'].isPrefixOf ('<' :: c :: rest) = false := by
      simp [List.isPrefixOf, (other '?' (by decide)).symm]
    rw [unified, begins, afterDeclaration?]
    simp only [undeclared]
    rfl
  · rw [begins, afterDoctype?.eq_def]
    have question := other '?' (by decide)
    have exclamation := other '!' (by decide)
    have solid : isSpace '<' = false := by decide
    split <;> grind

/-- An element that is written has no line ends to unify. -/
theorem unified_written {e : Element} (plain : e.isPlain = true) :
    Text.unified (String.ofList e.written) = String.ofList e.written := by
  rw [Text.unified_eq_self_iff, String.toList_ofList]
  exact fun mem => (isKept_written e plain _ mem).2 rfl

end Element

end Componentry.Xml

namespace Componentry.Descriptor

/-- The outermost element of a descriptor that is written is read back. -/
theorem root_written {e : Xml.Element} (plain : e.isPlain = true) :
    root (String.ofList e.written) = .ok e := by
  rw [root, Xml.Element.parse?_written plain]

end Componentry.Descriptor
