import Componentry.Xml.Reference

/-!
# XML markup

The markup of a document in reading order: start tags, end tags, and whether other text stands
between them. Comments and processing instructions leave nothing. The replacement text of an entity
gives the markup inside it, in which every start tag must have its end tag.
-/

namespace Componentry.Xml

/-- A name as it stands in a tag and the value of an attribute. -/
structure RawAttribute where
  name : List Char
  value : List Char

/-- A piece of markup. -/
inductive Markup where
  /-- A start tag; `closed` tells that it is also the end tag. -/
  | start (name : List Char) (attributes : List RawAttribute) (closed : Bool)
  | finish (name : List Char)
  /-- White space. -/
  | blank
  /-- Any other text. -/
  | text

/-- The part of a tag up to the bracket that ends it, and what follows; a bracket inside quotes does
not end the tag. -/
def cutTag? (quote : Option Char) : List Char → Option (List Char × List Char)
  | [] => none
  | c :: rest =>
    if quote.isNone && c = '>' then some ([], rest)
    else
      let quote :=
        match quote with
        | some q => if c = q then none else some q
        | none => if c = '\x22' || c = '\x27' then some c else none
      (cutTag? quote rest).map fun (inner, after) => (c :: inner, after)

/-- A tag that is cut off leaves fewer characters. -/
theorem length_of_cutTag? {quote : Option Char} {cs inner after : List Char}
    (h : cutTag? quote cs = some (inner, after)) : after.length < cs.length := by
  induction cs generalizing quote inner with
  | nil => simp [cutTag?] at h
  | cons c rest ih =>
    unfold cutTag? at h
    split at h
    · obtain ⟨-, rfl⟩ := Prod.mk.inj (Option.some.inj h)
      simp
    · obtain ⟨⟨b, a⟩, hcut, heq⟩ := Option.map_eq_some_iff.1 h
      obtain ⟨-, rfl⟩ := Prod.mk.inj heq
      exact Nat.lt_succ_of_lt (ih hcut)

/-- One attribute at the start of the text, and what follows it. -/
def cutAttribute? (cs : List Char) : Option (RawAttribute × List Char) :=
  let name := cs.takeWhile fun c => !isSpace c && c != '='
  match (cs.drop name.length).dropWhile isSpace with
  | '=' :: rest =>
    match rest.dropWhile isSpace with
    | quote :: rest =>
      if quote = '\x22' || quote = '\x27' then
        let value := rest.takeWhile (· != quote)
        match rest.drop value.length with
        | _ :: after => some (⟨name, value⟩, after)
        | [] => none
      else none
    | [] => none
  | _ => none

/-- Dropping from the front leaves no more characters. -/
theorem length_dropWhile_le (p : Char → Bool) (cs : List Char) :
    (cs.dropWhile p).length ≤ cs.length :=
  (List.dropWhile_sublist p).length_le

/-- An attribute that is cut off leaves fewer characters. -/
theorem length_of_cutAttribute? {cs after : List Char} {a : RawAttribute}
    (h : cutAttribute? cs = some (a, after)) : after.length < cs.length := by
  unfold cutAttribute? at h
  dsimp only at h
  split at h
  · rename_i rest hrest
    have h1 :=
      length_dropWhile_le isSpace (cs.drop (cs.takeWhile fun c => !isSpace c && c != '=').length)
    rw [hrest] at h1
    split at h
    · rename_i quote rest' hrest'
      have h2 := length_dropWhile_le isSpace rest
      rw [hrest'] at h2
      split at h
      · split at h
        · rename_i x after' hafter
          obtain ⟨-, rfl⟩ := Prod.mk.inj (Option.some.inj h)
          have h3 := congrArg List.length hafter
          simp only [List.length_drop, List.length_cons] at h1 h2 h3
          omega
        · simp at h
      · simp at h
    · simp at h
  · simp at h

/-- The attributes that the text holds, each after white space. -/
def attributes? (cs : List Char) : Option (List RawAttribute) :=
  match h : cs.dropWhile isSpace with
  | [] => some []
  | c :: rest =>
    if (cs.dropWhile isSpace).length = cs.length then none
    else
      match ha : cutAttribute? (c :: rest) with
      | none => none
      | some (first, after) =>
        have : after.length < cs.length :=
          Nat.lt_of_lt_of_le (length_of_cutAttribute? ha) (h ▸ length_dropWhile_le isSpace cs)
        (attributes? after).map (first :: ·)
termination_by cs.length

/-- The start tag with the given text between its brackets. -/
def startTag? (inner : List Char) : Option Markup :=
  let closed := inner.getLast? = some '/'
  let inner := if closed then inner.dropLast else inner
  let name := inner.takeWhile (!isSpace ·)
  (attributes? (inner.drop name.length)).map fun attributes => .start name attributes closed

/-- The end tag with the given text between its brackets. -/
def endTag? (inner : List Char) : Option Markup :=
  let name := inner.takeWhile (!isSpace ·)
  if (inner.drop name.length).all isSpace then some (.finish name) else none

/-- Whether the text may be a processing instruction: its target is a name other than `xml`. -/
def isInstruction (cs : List Char) : Bool :=
  let target := cs.takeWhile (!isSpace ·)
  isLocalName target && target.map Char.toLower != ['x', 'm', 'l']

/-- Whether every end tag has its start tag before it and every start tag its end tag after it, with
the given number of elements open. -/
def balanced (depth : Nat) : List Markup → Bool
  | [] => depth == 0
  | .start _ _ closed :: rest => balanced (if closed then depth else depth + 1) rest
  | .finish _ :: rest => depth != 0 && balanced (depth - 1) rest
  | _ :: rest => balanced depth rest

/-- The markup of a text. -/
def markup? (entities : Entities) (cs : List Char) : Option (List Markup) :=
  match cs with
  | [] => some []
  | '<' :: '!' :: '-' :: '-' :: rest =>
    match h : cut? ['-', '-'] rest with
    | some (_, '>' :: after) =>
      have := length_of_cut? h
      have : after.length < rest.length := by simp at this; omega
      markup? entities after
    | _ => none
  | '<' :: '!' :: '[' :: 'C' :: 'D' :: 'A' :: 'T' :: 'A' :: '[' :: rest =>
    match h : cut? [']', ']', '>'] rest with
    | some (_, after) =>
      have := length_of_cut? h
      (markup? entities after).map (.text :: ·)
    | none => none
  | '<' :: '?' :: rest =>
    match h : cut? ['?', '>'] rest with
    | some (inner, after) =>
      have := length_of_cut? h
      if isInstruction inner then markup? entities after else none
    | none => none
  | '<' :: '/' :: rest =>
    match h : cutTag? none rest with
    | some (inner, after) =>
      have := length_of_cutTag? h
      match endTag? inner with
      | some tag => (markup? entities after).map (tag :: ·)
      | none => none
    | none => none
  | '<' :: rest =>
    match h : cutTag? none rest with
    | some (inner, after) =>
      have := length_of_cutTag? h
      match startTag? inner with
      | some tag => (markup? entities after).map (tag :: ·)
      | none => none
    | none => none
  | '&' :: rest =>
    match h : cut? [';'] rest with
    | some (name, after) =>
      have := length_of_cut? h
      match builtIn? name with
      | some _ => (markup? entities after).map (.text :: ·)
      | none =>
        if isLocalName name then
          match he : entities.find? (String.ofList name) with
          | some (_, some text) =>
            have : (entities.without (String.ofList name)).length < entities.length :=
              length_without_lt he
            match markup? (entities.without (String.ofList name)) text with
            | some inner =>
              if balanced 0 inner then (markup? entities after).map (.text :: inner ++ ·) else none
            | none => none
          | _ => none
        else none
    | none => none
  | ']' :: ']' :: '>' :: _ => none
  | c :: rest => (markup? entities rest).map ((if isSpace c then .blank else .text) :: ·)
termination_by (entities.length, cs.length)

end Componentry.Xml
