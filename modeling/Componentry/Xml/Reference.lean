import Componentry.Xml.Name

/-!
# References in XML

A reference stands for a character, given by its number or by one of five names, or for the
replacement text of an entity that the document declares. An entity must not refer to itself,
directly or through others: while one is replaced, it is taken off the list of entities.
-/

namespace Componentry.Xml

/-- Whether a document may hold the character. -/
def isXmlChar (c : Char) : Bool :=
  let n := c.toNat
  n == 0x09 || n == 0x0A || n == 0x0D || (0x20 ≤ n && n != 0xFFFE && n != 0xFFFF)

/-- Whether a character is white space in a document. -/
def isSpace (c : Char) : Bool :=
  c == ' ' || c == '\t' || c == '\n' || c == '\r'

/-- The text before the first occurrence of a mark, and the text after it. -/
def cut? (mark : List Char) : List Char → Option (List Char × List Char)
  | [] => none
  | c :: rest =>
    if mark.isPrefixOf (c :: rest) then some ([], (c :: rest).drop mark.length)
    else (cut? mark rest).map fun (before, after) => (c :: before, after)

/-- A mark that is cut out leaves no more characters. -/
theorem length_of_cut? {mark cs before after : List Char}
    (h : cut? mark cs = some (before, after)) :
    after.length ≤ cs.length := by
  induction cs generalizing before with
  | nil => simp [cut?] at h
  | cons c rest ih =>
    unfold cut? at h
    split at h
    · obtain ⟨-, rfl⟩ := Prod.mk.inj (Option.some.inj h)
      simp
    · obtain ⟨⟨b, a⟩, hcut, heq⟩ := Option.map_eq_some_iff.1 h
      obtain ⟨-, rfl⟩ := Prod.mk.inj heq
      exact Nat.le_succ_of_le (ih hcut)

/-- The value of a digit in bases up to sixteen. -/
def asciiDigit? (base : Nat) (c : Char) : Option Nat :=
  let n := c.toNat
  let value? :=
    if 0x30 ≤ n && n ≤ 0x39 then some (n - 0x30)
    else if 0x61 ≤ n && n ≤ 0x66 then some (n - 0x57)
    else if 0x41 ≤ n && n ≤ 0x46 then some (n - 0x37)
    else none
  value?.filter (· < base)

/-- The number with the given digits. -/
def number? (base : Nat) (cs : List Char) : Option Nat :=
  if cs.isEmpty then none
  else cs.foldlM (fun n c => (asciiDigit? base c).map (n * base + ·)) 0

/-- The character with a number, if a document may hold it. -/
def charNumbered? (n : Nat) : Option Char :=
  if n < 0xD800 || (0xDFFF < n && n < 0x110000) then
    let c := Char.ofNat n
    if isXmlChar c then some c else none
  else none

/-- The character that a reference stands for without any declaration. -/
def builtIn? (name : List Char) : Option Char :=
  match name with
  | '#' :: 'x' :: digits => (number? 16 digits).bind charNumbered?
  | '#' :: digits => (number? 10 digits).bind charNumbered?
  | ['l', 't'] => some '<'
  | ['g', 't'] => some '>'
  | ['a', 'm', 'p'] => some '&'
  | ['q', 'u', 'o', 't'] => some '\x22'
  | ['a', 'p', 'o', 's'] => some '\x27'
  | _ => none

/-- The declared entities with their replacement texts; an entity kept elsewhere has none. -/
abbrev Entities := List (String × Option (List Char))

/-- The declaration of an entity. -/
def Entities.find? (entities : Entities) (name : String) : Option (String × Option (List Char)) :=
  List.find? (·.1 == name) entities

/-- The entities other than the given one. -/
def Entities.without (entities : Entities) (name : String) : Entities :=
  entities.filter (·.1 != name)

/-- An entity that is taken out leaves fewer of them. -/
theorem length_without_lt {entities : Entities} {name : String}
    {entry : String × Option (List Char)} (h : entities.find? name = some entry) :
    (entities.without name).length < entities.length := by
  refine List.length_filter_lt_length_iff_exists.2 ⟨entry, List.mem_of_find?_eq_some h, ?_⟩
  have := List.find?_some h
  simp_all

/-- The value of an attribute: references are replaced, and each white space character that is
written as such becomes a space. With `lenient` set, a reference to an undeclared entity stands for
nothing, because its declaration may be in a part of the document type that is not read. -/
def attributeText? (lenient : Bool) (entities : Entities) (cs : List Char) : Option (List Char) :=
  match cs with
  | [] => some []
  | '<' :: _ => none
  | '&' :: rest =>
    match h : cut? [';'] rest with
    | none => none
    | some (name, after) =>
      have : after.length ≤ rest.length := length_of_cut? h
      match builtIn? name with
      | some c => (attributeText? lenient entities after).map (c :: ·)
      | none =>
        if isLocalName name then
          match he : entities.find? (String.ofList name) with
          | none => if lenient then attributeText? lenient entities after else none
          | some (_, none) => none
          | some (_, some text) =>
            have : (entities.without (String.ofList name)).length < entities.length :=
              length_without_lt he
            match attributeText? lenient (entities.without (String.ofList name)) text with
            | none => none
            | some value => (attributeText? lenient entities after).map (value ++ ·)
        else none
  | c :: rest => (attributeText? lenient entities rest).map ((if isSpace c then ' ' else c) :: ·)
termination_by (entities.length, cs.length)

end Componentry.Xml
