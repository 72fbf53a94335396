import Componentry.Description.Reader
import Componentry.Description.Writer

/-!
# Fields of descriptions

A mapping that is written has, of the parts of a record, those that do not have their default, each
under its own key. A reader that asks for the keys of these parts finds exactly what was written
under them, whatever other parts were left out, and no other keys. This does not depend on what the
parts are, so that each record needs its list of parts only.
-/

namespace Componentry

/-- Whether a tree has distinct keys in its mappings, and finite numbers only. -/
inductive Yaml.Tree.Plain : Yaml.Tree → Prop where
  | text (value : String) : Plain (.text value)
  | bool (value : Bool) : Plain (.bool value)
  | int (value : Int) : Plain (.int value)
  | float (value : Float) (isNumber : value.isNaN = false) (isFinite : value.isInf = false) :
    Plain (.float value)
  | list (items : List Yaml.Tree) (plain : ∀ item ∈ items, Plain item) : Plain (.list items)
  | dict (entries : List (String × Yaml.Tree)) (distinct : (entries.map (·.1)).Nodup)
      (plain : ∀ entry ∈ entries, Plain entry.2) : Plain (.dict entries)

namespace Description

open Componentry.Yaml (Tree Value)

namespace Checked

variable {α β : Type}

/-- A function is applied to what is valid. -/
@[simp] theorem map_valid (f : α → β) (a : α) : f <$> (.valid a : Checked α) = .valid (f a) := rfl

/-- A function that is valid is applied to what is valid. -/
@[simp] theorem seq_valid (f : α → β) (a : α) :
    (.valid f : Checked (α → β)) <*> .valid a = .valid (f a) := rfl

/-- What is valid is so under every part of a path. -/
@[simp] theorem under_valid (part : String) (a : α) : (Checked.valid a).under part = .valid a := rfl

/-- Two parts are read exactly if both of them are. -/
theorem seq_eq_valid {f : Checked (α → β)} {x : Checked α} {b : β} :
    f <*> x = .valid b ↔ ∃ g a, f = .valid g ∧ x = .valid a ∧ g a = b := by
  constructor
  · intro h
    cases f with
    | refused => cases x <;> cases h
    | valid g =>
      cases x with
      | refused => cases h
      | valid a => exact ⟨g, a, rfl, rfl, Checked.valid.inj h⟩
  · rintro ⟨g, a, rfl, rfl, rfl⟩
    rfl

/-- What is valid after a function was applied comes from what was valid before. -/
theorem map_eq_valid {f : α → β} {x : Checked α} {b : β} :
    f <$> x = .valid b ↔ ∃ a, x = .valid a ∧ f a = b := by
  cases x with
  | refused => exact ⟨nofun, nofun⟩
  | valid a => simp

/-- What is valid under a part of a path is valid. -/
theorem under_eq_valid {part : String} {x : Checked α} {a : α} (h : x.under part = .valid a) :
    x = .valid a := by
  cases x with
  | refused => cases h
  | valid b => exact h

/-- Items that are all valid are valid together. -/
theorem all_valid (items : List α) : Checked.all (items.map .valid) = .valid items := by
  induction items with
  | nil => rfl
  | cons a items ih =>
    rw [List.map_cons, Checked.all, ih]
    rfl

/-- The parts of a list that is read are read. -/
theorem mem_of_all_eq_valid {xs : List (Checked α)} {items : List α}
    (h : Checked.all xs = .valid items) :
    ∀ a ∈ items, .valid a ∈ xs := by
  induction xs generalizing items with
  | nil =>
    cases h
    exact fun _ none => absurd none List.not_mem_nil
  | cons x xs ih =>
    obtain ⟨f, rest, hf, hrest, rfl⟩ := seq_eq_valid.1 h
    obtain ⟨a, rfl, rfl⟩ := map_eq_valid.1 hf
    intro b mem
    rcases List.mem_cons.1 mem with rfl | mem
    · exact List.mem_cons_self
    · exact List.mem_cons_of_mem _ (ih hrest b mem)

end Checked

/-- The values of the items of a list that is written. -/
theorem values_eq_map (items : List Tree) : Tree.values items = items.map Tree.value := by
  induction items with
  | nil => rfl
  | cons item items ih => rw [Tree.values, ih, List.map_cons]

/-- The entries of a mapping that is written. -/
theorem valueEntries_eq_map (fields : Fields) :
    Tree.valueEntries fields = fields.map fun field => (.text field.1, field.2.value) := by
  induction fields with
  | nil => rfl
  | cons field fields ih => rw [Tree.valueEntries, ih, List.map_cons]

/-- A list is read if its items are. -/
theorem readList_map {α : Type} {read : Value → Checked α} {value : α → Value} {items : List α}
    (reads : ∀ a ∈ items, read (value a) = .valid a) :
    readList read (.list (items.map value)) = .valid items := by
  have outcomes (n : Nat) :
      ((items.map value).zipIdx n).map (fun entry => (read entry.1).under (toString entry.2)) =
        items.map .valid := by
    induction items generalizing n with
    | nil => rfl
    | cons a items ih =>
      rw [List.map_cons, List.zipIdx_cons, List.map_cons,
        ih fun b mem => reads b (List.mem_cons_of_mem _ mem)]
      change (read (value a)).under _ :: _ = _
      rw [reads a List.mem_cons_self]
      rfl
  have all : readList read (.list (items.map value)) =
      Checked.all (((items.map value).zipIdx).map
        fun entry => (read entry.1).under (toString entry.2)) := rfl
  rw [all, outcomes, Checked.all_valid]

/-- The items of a list that is read are read. -/
theorem exists_of_readList {α : Type} {read : Value → Checked α} {value : Value} {items : List α}
    (h : readList read value = .valid items) : ∀ a ∈ items, ∃ v, read v = .valid a := by
  unfold readList at h
  split at h
  · intro a mem
    obtain ⟨⟨v, i⟩, -, hv⟩ := List.mem_map.1 (Checked.mem_of_all_eq_valid h a mem)
    exact ⟨v, Checked.under_eq_valid hv⟩
  · intro a mem
    obtain ⟨⟨v, i⟩, -, hv⟩ := List.mem_map.1 (Checked.mem_of_all_eq_valid h a mem)
    exact ⟨v, Checked.under_eq_valid hv⟩
  · cases h

/-- A part of a record: its key, and what is written for it if it does not have its default. -/
abbrev Part := String × Option Tree

/-- The parts that are written. -/
def fieldsOf (parts : List Part) : Fields :=
  parts.flatMap fun part => (part.2.map (part.1, ·)).toList

/-- A text. -/
def textPart (key value : String) : Part :=
  (key, some (.text value))

/-- A text that may be absent. -/
def optionalPart (key : String) (value : Option String) : Part :=
  (key, value.map .text)

/-- A truth value with a default. -/
def boolPart (key : String) (default value : Bool) : Part :=
  (key, if value = default then none else some (.bool value))

/-- A list that may be empty. -/
def listPart {α : Type} (key : String) (item : α → Tree) (items : List α) : Part :=
  (key, if items.isEmpty then none else some (.list (items.map item)))

section Writing

variable {parts : List Part} {key : String}

/-- The first part is written before the others, if it has a value. -/
theorem fieldsOf_cons (part : Part) (parts : List Part) :
    fieldsOf (part :: parts) = (part.2.map (part.1, ·)).toList ++ fieldsOf parts := rfl

/-- A text is written as its part. -/
theorem textField_eq (key value : String) :
    textField key value = fieldsOf [textPart key value] := rfl

/-- A text that may be missing is written as its part. -/
theorem optionalField_eq (key : String) (value : Option String) :
    optionalField key value = fieldsOf [optionalPart key value] := by
  cases value <;> rfl

/-- A truth value is written as its part. -/
theorem boolField_eq (key : String) (default value : Bool) :
    boolField key default value = fieldsOf [boolPart key default value] := by
  by_cases h : value = default <;> simp [boolField, boolPart, fieldsOf, h]

/-- A list is written as its part. -/
theorem listField_eq {α : Type} (key : String) (item : α → Tree) (items : List α) :
    listField key item items = fieldsOf [listPart key item items] := by
  cases items <;> rfl

/-- Parts that follow others are written after them. -/
theorem fieldsOf_append (parts more : List Part) :
    fieldsOf parts ++ fieldsOf more = fieldsOf (parts ++ more) :=
  List.flatMap_append.symm

/-- A field is written exactly if a part has its value. -/
theorem mem_fieldsOf {field : String × Tree} :
    field ∈ fieldsOf parts ↔ (field.1, some field.2) ∈ parts := by
  simp only [fieldsOf, List.mem_flatMap, Option.mem_toList, Option.map_eq_some_iff]
  constructor
  · rintro ⟨⟨key, tree?⟩, mem, tree, rfl, rfl⟩
    exact mem
  · exact fun mem => ⟨_, mem, field.2, rfl, rfl⟩

/-- The keys that are written are among those of the parts, in their order. -/
theorem keys_fieldsOf (parts : List Part) :
    ((fieldsOf parts).map (·.1)).Sublist (parts.map (·.1)) := by
  induction parts with
  | nil => exact .slnil
  | cons part parts ih =>
    obtain ⟨key, _ | tree⟩ := part
    · exact ih.cons _
    · exact ih.cons_cons _

/-- Whether what is written for a part is plain. -/
def Part.Plain (part : Part) : Prop :=
  ∀ tree, part.2 = some tree → tree.Plain

/-- A text is written as a plain tree. -/
theorem plain_textPart {key value : String} : (textPart key value).Plain := by
  rintro _ ⟨⟩
  exact .text value

/-- A text that may be missing is written as a plain tree. -/
theorem plain_optionalPart {key : String} {value : Option String} :
    (optionalPart key value).Plain := by
  intro tree h
  obtain ⟨text, -, rfl⟩ := Option.map_eq_some_iff.1 h
  exact .text text

/-- A truth value is written as a plain tree. -/
theorem plain_boolPart {key : String} {default value : Bool} :
    (boolPart key default value).Plain := by
  intro tree h
  unfold boolPart at h
  split at h <;> cases h
  exact .bool value

/-- A list is written as a plain tree if its items are. -/
theorem plain_listPart {α : Type} {item : α → Tree} {items : List α}
    (h : ∀ a ∈ items, (item a).Plain) :
    (listPart key item items).Plain := by
  intro tree written
  unfold listPart at written
  split at written <;> cases written
  exact .list _ fun _ mem => by
    obtain ⟨a, ha, rfl⟩ := List.mem_map.1 mem
    exact h a ha

/-- A list of texts is a plain tree. -/
theorem Tree.plain_texts (texts : List String) : (Tree.list (texts.map Tree.text)).Plain :=
  .list _ fun _ mem => by
    obtain ⟨text, -, rfl⟩ := List.mem_map.1 mem
    exact .text text

/-- A list of texts is a plain part. -/
theorem plain_textsPart (items : List String) : (listPart key Tree.text items).Plain :=
  plain_listPart fun text _ => .text text

/-- The mapping that is written for plain parts is plain. -/
theorem plain_fieldsOf (distinct : (parts.map (·.1)).Nodup) (h : ∀ part ∈ parts, Part.Plain part) :
    (Tree.dict (fieldsOf parts)).Plain :=
  .dict _ (distinct.sublist (keys_fieldsOf parts)) fun _ mem => h _ (mem_fieldsOf.1 mem) _ rfl

/-- The entries of the mapping that is written for parts. -/
def entriesOf (parts : List Part) : Entries :=
  Tree.valueEntries (fieldsOf parts)

/-- An entry of a record is the value of a part under its key. -/
theorem mem_entriesOf {k v : Value} (h : (k, v) ∈ entriesOf parts) :
    ∃ key tree, k = .text key ∧ v = tree.value ∧ (key, some tree) ∈ parts := by
  rw [entriesOf, valueEntries_eq_map] at h
  obtain ⟨field, mem, same⟩ := List.mem_map.1 h
  cases same
  exact ⟨field.1, field.2, rfl, rfl, mem_fieldsOf.1 mem⟩

/-- There is no value under the key of no part. -/
theorem valueAt?_eq_none (absent : key ∉ parts.map (·.1)) :
    valueAt? (entriesOf parts) key = none := by
  rw [valueAt?, Option.map_eq_none_iff, List.find?_eq_none]
  rintro ⟨k, v⟩ mem same
  obtain ⟨key', tree, rfl, rfl, part⟩ := mem_entriesOf mem
  obtain rfl : key' = key := by simpa [Value.sameKey] using same
  exact absent (List.mem_map_of_mem part)

/-- What stands under the key of a part is what was written for it. -/
theorem valueAt?_of_mem {tree? : Option Tree} (distinct : (parts.map (·.1)).Nodup)
    (mem : (key, tree?) ∈ parts) :
    valueAt? (entriesOf parts) key = tree?.map Tree.value := by
  induction parts with
  | nil => cases mem
  | cons part parts ih =>
    obtain ⟨fresh, distinct⟩ := List.nodup_cons.1 distinct
    rcases List.mem_cons.1 mem with rfl | mem
    · cases tree? with
      | none => exact (valueAt?_eq_none fresh : valueAt? (entriesOf parts) key = none)
      | some tree => simp [valueAt?, entriesOf, fieldsOf_cons, Tree.valueEntries, Value.sameKey]
    · have other : part.1 ≠ key := fun same => fresh (List.mem_map.2 ⟨_, mem, same.symm⟩)
      rw [← ih distinct mem]
      obtain ⟨key', _ | tree⟩ := part
      · rfl
      · simp [valueAt?, entriesOf, fieldsOf_cons, Tree.valueEntries, Value.sameKey, other]

end Writing

/-- Whether a reader can tell keys apart, also in their second spelling. -/
structure Legible (keys : List String) : Prop where
  distinct : keys.Nodup
  spelled : ∀ key ∈ keys, lowLined key ∈ keys → lowLined key = key

/-- Whether keys can be told apart is decided by going through them. -/
instance (keys : List String) : Decidable (Legible keys) :=
  decidable_of_iff (keys.Nodup ∧ ∀ key ∈ keys, lowLined key ∈ keys → lowLined key = key)
    ⟨fun h => ⟨h.1, h.2⟩, fun h => ⟨h.1, h.2⟩⟩

/-- Whether a mapping has a part under the spelling of its key that is read. -/
def Entries.Has (entries : Entries) (part : Part) : Prop :=
  valueAt? entries (spelling entries part.1) = part.2.map Tree.value

section Reading

variable {parts : List Part} {key : String} {e : Entries}

/-- The key of a part with a value is spelled as it is. -/
theorem spelling_of_mem {tree : Tree} (distinct : (parts.map (·.1)).Nodup)
    (mem : (key, some tree) ∈ parts) :
    spelling (entriesOf parts) key = key := by
  rw [spelling, valueAt?_of_mem distinct mem]
  rfl

/-- Every part is found, or found to be absent. -/
theorem has_of_mem {part : Part} (legible : Legible (parts.map (·.1))) (mem : part ∈ parts) :
    (entriesOf parts).Has part := by
  obtain ⟨key, tree?⟩ := part
  have here := valueAt?_of_mem legible.distinct mem
  cases tree? with
  | some tree => rw [Entries.Has, spelling_of_mem legible.distinct mem, here]
  | none =>
    have second : spelling (entriesOf parts) key = lowLined key := by
      rw [spelling, here]
      rfl
    rw [Entries.Has, second]
    by_cases clash : lowLined key ∈ parts.map (·.1)
    · rw [legible.spelled key (List.mem_map_of_mem mem) clash, here]
    · exact valueAt?_eq_none clash

/-- A record is read back if its fields can be read from a mapping that has its parts. -/
theorem readRecord_of_has {α : Type} {keys : List String} {fields : Entries → Checked α} {a : α}
    (legible : Legible keys) (named : parts.map (·.1) = keys)
    (reads : ∀ e : Entries, (∀ part ∈ parts, e.Has part) → fields e = .valid a) :
    readRecord keys fields (Tree.dict (fieldsOf parts)).value = .valid a := by
  subst named
  have read := reads (entriesOf parts) fun part mem => has_of_mem legible mem
  rw [Tree.value, ← entriesOf, readRecord]
  simp only [read]
  refine if_pos (List.isEmpty_iff.2 (List.flatMap_eq_nil_iff.2 ?_))
  rintro ⟨k, v⟩ mem
  obtain ⟨key, tree, rfl, rfl, part⟩ := mem_entriesOf mem
  have known : key ∈ (parts.map (·.1)).map (spelling (entriesOf parts)) :=
    List.mem_map.2 ⟨key, List.mem_map_of_mem (f := Prod.fst) part,
      spelling_of_mem legible.distinct part⟩
  exact if_pos known

/-- A text that is required is read back from its part. -/
theorem required_text {value : String} (h : e.Has (textPart key value)) :
    required e key readText = .valid value := by
  change valueAt? e (spelling e key) = some _ at h
  rw [required, h]
  rfl

/-- A field is read back from what is written for it, and has its default if nothing is. -/
theorem field_of_has {α : Type} {read : Value → Checked α} {default a : α} {tree? : Option Tree}
    (h : e.Has (key, tree?)) (present : ∀ tree, tree? = some tree → read tree.value = .valid a)
    (absent : tree? = none → default = a) : field e key default read = .valid a := by
  change valueAt? e (spelling e key) = _ at h
  rw [field, h]
  cases tree? with
  | none => exact congrArg _ (absent rfl)
  | some tree =>
    change (read tree.value).under key = _
    rw [present tree rfl]
    rfl

/-- A text that may be missing is read back from its part. -/
theorem field_optional {value : Option String} (h : e.Has (optionalPart key value)) :
    field e key none (readOptional readText) = .valid value := by
  refine field_of_has h ?_ ?_
  · intro tree htree
    cases value <;> cases htree
    rfl
  · intro none
    cases value <;> cases none
    rfl

/-- A truth value is read back from its part. -/
theorem field_bool {default value : Bool} (h : e.Has (boolPart key default value)) :
    field e key default readBool = .valid value := by
  refine field_of_has h ?_ ?_
  · intro tree htree
    split at htree <;> cases htree
    rfl
  · intro none
    split at none
    · rename_i same
      exact same.symm
    · cases none

/-- A list of records is read back if each of them is. -/
theorem field_list {α : Type} {item : α → Tree} {read : Value → Checked α} {items : List α}
    (h : e.Has (listPart key item items)) (reads : ∀ a ∈ items, read (item a).value = .valid a) :
    field e key [] (readList read) = .valid items := by
  refine field_of_has h ?_ ?_
  · intro tree htree
    split at htree <;> cases htree
    rw [Tree.value, values_eq_map, List.map_map]
    exact readList_map reads
  · intro none
    split at none
    · rename_i empty
      exact (List.isEmpty_iff.1 empty).symm
    · cases none

/-- A list of texts is read back from its part. -/
theorem field_texts {items : List String} (h : e.Has (listPart key Tree.text items)) :
    field e key [] (readList readText) = .valid items :=
  field_list h fun _ _ => rfl

end Reading

end Description

end Componentry
