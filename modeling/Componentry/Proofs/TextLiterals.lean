import Componentry.Proofs.Collecting
import Componentry.Proofs.Evolution

/-!
# Text literals

Default values and documentation go into generated code as string literals. A literal is read from
left to right: after the opening quote come characters that stand for themselves and escape
sequences, up to the first quote that no backslash escapes. A literal must not go on over the end of
a line.

Only quotes and backslashes are escaped when a literal is written. No other character can end it
early or start an escape sequence, so the literal denotes its text for a reader that lets it go on
over line ends. A line end is written as it is, so no other reader takes in the literal of a text
with more than one line.
-/

namespace Componentry

namespace Literal

/-- Whether a character ends a line. -/
def endsLine (c : Char) : Bool :=
  c = '\n' || c = '\r'

/-- The character that an escape sequence of two characters stands for. -/
def escaped? : Char → Option Char
  | '\x5c' => some '\x5c'
  | '\x22' => some '\x22'
  | '\x27' => some '\x27'
  | '?' => some '?'
  | 'a' => some '\x07'
  | 'b' => some '\x08'
  | 'f' => some '\x0c'
  | 'n' => some '\n'
  | 'r' => some '\r'
  | 't' => some '\t'
  | 'v' => some '\x0b'
  | _ => none

/-- What the rest of a literal denotes after its opening quote, and what follows the literal. The
flag tells whether the literal may go on over line ends. -/
def body? (multiline : Bool) : List Char → Option (List Char × List Char)
  | [] => none
  | '\x22' :: rest => some ([], rest)
  | '\x5c' :: c :: rest => do
    let denoted ← escaped? c
    let (others, after) ← body? multiline rest
    return (denoted :: others, after)
  | c :: rest =>
    if c = '\x5c' || endsLine c && !multiline then none
    else do
      let (others, after) ← body? multiline rest
      return (c :: others, after)

/-- What the literal denotes that a piece of code begins with, and what follows it. -/
def read? (multiline : Bool) : List Char → Option (List Char × List Char)
  | '\x22' :: rest => body? multiline rest
  | _ => none

variable (multiline : Bool) (rest : List Char)

/-- A character as it is written is read as that character, whatever follows it. Only a line end may
be refused. -/
theorem body?_escape (c : Char) :
    body? multiline (Scalar.escape c ++ rest) =
      if endsLine c && !multiline then none else (body? multiline rest).map fun (cs, after) =>
        (c :: cs, after) := by
  by_cases backslash : c = '\x5c'
  · subst backslash
    cases read : body? multiline rest <;> simp [Scalar.escape, body?, escaped?, endsLine, read]
  by_cases quote : c = '\x22'
  · subst quote
    cases read : body? multiline rest <;> simp [Scalar.escape, body?, escaped?, endsLine, read]
  · cases read : body? multiline rest <;> simp [Scalar.escape, body?, backslash, quote, read]

/-- A text as it is written between quotes is read as that text, up to the closing quote. -/
theorem body?_flatMap_escape (cs : List Char) :
    body? multiline (cs.flatMap Scalar.escape ++ '\x22' :: rest) =
      if cs.any endsLine && !multiline then none else some (cs, rest) := by
  induction cs with
  | nil => simp [body?]
  | cons c cs ih =>
    rw [List.flatMap_cons, List.append_assoc, body?_escape, ih]
    rw [List.any_cons]
    cases endsLine c <;> cases cs.any endsLine <;> cases multiline <;> rfl

/-- The literal of a text is read as that text, up to its last quote. -/
theorem read?_textLiteral (s : String) :
    read? multiline ((Scalar.textLiteral s).toList ++ rest) =
      if s.toList.any endsLine && !multiline then none else some (s.toList, rest) := by
  have written : (Scalar.textLiteral s).toList ++ rest =
      '\x22' :: (s.toList.flatMap Scalar.escape ++ '\x22' :: rest) := by
    simp [Scalar.textLiteral]
  rw [written]
  exact body?_flatMap_escape multiline rest s.toList

end Literal

/-- The texts of a default value that become literals. -/
def Scalar.texts : Scalar → List String
  | .text s => [s]
  | _ => []

/-- The texts of a member that become literals: its default value, its documentation, and that of
its arguments. Ports without documentation do without the literal, and so do attributes. -/
def Member.literalTexts : Member → List String
  | .port p => if p.isDynamic then [] else p.doc.toList.filter (· ≠ "")
  | .property s => s.doc.getD "" :: s.default.texts
  | .attribute s => s.default.texts
  | .operation o => o.doc.getD "" :: o.arguments.map (·.doc.getD "")
  | .plain .. => []

/-- Whether the literal of a text stands in a piece of code. -/
def Literal.StandsIn (s code : String) : Prop :=
  (Scalar.textLiteral s).toList <:+: code.toList

/-- Whether the literal of a text stands in the code that sets up a data member. -/
def ConstructionRecord.Shows (r : ConstructionRecord) (s : String) : Prop :=
  ∃ code, (r.initializer = .text code ∨ r.setUp = .text code) ∧ Literal.StandsIn s code

namespace Literal

variable {s code before after : String}

/-- A literal that is written between two texts stands in the whole. -/
theorem standsIn_between (h : code = before ++ Scalar.textLiteral s ++ after) :
    StandsIn s code := by
  subst h
  simp only [StandsIn, String.toList_append]
  exact ⟨before.toList, after.toList, rfl⟩

/-- A literal stays where it is when the code is put between two texts. -/
theorem StandsIn.within (h : StandsIn s code) (before after : String) :
    StandsIn s (before ++ code ++ after) := by
  simp only [StandsIn, String.toList_append]
  exact h.trans ⟨before.toList, after.toList, rfl⟩

/-- A literal that stands in one of several codes stands in all together. -/
theorem StandsIn.join {codes : List String} (h : StandsIn s code) (mem : code ∈ codes) :
    StandsIn s (String.join codes) := by
  rw [StandsIn, String.toList_join]
  exact h.trans (List.infix_of_mem_flatten (List.mem_map_of_mem mem))

end Literal

open Declares Literal

variable {k : Contribution} {text : String}

/-- The documentation of a port that is not a template is shown where the port is registered. -/
theorem Port.shows_doc {p : Port} (made : p.contribution = .ok k) (static : p.isDynamic = false)
    (doc : p.doc = some text) (given : text ≠ "") : ∃ r ∈ k.constructions, r.Shows text := by
  have registered : StandsIn text p.registration := by
    have spelt : p.registration =
        "ports()->" ++ (if p.isTrigger then "addEventPort" else "addPort") ++ "(" ++
          p.fieldName ++ ")" ++ ("\n  .doc(" ++ Scalar.textLiteral text ++ ")") ++ ";" := by
      rw [registration, docLiteral, doc, Option.getD_some, if_neg given]
      rfl
    rw [spelt]
    exact (standsIn_between rfl).within _ _
  rw [contribution, static] at made
  cases type : p.typeName with
  | none => simp [type] at made
  | some type =>
    simp only [type] at made
    cases made
    simp only [constructions]
    split
    · exact ⟨_, List.mem_cons_self, _, .inr rfl, registered⟩
    · exact ⟨_, List.mem_cons_self, _, .inr rfl, registered⟩

/-- A text by default is shown in the statement that sets it. -/
theorem Setting.defaultSetup_texts {x : Setting} {setUp : List String}
    (made : x.defaultSetup = .ok setUp) (mem : text ∈ x.default.texts) :
    ∃ code, setUp = [code] ∧ StandsIn text code := by
  rw [defaultSetup] at made
  cases value : x.default with
  | text s =>
    rw [value] at made mem
    obtain rfl : text = s := by simpa [Scalar.texts] using mem
    cases made
    exact ⟨_, rfl, standsIn_between rfl⟩
  | _ => simp [value, Scalar.texts] at mem

/-- The default of a setting stands in its set-up. -/
theorem Setting.standsIn_setUp {x : Setting} {setUp : List String}
    (made : x.defaultSetup = .ok setUp) (mem : text ∈ x.default.texts) (last : String) :
    StandsIn text (Text.joined "\n" (setUp ++ [last])) := by
  obtain ⟨code, rfl, shown⟩ := defaultSetup_texts made mem
  simpa [Text.joined, String.append_assoc] using shown.within "" ("\n" ++ last)

/-- The text of a property is shown by its construction. -/
theorem Setting.shows_property {x : Setting} (made : x.propertyContribution = .ok k)
    (mem : text ∈ (Member.property x).literalTexts) : ∃ r ∈ k.constructions, r.Shows text := by
  obtain ⟨setUp, set, made⟩ := of_bind_ok made
  cases made
  refine ⟨_, List.mem_singleton_self _, ?_⟩
  rcases List.mem_cons.1 mem with rfl | mem
  · have named : StandsIn (x.doc.getD "")
        (x.fieldName ++ "(\"" ++ x.name ++ "\", " ++ docLiteral x.doc ++ ")") :=
      standsIn_between rfl
    exact ⟨_, .inl rfl, named⟩
  · exact ⟨_, .inr rfl, standsIn_setUp set mem _⟩

/-- The text of an attribute is shown by its construction. -/
theorem Setting.shows_attribute {x : Setting} (made : x.attributeContribution = .ok k)
    (mem : text ∈ (Member.attribute x).literalTexts) : ∃ r ∈ k.constructions, r.Shows text := by
  obtain ⟨setUp, set, made⟩ := of_bind_ok made
  cases made
  exact ⟨_, List.mem_singleton_self _, _, .inr rfl, standsIn_setUp set mem _⟩

/-- The documentation of an operation and of its arguments is shown where the operation is
registered. -/
theorem Operation.standsIn_registration {o : Operation}
    (mem : text ∈ (Member.operation o).literalTexts) :
    StandsIn text o.registration := by
  let argument := fun a : Argument => s!"\n    .arg(\"{a.name}\", {docLiteral a.doc})"
  let opening := s!"provides()->addOperation( {o.fieldName})\n    .doc({docLiteral o.doc})"
  have spelt : o.registration = opening ++ String.join (o.arguments.map argument) ++ ";" := rfl
  rw [spelt]
  rcases List.mem_cons.1 mem with rfl | mem
  · have shown : StandsIn (o.doc.getD "") opening := standsIn_between rfl
    simpa [String.append_assoc]
      using shown.within "" (String.join (o.arguments.map argument) ++ ";")
  · obtain ⟨a, among, rfl⟩ := List.mem_map.1 mem
    have shown : StandsIn (a.doc.getD "") (argument a) := standsIn_between rfl
    exact (shown.join (List.mem_map_of_mem among)).within _ _

/-- Whatever a member contributes shows each of its texts. -/
theorem Interface.Contributes.shows {i : Interface} {m : Member} (h : i.Contributes m k)
    (mem : text ∈ m.literalTexts) :
    ∃ r ∈ k.constructions, r.Shows text := by
  match m, h, mem with
  | .port p, made, mem =>
    cases static : p.isDynamic with
    | true => simp [Member.literalTexts, static] at mem
    | false =>
      obtain ⟨doc, given⟩ : p.doc = some text ∧ text ≠ "" := by
        simpa [Member.literalTexts, static] using mem
      exact p.shows_doc made static doc given
  | .property x, made, mem => exact x.shows_property made mem
  | .attribute x, made, mem => exact x.shows_attribute made mem
  | .operation o, ⟨numeric, _, made⟩, mem =>
    rw [Operation.contribution] at made
    split at made
    · cases made
    · cases made
      exact ⟨_, List.mem_singleton_self _, _, .inr rfl, Operation.standsIn_registration mem⟩

/-- What is collected for a component shows each text of its members. -/
theorem ComponentId.Collects.shows {c : ComponentId} {s : Store} {implicit : Contribution}
    {members : List Contribution} (h : c.Collects s implicit members k) {m : Member}
    (own : m ∈ (s.interface c).members) (mem : text ∈ m.literalTexts) :
    ∃ r ∈ k.constructions, r.Shows text := by
  obtain ⟨part, among, contributes⟩ := (mem_of_forall₂ h.ofMembers).1 m own
  obtain ⟨r, made, shows⟩ := contributes.shows mem
  refine ⟨r, ?_, shows⟩
  rw [h.collected]
  simp only [Generation.withPureVirtuals, gathered, Contribution.concat_eq, List.mem_flatMap]
  exact ⟨part, by simp [among], made⟩

/-- The literal of a text is read as that text, up to its last quote, when it may go on over line
ends. When it must not, it is read as that text if the text is on one line, and refused otherwise.
In every run, what is collected for a component shows as literals the default values and the
documentation of its members. -/
theorem textLiterals_read (files : Files.Tree) (packageMaps : List PackageMap) (calls : List Call) :
    (∀ text after,
      read? true ((Scalar.textLiteral text).toList ++ after) = some (text.toList, after) ∧
      read? false ((Scalar.textLiteral text).toList ++ after) =
        if text.toList.any endsLine then none else some (text.toList, after)) ∧
      ∀ (c : ComponentId) k t, c.collect (Call.runAll calls { files, packageMaps }) = .ok k t →
        ∀ m ∈ ((Call.runAll calls { files, packageMaps }).interface c).members,
          ∀ text ∈ m.literalTexts, ∃ r ∈ k.constructions, r.Shows text := by
  constructor
  · intro text after
    rw [read?_textLiteral, read?_textLiteral]
    simp
  · intro c k t collected m own text mem
    obtain ⟨ready, -⟩ :=
      Call.evolves_runAll (settled_of_empty rfl : declaring.holds { files, packageMaps }) calls
    obtain ⟨implicit, members, made⟩ := (c.ends_collect ready).of_ok collected
    exact made.shows own mem

/-- A component has a property whose documentation takes two lines. -/
def describedProperty : List Call :=
  [.newProject "tasks" ⟨"/", []⟩ ⟨0⟩ none none,
    .declare (.declareComponent ⟨0⟩ "A" .framework none),
    .declare (.declareProperty ⟨0⟩ "config" (.named "/std/string") (.text "x")
      (some "first\nsecond"))]

/-- The documentation is shown in the code of the component, as a literal that goes on over the end
of its line. -/
theorem textLiterals_read_describedProperty :
    ∃ k t, ComponentId.collect ⟨0⟩ (Call.runAll describedProperty {}) = .ok k t ∧
      (∃ r ∈ k.constructions, r.Shows "first\nsecond") ∧
      read? true ((Scalar.textLiteral "first\nsecond").toList ++ [')']) =
        some ("first\nsecond".toList, [')']) ∧
      read? false ((Scalar.textLiteral "first\nsecond").toList ++ [')']) = none := by
  have ends : Ends (ComponentId.collect ⟨0⟩) (Call.runAll describedProperty {}) (fun _ _ => True)
      fun _ _ => False := by
    decide +kernel
  obtain ⟨k, t, collected, -⟩ := ends.exists_ok
  obtain ⟨reads, shows⟩ := textLiterals_read {} [] describedProperty
  have among : "first\nsecond" ∈
      ((Call.runAll describedProperty {}).interface ⟨0⟩).members.flatMap Member.literalTexts := by
    decide +kernel
  obtain ⟨m, own, mem⟩ := List.mem_flatMap.1 among
  obtain ⟨whole, line⟩ := reads "first\nsecond" [')']
  exact ⟨k, t, collected, shows ⟨0⟩ k t collected m own _ mem, whole, line⟩

end Componentry
