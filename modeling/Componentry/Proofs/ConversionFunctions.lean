import Componentry.Generation.Run
import Componentry.Proofs.RuledTypekits

/-!
# Conversion functions

The header of the conversions of a typekit declares functions for each opaque type, and the source
file defines those of them that can be generated: both directions for smart pointers, and the way
back by value for types that need no copy. A copying conversion has another signature than a direct
one. So what is defined for a smart pointer is declared for it only if its rule asks for no copy.
-/

namespace Componentry

namespace Generation

/-- A function of generated code: what it returns, its name, and the type and the name of each
parameter. -/
structure ConversionFunction where
  result : String
  name : String
  parameters : List (String × String)

namespace ConversionFunction

/-- What a declaration and a definition of a function agree on: the name, the type of the result and
those of the parameters. -/
def signature (f : ConversionFunction) : String × String × List String :=
  (f.result, f.name, f.parameters.map (·.1))

/-- The line that opens the declaration or the definition of a function, its name qualified by a
scope. -/
def heading (scope : String) (f : ConversionFunction) : String :=
  f.result ++ " " ++ scope ++ f.name ++ "(" ++
    Text.joined ", " (f.parameters.map fun (type, name) => type ++ " " ++ name) ++ ")"

/-- The declaration of a function in a namespace. -/
def declaration (f : ConversionFunction) : String :=
  "    " ++ f.heading "" ++ ";"

/-- The definition of a function of the namespace of conversions. -/
def definition (f : ConversionFunction) (body : List String) : List String :=
  ["", f.heading "taskgen_typekits::", "\x7b"] ++ body ++ ["\x7d"]

end ConversionFunction

namespace Conversion

variable (c : Conversion)

/-- The conversion to the intermediate type by copy. -/
def copyTo : ConversionFunction :=
  ⟨"void", "toIntermediate",
    [(c.intermediate ++ "&", "intermediate"), (c.type ++ " const&", "real_type")]⟩

/-- The conversion to the intermediate type without copy. -/
def directTo : ConversionFunction :=
  ⟨c.intermediate ++ " const&", "toIntermediate", [(c.type ++ " const&", "real_type")]⟩

/-- The conversion from a pointer to the intermediate type. -/
def fromPointer : ConversionFunction :=
  ⟨"bool", "fromIntermediate",
    [(c.type ++ "&", "real_type"), (c.intermediate ++ "*", "intermediate")]⟩

/-- The conversion from a value of the intermediate type. -/
def fromValue (parameter : String) : ConversionFunction :=
  ⟨"void", "fromIntermediate",
    [(c.type ++ "&", "real_type"), (c.intermediate ++ " const&", parameter)]⟩

/-- The functions that the header declares for an opaque type. -/
def declared : List ConversionFunction :=
  if c.needsCopy then [c.copyTo, c.fromValue "intermediate"]
  else [c.directTo, c.fromPointer, c.fromValue "intermediate"]

/-- The functions that the source file defines for a smart pointer, with their bodies. -/
def pointerDefined : List (ConversionFunction × List String) :=
  [(c.directTo, ["    return *real_type;"]),
    (c.fromPointer,
      (if c.pointerTemplate = some OpaqueRule.sharedPointer then
        ["    if (real_type.get() != intermediate)", "        real_type.reset(intermediate);"]
      else ["    real_type.reset(intermediate);"]) ++ ["    return true;"])]

/-- The function that the source file defines for an opaque type that needs no copy, with its
body. -/
def valueDefined : ConversionFunction × List String :=
  (c.fromValue "_intermediate",
    [s!"    std::unique_ptr< {c.intermediate} > intermediate(new {c.intermediate}(_intermediate));",
      "    if (fromIntermediate(real_type, intermediate.get()))",
        "        intermediate.release();"])

variable {c}

/-- A direct conversion is declared for another opaque type only if that needs no copy and both
types are spelled alike. -/
theorem directTo_declared_iff {d : Conversion} :
    c.directTo.signature ∈ d.declared.map (·.signature) ↔
      d.needsCopy = false ∧ d.type = c.type ∧ d.intermediate = c.intermediate := by
  rw [declared]
  split
  · simp [ConversionFunction.signature, directTo, copyTo, fromValue, *]
  · simp [ConversionFunction.signature, directTo, fromPointer, fromValue, *]
    grind

/-- A conversion from a pointer is declared for another opaque type only if that needs no copy and
both are spelled alike. -/
theorem fromPointer_declared_iff {d : Conversion} :
    c.fromPointer.signature ∈ d.declared.map (·.signature) ↔
      d.needsCopy = false ∧ d.type = c.type ∧ d.intermediate = c.intermediate := by
  rw [declared]
  split
  · simp [ConversionFunction.signature, fromPointer, copyTo, fromValue, *]
  · simp [ConversionFunction.signature, directTo, fromPointer, fromValue, *]
    grind

/-- The way back by value is declared for each opaque type. -/
theorem fromValue_declared (parameter : String) :
    (c.fromValue parameter).signature ∈ c.declared.map (·.signature) := by
  rw [declared]
  split <;> simp [ConversionFunction.signature, fromValue]

end Conversion

namespace TypekitView

variable (v : TypekitView)

/-- The functions that the header of the conversions declares. -/
def declaredFunctions : List ConversionFunction :=
  v.conversions.flatMap (·.declared)

/-- The functions that the source file of the conversions defines, with their bodies. -/
def definedFunctions : List (ConversionFunction × List String) :=
  (v.conversions.filter (·.pointerTemplate.isSome)).flatMap (·.pointerDefined) ++
    (v.conversions.filter (!·.needsCopy)).map (·.valueDefined)

/-- The lines of the header that tell of the conversions of an opaque type. -/
def conversionLines (c : Conversion) : List String :=
  ["", s!"    /* {c.type} is marshalled as {c.intermediate} */"] ++ c.declared.map (·.declaration)

/-- The header declares the functions that it should. -/
theorem conversionsHeader_eq :
    v.conversionsHeader = ofLines (
      [banner "typekit/OpaqueConvertions.hpp", ""] ++ opening (v.guard "OPAQUE_CONVERTIONS_HPP") ++
      ["", "#include \"Types.hpp\"", "", "namespace taskgen_typekits \x7b"] ++
      v.conversions.flatMap conversionLines ++ ["\x7d", "", "#endif"]) := by
  have lines (c : Conversion) : conversionDeclarations c = conversionLines c := by
    have heading : c.copyTo.heading "" = toByCopy c := by
      apply String.toList_injective
      unfold toByCopy
      simp [Conversion.copyTo, ConversionFunction.heading, Text.joined, toString]
    have copying : c.copyTo.declaration = s!"    {toByCopy c};" := by
      simp only [ConversionFunction.declaration, heading, toString]
    have direct : c.directTo.declaration =
        s!"    {c.intermediate} const& toIntermediate({c.type} const& real_type);" := by
      apply String.toList_injective
      simp [Conversion.directTo, ConversionFunction.declaration, ConversionFunction.heading,
        Text.joined, toString]
    have pointer : c.fromPointer.declaration =
        s!"    bool fromIntermediate({c.type}& real_type, {c.intermediate}* intermediate);" := by
      apply String.toList_injective
      simp [Conversion.fromPointer, ConversionFunction.declaration, ConversionFunction.heading,
        Text.joined, toString]
    have value : (c.fromValue "intermediate").declaration =
        s!"    void fromIntermediate({c.type}& real_type, {c.intermediate} const& intermediate);" := by
      apply String.toList_injective
      simp [Conversion.fromValue, ConversionFunction.declaration, ConversionFunction.heading,
        Text.joined, toString]
    rw [conversionDeclarations, conversionLines, Conversion.declared]
    split
    · rw [List.map_cons, List.map_singleton, copying, value]
    · rw [List.map_cons, List.map_cons, List.map_singleton, direct, pointer, value]
  rw [conversionsHeader, funext lines]

/-- The source file defines the functions that it should. -/
theorem conversionsSource_eq :
    v.conversionsSource = ofLines (
      [banner "typekit/OpaqueConvertions.cpp", "",
        "#include \"OpaqueConvertions.hpp\"", "#include <memory>"] ++
      v.conversionHeaders.map (fun header => s!"#include <{header}>") ++
      v.definedFunctions.flatMap fun (f, body) => f.definition body) := by
  have pointer (c : Conversion) : pointerConversion c = c.pointerDefined.flatMap fun (f, body) =>
      f.definition body := by
    have direct : c.directTo.heading "taskgen_typekits::" =
        s!"{c.intermediate} const& taskgen_typekits::toIntermediate({c.type} const& real_type)" := by
      apply String.toList_injective
      simp [Conversion.directTo, ConversionFunction.heading, Text.joined, toString]
    have back : c.fromPointer.heading "taskgen_typekits::" =
        s!"bool taskgen_typekits::fromIntermediate({c.type}& real_type, {c.intermediate}* intermediate)" := by
      apply String.toList_injective
      simp [Conversion.fromPointer, ConversionFunction.heading, Text.joined, toString]
    simp only [pointerConversion, Conversion.pointerDefined, ConversionFunction.definition,
      List.flatMap_cons, List.flatMap_nil, List.append_assoc, List.append_nil, direct, back]
    rfl
  have value (c : Conversion) :
      directConversion c = c.valueDefined.1.definition c.valueDefined.2 := by
    have heading : (c.fromValue "_intermediate").heading "taskgen_typekits::" =
        s!"void taskgen_typekits::fromIntermediate({c.type}& real_type, {c.intermediate} const& _intermediate)" := by
      apply String.toList_injective
      simp [Conversion.fromValue, ConversionFunction.heading, Text.joined, toString]
    rw [directConversion, Conversion.valueDefined, ConversionFunction.definition, heading]
    rfl
  rw [conversionsSource, funext pointer, funext value, definedFunctions, List.flatMap_append,
    List.flatMap_assoc, List.flatMap_map, ← List.append_assoc]

/-- Each defined function is declared if and only if what is defined for smart pointers is declared
for opaque types that need no copy. -/
theorem definedFunctions_declared_iff :
    (∀ f ∈ v.definedFunctions, ∃ g ∈ v.declaredFunctions, g.signature = f.1.signature) ↔
      ∀ c ∈ v.conversions, c.pointerTemplate.isSome → c.needsCopy →
        ∃ d ∈ v.conversions, d.needsCopy = false ∧ d.type = c.type ∧
          d.intermediate = c.intermediate := by
  have declared (f : ConversionFunction) : (∃ g ∈ v.declaredFunctions, g.signature = f.signature) ↔
      ∃ d ∈ v.conversions, f.signature ∈ d.declared.map (·.signature) := by
    simp only [declaredFunctions, List.mem_flatMap, List.mem_map]
    exact ⟨fun ⟨g, ⟨d, hd, hg⟩, same⟩ => ⟨d, hd, g, hg, same⟩,
      fun ⟨d, hd, g, hg, same⟩ => ⟨g, ⟨d, hd, hg⟩, same⟩⟩
  constructor
  · intro all c hc isPointer _
    have listed : (c.directTo, ["    return *real_type;"]) ∈ v.definedFunctions :=
      List.mem_append_left _
        (List.mem_flatMap.2 ⟨c, List.mem_filter.2 ⟨hc, isPointer⟩, List.mem_cons_self⟩)
    obtain ⟨d, hd, found⟩ := (declared _).1 (all _ listed)
    exact ⟨d, hd, Conversion.directTo_declared_iff.1 found⟩
  · intro uncopied f hf
    rw [declared]
    rcases List.mem_append.1 hf with hf | hf
    · obtain ⟨c, hc, hf⟩ := List.mem_flatMap.1 hf
      obtain ⟨hc, isPointer⟩ := List.mem_filter.1 hc
      obtain ⟨d, hd, direct⟩ : ∃ d ∈ v.conversions,
          d.needsCopy = false ∧ d.type = c.type ∧ d.intermediate = c.intermediate := by
        cases copied : c.needsCopy with
        | false => exact ⟨c, hc, copied, rfl, rfl⟩
        | true => exact uncopied c hc isPointer copied
      rcases List.mem_pair.1 hf with rfl | rfl
      · exact ⟨d, hd, Conversion.directTo_declared_iff.2 direct⟩
      · exact ⟨d, hd, Conversion.fromPointer_declared_iff.2 direct⟩
    · obtain ⟨c, hc, rfl⟩ := List.mem_map.1 hf
      exact ⟨c, (List.mem_filter.1 hc).1, Conversion.fromValue_declared _⟩

end TypekitView

end Generation

open Generation (typekitView ofLines banner opening)

/-- The header of the conversions of a typekit declares each function that the source file defines
if and only if, for each smart pointer whose rule asks for a copy, the rule of another type that is
spelled alike asks for none. -/
theorem conversions_declared_iff {s : Store} {p : ProjectId} {k : Typekit}
    {v : Generation.TypekitView} (shown : typekitView s p k = .ok v) :
    v.conversionsHeader = ofLines (
      [banner "typekit/OpaqueConvertions.hpp", ""] ++ opening (v.guard "OPAQUE_CONVERTIONS_HPP") ++
      ["", "#include \"Types.hpp\"", "", "namespace taskgen_typekits \x7b"] ++
      v.conversions.flatMap Generation.TypekitView.conversionLines ++ ["\x7d", "", "#endif"]) ∧
    v.conversionsSource = ofLines (
      [banner "typekit/OpaqueConvertions.cpp", "",
        "#include \"OpaqueConvertions.hpp\"", "#include <memory>"] ++
      v.conversionHeaders.map (fun header => s!"#include <{header}>") ++
      v.definedFunctions.flatMap fun (f, body) => f.definition body) ∧
    ((∀ f ∈ v.definedFunctions, ∃ g ∈ v.declaredFunctions, g.signature = f.1.signature) ↔
      ∀ rule ∈ k.opaques, rule.pointerTemplate?.isSome → rule.needsCopy →
        ∃ other ∈ k.opaques, other.needsCopy = false ∧
          Typename.cxxName other.typeName = Typename.cxxName rule.typeName ∧
          Typename.cxxName (k.intermediateName (.named other.typeName)) =
            Typename.cxxName (k.intermediateName (.named rule.typeName))) := by
  refine ⟨v.conversionsHeader_eq, v.conversionsSource_eq, v.definedFunctions_declared_iff.trans ?_⟩
  obtain ⟨types, -, made⟩ := of_bind_ok shown
  cases made
  simp only [List.forall_mem_map]
  simp only [List.mem_map, exists_exists_and_eq_and]

/-- A shared pointer is declared as an opaque type with the default that it needs a copy. -/
def copiedPointer : List Call :=
  [.newProject "app" ⟨"/", []⟩ ⟨0⟩ none none,
    .declare (.declareOpaque ⟨0⟩ "/boost/shared_ptr</int>" "int" [] true)]

/-- The typekit of the project has the rule of the shared pointer, and its pages can be shown. -/
theorem runAll_copiedPointer :
    ((Call.runAll copiedPointer {}).typekit ⟨1⟩).opaques =
      [⟨"/boost/shared_ptr</int>", "/int", true, []⟩] ∧
      (typekitView (Call.runAll copiedPointer {}) ⟨0⟩
        ((Call.runAll copiedPointer {}).typekit ⟨1⟩)).isOk := by
  -- The kernel does not evaluate the closure of the opaque type, so its declaration is not run.
  generalize hstart : Store.withMain {} "app" ⟨"/", []⟩ ⟨0⟩ none = start
  have pointer : ({ name := "/boost/shared_ptr</int>", kind := .opaqueType } : TypeDef) =
      { name := Typename.normalize "/boost/shared_ptr</int>", kind := .opaqueType } := by
    decide +kernel
  have new : (start.registry (start.project ⟨0⟩).registry).find? "/boost/shared_ptr</int>" =
      none := by
    rw [← hstart]
    decide +kernel
  rw [copiedPointer, ProjectId.runAll_declareOpaque_initial hstart _ _ pointer new
    (ProjectId.get_int_initial hstart)]
  clear pointer
  subst hstart
  decide +kernel +revert

/-- The conversions of the shared pointer that the source file defines are not declared. -/
theorem conversions_declared_copiedPointer :
    ∃ v, typekitView (Call.runAll copiedPointer {}) ⟨0⟩ ((Call.runAll copiedPointer {}).typekit
      ⟨1⟩) = .ok v ∧
      ¬∀ f ∈ v.definedFunctions, ∃ g ∈ v.declaredFunctions, g.signature = f.1.signature := by
  obtain ⟨rules, made⟩ := runAll_copiedPointer
  cases shown :
    typekitView (Call.runAll copiedPointer {}) ⟨0⟩ ((Call.runAll copiedPointer {}).typekit ⟨1⟩) with
  | error fault =>
    rw [shown] at made
    cases made
  | ok v =>
    refine ⟨v, rfl, fun declared => ?_⟩
    have uncopied := (conversions_declared_iff shown).2.2.1 declared
    rw [rules] at uncopied
    obtain ⟨other, mem, copies, -⟩ := uncopied _ List.mem_cons_self (by decide +kernel) rfl
    cases List.mem_singleton.1 mem
    cases copies

end Componentry
