import Componentry.Generation.Classes

/-!
# Generated pages

The text of each generated file, made from the parts of which it is composed.
-/

namespace Componentry

namespace Generation

/-- What the pages of a component show. -/
structure ComponentView where
  projectName : String
  name : String
  basename : String
  doc : String
  superclassName : String
  /-- Whether the component derives from another component. -/
  isDerived : Bool
  isFixedInitialState : Bool
  isConfigurationRequired : Bool
  base : BaseClass
  user : UserClass

/-- How an opaque type is converted, in the spelling of generated code. -/
structure Conversion where
  type : String
  intermediate : String
  needsCopy : Bool
  /-- The pointer template of which the opaque type is an instance. -/
  pointerTemplate : Option String

/-- What the pages of a typekit show. -/
structure TypekitView where
  name : String
  opaqueHeaders : List String
  usedTypekits : List String
  /-- The spellings of the interface types. -/
  interfaceTypes : List String
  conversions : List Conversion
  /-- The headers with the conversions of the used typekits. -/
  conversionHeaders : List String

/-- A generated file. -/
inductive Page where
  | baseHeader (view : ComponentView)
  | baseSource (view : ComponentView)
  | userHeader (view : ComponentView)
  | userSource (view : ComponentView)
  | types (view : TypekitView)
  | conversionsHeader (view : TypekitView)
  | conversionsSource (view : TypekitView)

/-- The name of a page. -/
def Page.name : Page → String
  | .baseHeader _ => "tasks/TaskBase.hpp"
  | .baseSource _ => "tasks/TaskBase.cpp"
  | .userHeader _ => "tasks/Task.hpp"
  | .userSource _ => "tasks/Task.cpp"
  | .types _ => "typekit/Types.hpp"
  | .conversionsHeader _ => "typekit/OpaqueConvertions.hpp"
  | .conversionsSource _ => "typekit/OpaqueConvertions.cpp"

/-- A text of lines. -/
def ofLines (lines : List String) : String :=
  String.join (lines.map (· ++ "\n"))

/-- The line by which a generated file says where it comes from. -/
def banner (name : String) : String :=
  s!"/* Generated by taskgen from {name}.j2, do not edit */"

/-- The lines that open a header guarded by a macro. -/
def opening (macroName : String) : List String :=
  [s!"#ifndef {macroName}", s!"#define {macroName}"]

namespace ComponentView

/-- The macro that guards a header of the component. -/
def guard (v : ComponentView) (ending : String) : String :=
  s!"{Text.upper v.projectName}_{Text.upper v.basename}_{ending}"

/-- The text as it stands in the body of a class. -/
def inClass (text : String) : String :=
  "        " ++ Text.hanging 8 text

/-- The comment that documents the component, if it has a documentation. -/
def docComment (v : ComponentView) : List String :=
  if v.doc = "" then [] else [s!"    /** {Text.hanging 8 v.doc}", "     */"]

/-- The return type of the code for a hook. -/
def hookType (hook : Hook) : String :=
  if hook.returnsBool then "bool" else "void"

/-- The header of the base class. -/
def baseHeader (v : ComponentView) : String :=
  ofLines (
    [banner "tasks/TaskBase.hpp", ""] ++ opening (v.guard "TASK_BASE_HPP") ++
    ["", "#include <string>", "#include <boost/cstdint.hpp>"] ++
    v.base.includes.map (fun header => s!"#include <{header}>") ++
    ["#include <rtt/Port.hpp>", "#include <rtt/Property.hpp>", "#include <rtt/Attribute.hpp>",
      "#include <rtt/Operation.hpp>", ""] ++
    v.base.headerBefore ++
    ["", s!"namespace {v.projectName} \x7b", s!"    class {v.basename};", ""] ++
    v.docComment ++
    [s!"    class {v.basename}Base : public {v.superclassName}", "    \x7b", "    protected:"] ++
    v.base.methodDeclarations.map inClass ++ [""] ++
    v.base.declarations.map inClass ++
    ["", "    public:", s!"        {v.basename}Base(std::string const& name);"] ++
    (if v.isFixedInitialState then []
      else [s!"        {v.basename}Base(std::string const& name, TaskCore::TaskState initial_state);"]) ++
    [s!"        ~{v.basename}Base();", ""] ++
    v.base.hooks.map (fun (hook, _) => s!"        {hookType hook} {hook.name}Hook();") ++
    ["    \x7d;", "\x7d", ""] ++
    v.base.headerAfter ++ ["#endif"])

/-- A constructor of the base class. -/
def baseConstructor (v : ComponentView) (arguments passed : String) : List String :=
  [s!"{v.basename}Base::{v.basename}Base({arguments})", s!"    : {v.superclassName}({passed})"] ++
    v.base.initializers.map (fun initializer => s!"    , {Text.hanging 6 initializer}") ++
    ["\x7b"] ++ v.base.setUp ++ ["\x7d", ""]

/-- What the constructor that takes a name alone passes on. -/
def passedByName (v : ComponentView) : String :=
  if !v.isDerived && v.isConfigurationRequired then "name, TaskCore::PreOperational" else "name"

/-- The definition of the code for a hook. -/
def hookDefinition (v : ComponentView) (hook : Hook) (statements : List String) : List String :=
  let head := s!"{hookType hook} {v.basename}Base::{hook.name}Hook()"
  let inherited := s!"{v.superclassName}::{hook.name}Hook()"
  if hook.returnsBool then
    ["", head, "\x7b", s!"    if (! {inherited})", "        return false;"] ++ statements ++
      ["    return true;", "\x7d"]
  else ["", head, "\x7b", s!"    {inherited};"] ++ statements ++ ["\x7d"]

/-- The source file of the base class. -/
def baseSource (v : ComponentView) : String :=
  ofLines (
    [banner "tasks/TaskBase.cpp", "", s!"#include \"{v.basename}Base.hpp\"", ""] ++
    v.base.implementationBefore ++
    ["", s!"using namespace {v.projectName};", ""] ++
    v.baseConstructor "std::string const& name" v.passedByName ++
    (if v.isFixedInitialState then []
      else "" :: v.baseConstructor "std::string const& name, TaskCore::TaskState initial_state"
        "name, initial_state") ++
    ["", s!"{v.basename}Base::~{v.basename}Base()", "\x7b"] ++ v.base.tearDown ++ ["\x7d"] ++
    v.base.hooks.flatMap (fun (hook, statements) => v.hookDefinition hook statements) ++
    v.base.methodDefinitions.flatMap (fun definition => ["", definition]) ++
    [""] ++ v.base.implementationAfter)

/-- The header of the skeleton of the user class. -/
def userHeader (v : ComponentView) : String :=
  ofLines (
    opening (v.guard "TASK_HPP") ++
    ["", s!"#include \"{Text.lower v.projectName}/{v.basename}Base.hpp\"", "",
      s!"namespace {v.projectName} \x7b", "", s!"    /** The {v.basename} component.",
      "     *",
      "     * This file is created once and is not overwritten by later generations:",
      "     * it is yours to edit.",
      "     */",
      s!"    class {v.basename} : public {v.basename}Base",
      "    \x7b",
      s!"        friend class {v.basename}Base;",
      "    protected:"] ++
    v.user.methodDeclarations.map inClass ++
    ["", "    public:",
      if v.isFixedInitialState then
        s!"        {v.basename}(std::string const& name = \"{v.name}\");"
      else s!"        {v.basename}(std::string const& name = \"{v.name}\", " ++
        "TaskCore::TaskState initial_state = Stopped);",
      s!"        ~{v.basename}();",
      "",
      "        /** Called by configure(); returning false keeps the component unconfigured. */",
      "        bool configureHook();",
      "",
      "        /** Called by start(); returning false keeps the component stopped. */",
      "        bool startHook();",
      "",
      "        /** Called on each activity trigger while the component is running. */",
      "        void updateHook();",
      "",
      "        /** Called on each activity trigger while the component is in a runtime error state. */",
      "        void errorHook();",
      "",
      "        /** Called by stop(). */",
      "        void stopHook();",
      "",
      "        /** Called by cleanup(), before the component goes back to the unconfigured state. */",
      "        void cleanupHook();",
      "    \x7d;", "\x7d", "", "#endif"])

/-- The code for a hook in the skeleton of the user class. -/
def userHook (v : ComponentView) (hook : Hook) : List String :=
  let head := s!"{hookType hook} {v.basename}::{hook.name}Hook()"
  let inherited := s!"{v.basename}Base::{hook.name}Hook()"
  if hook.returnsBool then
    ["", head, "\x7b", s!"    if (! {inherited})", "        return false;",
      "    return true;", "\x7d"]
  else ["", head, "\x7b", s!"    {inherited};", "\x7d"]

/-- The source file of the skeleton of the user class. -/
def userSource (v : ComponentView) : String :=
  ofLines (
    [s!"#include \"{v.basename}.hpp\"", "", s!"using namespace {v.projectName};", ""] ++
    (if v.isFixedInitialState then
      [s!"{v.basename}::{v.basename}(std::string const& name)", s!"    : {v.basename}Base(name)"]
    else
      [s!"{v.basename}::{v.basename}(std::string const& name, TaskCore::TaskState initial_state)",
        s!"    : {v.basename}Base(name, initial_state)"]) ++
    ["\x7b", "\x7d", "", s!"{v.basename}::~{v.basename}()", "\x7b", "\x7d"] ++
    v.user.methodDefinitions.flatMap (fun definition => ["", definition]) ++
    [Hook.configure, .start, .update, .error, .stop, .cleanup].flatMap v.userHook)

end ComponentView

namespace TypekitView

/-- The macro that guards a header of the typekit. -/
def guard (v : TypekitView) (ending : String) : String :=
  s!"TASKGEN_GENERATED_{Text.upper v.name}_{ending}"

/-- The lines that keep templates of the framework from being instantiated in place, if the header
that defines them was read before. -/
def externBlock (macroName : String) (templates : List String) (type : String) : List String :=
  [s!"#ifdef {macroName}"] ++
    templates.map (fun template => s!"    extern template class RTT::{template}< {type} >;") ++
      ["#endif"]

/-- The lines for an interface type. -/
def externTemplates (type : String) : List String :=
  [""] ++
  externBlock "ORO_CHANNEL_ELEMENT_HPP" ["base::ChannelElement"] type ++
  externBlock "CORELIB_DATASOURCE_HPP" ["internal::DataSource",
    "internal::AssignableDataSource"] type ++
  externBlock "ORO_CORELIB_DATASOURCES_HPP"
    ["internal::ValueDataSource", "internal::ConstantDataSource",
      "internal::ReferenceDataSource"] type ++
  externBlock "ORO_INPUT_PORT_HPP" ["OutputPort"] type ++
  externBlock "ORO_OUTPUT_PORT_HPP" ["InputPort"] type ++
  externBlock "ORO_PROPERTY_HPP" ["Property"] type ++
  externBlock "ORO_CORELIB_ATTRIBUTE_HPP" ["Attribute"] type

/-- The header of the types of the typekit. -/
def types (v : TypekitView) : String :=
  ofLines (
    [banner "typekit/Types.hpp", ""] ++ opening (v.guard "TYPES_HPP") ++ [""] ++
    v.opaqueHeaders.map (fun header => s!"#include <{header}>") ++
    v.usedTypekits.map (fun used => s!"#include <{used}/Types.hpp>") ++
    ["", "#include <vector>", "#include <boost/cstdint.hpp>"] ++
    v.interfaceTypes.flatMap externTemplates ++ ["", "#endif"])

/-- The declaration of a conversion to the intermediate type by copy. -/
def toByCopy (c : Conversion) : String :=
  s!"void toIntermediate({c.intermediate}& intermediate, {c.type} const& real_type)"

/-- The declarations of the conversions of an opaque type. -/
def conversionDeclarations (c : Conversion) : List String :=
  let fromValue :=
    s!"    void fromIntermediate({c.type}& real_type, {c.intermediate} const& intermediate);"
  ["", s!"    /* {c.type} is marshalled as {c.intermediate} */"] ++
    if c.needsCopy then [s!"    {toByCopy c};", fromValue]
    else
      [s!"    {c.intermediate} const& toIntermediate({c.type} const& real_type);",
        s!"    bool fromIntermediate({c.type}& real_type, {c.intermediate}* intermediate);",
          fromValue]

/-- The header of the conversions of opaque types. -/
def conversionsHeader (v : TypekitView) : String :=
  ofLines (
    [banner "typekit/OpaqueConvertions.hpp", ""] ++ opening (v.guard "OPAQUE_CONVERTIONS_HPP") ++
    ["", "#include \"Types.hpp\"", "",
      "namespace taskgen_typekits \x7b"] ++
    v.conversions.flatMap conversionDeclarations ++ ["\x7d", "", "#endif"])

/-- The definitions of the conversions of a smart pointer. -/
def pointerConversion (c : Conversion) : List String :=
  ["", s!"{c.intermediate} const& taskgen_typekits::toIntermediate({c.type} const& real_type)",
    "\x7b", "    return *real_type;", "\x7d", "",
    s!"bool taskgen_typekits::fromIntermediate({c.type}& real_type, {c.intermediate}* intermediate)",
    "\x7b"] ++
  (if c.pointerTemplate = some OpaqueRule.sharedPointer then
    ["    if (real_type.get() != intermediate)", "        real_type.reset(intermediate);"]
  else ["    real_type.reset(intermediate);"]) ++
  ["    return true;", "\x7d"]

/-- The definition of the conversion from the intermediate type of an opaque type that needs no
copy. -/
def directConversion (c : Conversion) : List String :=
  ["",
    s!"void taskgen_typekits::fromIntermediate({c.type}& real_type, {c.intermediate} const& _intermediate)",
    "\x7b",
    s!"    std::unique_ptr< {c.intermediate} > intermediate(new {c.intermediate}(_intermediate));",
    "    if (fromIntermediate(real_type, intermediate.get()))",
    "        intermediate.release();",
    "\x7d"]

/-- The source file of the conversions of opaque types. -/
def conversionsSource (v : TypekitView) : String :=
  ofLines (
    [banner "typekit/OpaqueConvertions.cpp", "",
      "#include \"OpaqueConvertions.hpp\"", "#include <memory>"] ++
    v.conversionHeaders.map (fun header => s!"#include <{header}>") ++
    (v.conversions.filter (·.pointerTemplate.isSome)).flatMap pointerConversion ++
    (v.conversions.filter (!·.needsCopy)).flatMap directConversion)

end TypekitView

/-- The text of a page. -/
def Page.text : Page → String
  | .baseHeader v => v.baseHeader
  | .baseSource v => v.baseSource
  | .userHeader v => v.userHeader
  | .userSource v => v.userSource
  | .types v => v.types
  | .conversionsHeader v => v.conversionsHeader
  | .conversionsSource v => v.conversionsSource

end Generation

end Componentry
