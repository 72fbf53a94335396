import Componentry.Generation.Run
import Componentry.Proofs.Evolution
import Componentry.Proofs.MemberNames

/-!
# Initial states of generated classes

Each generated class has constructors that take a name, and may take a state; each calls a
constructor of the class that it derives from, which in the end is the framework class. What the
framework class gets when a component is constructed by default is told by the component from which
the chain of its ancestors starts: the state in which a component waits for its configuration only
if this component itself is declared to need one.
-/

namespace Componentry

namespace Generation

/-- What a constructor passes on as a state to the constructor that it calls. -/
inductive PassedState where
  | nothing
  /-- The state that it takes itself. -/
  | parameter
  | constant (state : String)

/-- A constructor of a generated class. It takes a name, which it passes on. -/
structure Constructor where
  /-- Whether it takes a state after the name. -/
  takesState : Bool
  /-- The state that it takes from calls that give none. -/
  default : Option String := none
  passed : PassedState

namespace Constructor

/-- The parameters as a definition spells them. -/
def parameters (k : Constructor) : String :=
  if k.takesState then "std::string const& name, TaskCore::TaskState initial_state"
    else "std::string const& name"

/-- What is passed on, as a definition spells it. -/
def arguments (k : Constructor) : String :=
  match k.passed with
  | .nothing => "name"
  | .parameter => "name, initial_state"
  | .constant state => "name, " ++ state

/-- The lines that open the definition of a constructor of a class, by which it calls one of another
class. -/
def heading (k : Constructor) (className called : String) : List String :=
  [s!"{className}::{className}({k.parameters})", s!"    : {called}({k.arguments})"]

/-- The declaration in a class, where calls may give no name if there is a default name. -/
def declaration (k : Constructor) (className : String) (defaultName : Option String) : String :=
  let name := match defaultName with
    | some name => s!" = \"{name}\""
    | none => ""
  let state := match k.default with
    | some state => s!" = {state}"
    | none => ""
  s!"        {className}(std::string const& name{name}" ++
    (if k.takesState then s!", TaskCore::TaskState initial_state{state}" else "") ++ ");"

/-- Whether a call fits a constructor, given the state that it passes, if it passes one. -/
def accepts (k : Constructor) (state : Option String) : Bool :=
  if state.isSome then k.takesState else !k.takesState || k.default.isSome

/-- The state that a constructor passes on when it is called. -/
def passesOn (k : Constructor) (state : Option String) : Option String :=
  match k.passed with
  | .nothing => none
  | .parameter => state.or k.default
  | .constant state => some state

/-- What a call of a class passes on by the first of its constructors that it fits. -/
def call (constructors : List Constructor) (state : Option String) : Option (Option String) :=
  (constructors.find? (·.accepts state)).map (·.passesOn state)

end Constructor

namespace ComponentView

variable (v : ComponentView)

/-- The constructors of the base class. -/
def baseConstructors : List Constructor :=
  { takesState := false
    passed := if !v.isDerived && v.isConfigurationRequired then .constant "TaskCore::PreOperational"
      else .nothing } ::
  if v.isFixedInitialState then [] else [{ takesState := true, passed := .parameter }]

/-- The constructor of the user class. -/
def userConstructor : Constructor :=
  if v.isFixedInitialState then { takesState := false, passed := .nothing }
  else { takesState := true, default := some "Stopped", passed := .parameter }

/-- The definition of a constructor of the base class. -/
def baseDefinition (k : Constructor) : List String :=
  k.heading (v.basename ++ "Base") v.superclassName ++
    v.base.initializers.map (fun initializer => s!"    , {Text.hanging 6 initializer}") ++
    ["\x7b"] ++ v.base.setUp ++ ["\x7d", ""]

/-- The header of the base class, with the constructors that it declares. -/
def baseHeaderWith (constructors : List Constructor) : String :=
  ofLines (
    [banner "tasks/TaskBase.hpp", ""] ++ opening (v.guard "TASK_BASE_HPP") ++
    ["", "#include <string>", "#include <boost/cstdint.hpp>"] ++
    v.base.includes.map (fun header => s!"#include <{header}>") ++
    ["#include <rtt/Port.hpp>", "#include <rtt/Property.hpp>", "#include <rtt/Attribute.hpp>",
      "#include <rtt/Operation.hpp>", ""] ++
    v.base.headerBefore ++
    ["", s!"namespace {v.projectName} \x7b", s!"    class {v.basename};", ""] ++
    v.docComment ++
    [s!"    class {v.basename}Base : public {v.superclassName}", "    \x7b", "    protected:"] ++
    v.base.methodDeclarations.map inClass ++ [""] ++
    v.base.declarations.map inClass ++
    ["", "    public:"] ++
    constructors.map (·.declaration (v.basename ++ "Base") none) ++
    [s!"        ~{v.basename}Base();", ""] ++
    v.base.hooks.map (fun (hook, _) => s!"        {hookType hook} {hook.name}Hook();") ++
    ["    \x7d;", "\x7d", ""] ++
    v.base.headerAfter ++ ["#endif"])

/-- The source file of the base class, with the constructors that it defines. -/
def baseSourceWith (constructors : List Constructor) : String :=
  ofLines (
    [banner "tasks/TaskBase.cpp", "", s!"#include \"{v.basename}Base.hpp\"", ""] ++
    v.base.implementationBefore ++
    ["", s!"using namespace {v.projectName};", ""] ++
    [""].intercalate (constructors.map v.baseDefinition) ++
    ["", s!"{v.basename}Base::~{v.basename}Base()", "\x7b"] ++ v.base.tearDown ++ ["\x7d"] ++
    v.base.hooks.flatMap (fun (hook, statements) => v.hookDefinition hook statements) ++
    v.base.methodDefinitions.flatMap (fun definition => ["", definition]) ++
    [""] ++ v.base.implementationAfter)

/-- The header of the user class, with the constructor that it declares. -/
def userHeaderWith (k : Constructor) : String :=
  ofLines (
    opening (v.guard "TASK_HPP") ++
    ["", s!"#include \"{Text.lower v.projectName}/{v.basename}Base.hpp\"", "",
      s!"namespace {v.projectName} \x7b", "", s!"    /** The {v.basename} component.",
      "     *",
      "     * This file is created once and is not overwritten by later generations:",
      "     * it is yours to edit.",
      "     */",
      s!"    class {v.basename} : public {v.basename}Base",
      "    \x7b",
      s!"        friend class {v.basename}Base;",
      "    protected:"] ++
    v.user.methodDeclarations.map inClass ++
    ["", "    public:", k.declaration v.basename (some v.name),
      s!"        ~{v.basename}();",
      "",
      "        /** Called by configure(); returning false keeps the component unconfigured. */",
      "        bool configureHook();",
      "",
      "        /** Called by start(); returning false keeps the component stopped. */",
      "        bool startHook();",
      "",
      "        /** Called on each activity trigger while the component is running. */",
      "        void updateHook();",
      "",
      "        /** Called on each activity trigger while the component is in a runtime error state. */",
      "        void errorHook();",
      "",
      "        /** Called by stop(). */",
      "        void stopHook();",
      "",
      "        /** Called by cleanup(), before the component goes back to the unconfigured state. */",
      "        void cleanupHook();",
      "    \x7d;", "\x7d", "", "#endif"])

/-- The source file of the user class, with the constructor that it defines. -/
def userSourceWith (k : Constructor) : String :=
  ofLines (
    [s!"#include \"{v.basename}.hpp\"", "", s!"using namespace {v.projectName};", ""] ++
    k.heading v.basename (v.basename ++ "Base") ++
    ["\x7b", "\x7d", "", s!"{v.basename}::~{v.basename}()", "\x7b", "\x7d"] ++
    v.user.methodDefinitions.flatMap (fun definition => ["", definition]) ++
    [Hook.configure, .start, .update, .error, .stop, .cleanup].flatMap v.userHook)

/-- The pages of a component declare its constructors, and define them. -/
structure SpellsConstructors : Prop where
  baseHeader : (Page.baseHeader v).text = v.baseHeaderWith v.baseConstructors
  baseSource : (Page.baseSource v).text = v.baseSourceWith v.baseConstructors
  userHeader : (Page.userHeader v).text = v.userHeaderWith v.userConstructor
  userSource : (Page.userSource v).text = v.userSourceWith v.userConstructor

/-- The header of the base class declares its constructors. -/
theorem baseHeader_eq : v.baseHeader = v.baseHeaderWith v.baseConstructors := by
  have byName (passed : PassedState) :
      Constructor.declaration { takesState := false, passed } (v.basename ++ "Base") none =
      s!"        {v.basename}Base(std::string const& name);" := by
    apply String.toList_injective
    simp [Constructor.declaration, toString]
  have byState : Constructor.declaration { takesState := true, passed := .parameter }
      (v.basename ++ "Base") none =
      s!"        {v.basename}Base(std::string const& name, TaskCore::TaskState initial_state);" := by
    apply String.toList_injective
    simp [Constructor.declaration, toString]
  rw [baseHeader, baseHeaderWith, baseConstructors, List.map_cons, byName]
  cases v.isFixedInitialState with
  | true => simp
  | false => simp [byState]

/-- The source file of the base class defines its constructors. -/
theorem baseSource_eq : v.baseSource = v.baseSourceWith v.baseConstructors := by
  have definition (k : Constructor) :
      v.baseDefinition k = v.baseConstructor k.parameters k.arguments := by
    have defined (className : String) (named : className = v.basename ++ "Base") :
        s!"{className}::{className}({k.parameters})" =
          s!"{v.basename}Base::{v.basename}Base({k.parameters})" := by
      rw [named]
      apply String.toList_injective
      simp [toString]
    rw [baseDefinition, Constructor.heading, defined _ rfl]
    rfl
  have byName : Constructor.arguments
      { takesState := false
        passed := if !v.isDerived && v.isConfigurationRequired then
          .constant "TaskCore::PreOperational" else .nothing } =
      v.passedByName := by
    rw [passedByName]
    split <;> rfl
  have defined : [""].intercalate (v.baseConstructors.map v.baseDefinition) =
      v.baseConstructor "std::string const& name" v.passedByName ++ if v.isFixedInitialState
          then [] else
        "" :: v.baseConstructor "std::string const& name, TaskCore::TaskState initial_state"
          "name, initial_state" := by
    rw [funext definition, baseConstructors, List.map_cons, byName]
    cases v.isFixedInitialState with
    | true => simp [List.intercalate, Constructor.parameters]
    | false => simp [List.intercalate, Constructor.parameters, Constructor.arguments]
  rw [baseSource, baseSourceWith, defined, ← List.append_assoc]

/-- The header of the user class declares its constructor. -/
theorem userHeader_eq : v.userHeader = v.userHeaderWith v.userConstructor := by
  have declared : v.userConstructor.declaration v.basename (some v.name) =
      if v.isFixedInitialState then
        s!"        {v.basename}(std::string const& name = \"{v.name}\");"
      else s!"        {v.basename}(std::string const& name = \"{v.name}\", " ++
        "TaskCore::TaskState initial_state = Stopped);" := by
    apply String.toList_injective
    rw [userConstructor]
    split <;> simp [Constructor.declaration, toString]
  rw [userHeader, userHeaderWith, declared]

/-- The source file of the user class defines its constructor. -/
theorem userSource_eq : v.userSource = v.userSourceWith v.userConstructor := by
  have opened : v.userConstructor.heading v.basename (v.basename ++ "Base") =
      if v.isFixedInitialState then
        [s!"{v.basename}::{v.basename}(std::string const& name)", s!"    : {v.basename}Base(name)"]
      else
        [s!"{v.basename}::{v.basename}(std::string const& name, TaskCore::TaskState initial_state)",
          s!"    : {v.basename}Base(name, initial_state)"] := by
    rw [userConstructor]
    split
    all_goals
      simp only [Constructor.heading, List.cons.injEq, and_true]
      constructor
      all_goals
        apply String.toList_injective
        simp [Constructor.parameters, Constructor.arguments, toString]
  rw [userSource, userSourceWith, opened]

/-- All four constructors of a component are spelled as the pages show them. -/
theorem spellsConstructors : v.SpellsConstructors :=
  ⟨v.baseHeader_eq, v.baseSource_eq, v.userHeader_eq, v.userSource_eq⟩

/-- What a call of the user class hands on to the class that its base class derives from. -/
def handsOn (state : Option String) : Option (Option String) :=
  (Constructor.call [v.userConstructor] state).bind (Constructor.call v.baseConstructors)

/-- Where the initial state can be chosen, that of the call is handed on. -/
theorem handsOn_of_unfixed {v : ComponentView} (h : v.isFixedInitialState = false)
    (state : Option String) :
    v.handsOn state = some (some (state.getD "Stopped")) := by
  cases state <;>
    simp [handsOn, Constructor.call, Constructor.accepts, Constructor.passesOn, userConstructor,
      baseConstructors, h]

/-- Where the initial state is fixed, a component that derives from no other hands one on if
configuration is required. -/
theorem handsOn_of_fixed {v : ComponentView} (h : v.isFixedInitialState = true) : v.handsOn none =
    some (if !v.isDerived && v.isConfigurationRequired then some "TaskCore::PreOperational"
      else none) := by
  cases hr : !v.isDerived && v.isConfigurationRequired <;>
    simp [handsOn, Constructor.call, Constructor.accepts, Constructor.passesOn, userConstructor,
      baseConstructors, h, hr]

end ComponentView

/-- What the framework class gets when the first of some classes, each of which derives from the
next, is called with a state or with none. There is no answer if a call on the way fits no
constructor. -/
def frameworkState : List ComponentView → Option String → Option (Option String)
  | [], state => some state
  | v :: ancestors, state => (v.handsOn state).bind (frameworkState ancestors)

end Generation

/-- The initial state that a component without ancestors hands to the framework class by default. -/
def Interface.initialState (i : Interface) : Option String :=
  if i.needsConfiguration then some "TaskCore::PreOperational" else if i.fixesInitialState then none
    else some "Stopped"

/-- The initial state is the one before the configuration if a component says that it needs one. -/
theorem Interface.initialState_eq_preOperational {i : Interface} :
    i.initialState = some "TaskCore::PreOperational" ↔ i.needsConfiguration = true := by
  unfold initialState
  split
  · simp [*]
  · split <;> simp [*]

namespace Lineage

variable {l : Lineage} {c s : ComponentId}

/-- The component from which the chain of a component starts. -/
def root (l : Lineage) (c : ComponentId) : ComponentId :=
  (l.ancestors c).getLast?.getD c

/-- A component with a superclass has the root of it. -/
theorem root_of_superclass (h : l.superclass? c = some s) : l.root c = l.root s := by
  rw [root, ancestors_of_superclass h, List.getLast?_cons]
  rfl

/-- A component without a superclass is its own root. -/
theorem root_of_none (h : l.superclass? c = none) : l.root c = c := by
  rw [root, ancestors_of_none h]
  rfl

/-- The superclass in the lineage is the one of the interface. -/
theorem superclass?_eq (l : Lineage) (c : ComponentId) :
    l.superclass? c = (l.interface c).superclass := by
  rw [superclass?, interface]
  cases l.interface? c <;> rfl

/-- The interfaces of a chain are those of the superclass and then the own one. -/
theorem chainInterfaces_of_superclass (h : l.superclass? c = some s) :
    l.chainInterfaces c = l.chainInterfaces s ++ [l.interface c] := by
  rw [chainInterfaces, chain, ancestors_of_superclass h, List.reverse_cons, List.map_append]
  rfl

/-- The only interface of a chain without a superclass is the own one. -/
theorem chainInterfaces_of_none (h : l.superclass? c = none) :
    l.chainInterfaces c = [l.interface c] := by
  rw [chainInterfaces, chain, ancestors_of_none h]
  rfl

/-- Where the initial state of a component can be chosen, so can that of the one it derives from. -/
theorem isFixedInitialState_of_superclass (h : l.superclass? c = some s)
    (unfixed : l.isFixedInitialState c = false) :
    l.isFixedInitialState s = false := by
  rw [isFixedInitialState, chainInterfaces_of_superclass h, List.any_append,
    Bool.or_eq_false_iff] at unfixed
  exact unfixed.1

/-- Where the initial state can be chosen, it is by default that in which a component is stopped. -/
theorem initialState_root_of_unfixed (unfixed : l.isFixedInitialState c = false) :
    (l.interface (l.root c)).initialState = some "Stopped" := by
  induction c using superclass_induction l with
  | base c h =>
    simp [isFixedInitialState, chainInterfaces_of_none h] at unfixed
    simp [root_of_none h, Interface.initialState, unfixed]
  | derived c s h ih =>
    rw [root_of_superclass h]
    exact ih (isFixedInitialState_of_superclass h unfixed)

end Lineage

namespace Generation

section Calls

variable (s : Store) (base : ComponentId → BaseClass) (user : ComponentId → UserClass)

/-- The view of a component is derived if the component has a superclass. -/
theorem isDerived_componentView (s : Store) (c : ComponentId) (base : BaseClass)
    (user : UserClass) :
    (componentView s c base user).isDerived = (s.lineage.superclass? c).isSome := by
  rw [Lineage.superclass?_eq, Store.lineage, Components.interface_lineage]
  rfl

/-- What the framework class gets when a component is called, as the pages of the component and its
ancestors have it. -/
def stateOfCall (c : ComponentId) (state : Option String) : Option (Option String) :=
  frameworkState ((c :: s.lineage.ancestors c).map
    fun a => componentView s a (base a) (user a)) state

variable {s base user}
variable {c d : ComponentId} {state : Option String}

/-- A state that is handed to a component with a superclass goes on to the constructor of that
one. -/
theorem stateOfCall_of_superclass (h : s.lineage.superclass? c = some d) :
    stateOfCall s base user c state =
    ((componentView s c (base c) (user c)).handsOn state).bind (stateOfCall s base user d) := by
  rw [stateOfCall, Lineage.ancestors_of_superclass h]
  rfl

/-- A state that is handed to a component without a superclass goes to the framework. -/
theorem stateOfCall_of_none (h : s.lineage.superclass? c = none) :
    stateOfCall s base user c state = (componentView s c (base c) (user c)).handsOn state := by
  rw [stateOfCall, Lineage.ancestors_of_none h]
  simp [frameworkState]

/-- Where the initial state can be chosen, the framework class gets that of the call. -/
theorem stateOfCall_of_unfixed (unfixed : s.lineage.isFixedInitialState c = false) :
    stateOfCall s base user c state = some (some (state.getD "Stopped")) := by
  induction c using Lineage.superclass_induction s.lineage generalizing state with
  | base c h => rw [stateOfCall_of_none h, ComponentView.handsOn_of_unfixed unfixed]
  | derived c d h ih =>
    rw [stateOfCall_of_superclass h, ComponentView.handsOn_of_unfixed unfixed, Option.bind_some,
      ih (Lineage.isFixedInitialState_of_superclass h unfixed), Option.getD_some]

/-- Where the initial state is fixed, a component without ancestors hands on its own. -/
theorem stateOfCall_of_fixed_root (fixed : s.lineage.isFixedInitialState c = true)
    (h : s.lineage.superclass? c = none) :
    stateOfCall s base user c none = some (s.lineage.interface c).initialState := by
  have own : (s.lineage.interface c).fixesInitialState = true ∨
      (s.lineage.interface c).needsConfiguration = true := by
    simpa [Lineage.isFixedInitialState, Lineage.chainInterfaces_of_none h] using fixed
  have required : (componentView s c (base c) (user c)).isConfigurationRequired =
      (s.lineage.interface c).needsConfiguration := by
    simp [componentView, Lineage.isConfigurationRequired, Lineage.chainInterfaces_of_none h]
  rw [stateOfCall_of_none h, ComponentView.handsOn_of_fixed fixed, isDerived_componentView, h,
    required, Interface.initialState]
  cases needs : (s.lineage.interface c).needsConfiguration with
  | true => rfl
  | false =>
    have fixes := own.resolve_right (Bool.eq_false_iff.1 needs)
    simp [fixes]

/-- By default the framework class gets the initial state of the component from which the chain
starts. -/
theorem stateOfCall_default :
    stateOfCall s base user c none =
      some (s.lineage.interface (s.lineage.root c)).initialState := by
  induction c using Lineage.superclass_induction s.lineage with
  | base c h =>
    cases fixed : s.lineage.isFixedInitialState c with
    | false =>
      rw [stateOfCall_of_unfixed fixed, Lineage.initialState_root_of_unfixed fixed,
        Option.getD_none]
    | true => rw [stateOfCall_of_fixed_root fixed h, Lineage.root_of_none h]
  | derived c d h ih =>
    cases fixed : s.lineage.isFixedInitialState c with
    -- The default of the component itself is handed on by all its ancestors.
    | false =>
      rw [stateOfCall_of_unfixed fixed, Lineage.initialState_root_of_unfixed fixed,
        Option.getD_none]
    -- No state is handed on, so the component that it derives from falls back on its own default.
    | true =>
      rw [stateOfCall_of_superclass h, ComponentView.handsOn_of_fixed fixed,
        isDerived_componentView, h, Lineage.root_of_superclass h]
      exact ih

end Calls

/-- The pages of components spell their constructors, by which the framework class gets from a
component that is constructed by default the initial state of the component from which its chain
starts. It is the state in which a component waits for its configuration exactly if that component
itself is declared to need one, whichever others are. -/
theorem defaultState_of_root (s : Store) (base : ComponentId → BaseClass)
    (user : ComponentId → UserClass) (c : ComponentId) :
    (∀ a, (componentView s a (base a) (user a)).SpellsConstructors) ∧
      stateOfCall s base user c none = some (s.lineage.interface (s.lineage.root c)).initialState ∧
      (stateOfCall s base user c none = some (some "TaskCore::PreOperational") ↔
        (s.lineage.interface (s.lineage.root c)).needsConfiguration = true) := by
  refine ⟨fun a => ComponentView.spellsConstructors _, stateOfCall_default, ?_⟩
  rw [stateOfCall_default, Option.some_inj, Interface.initialState_eq_preOperational]

/-- A component is declared, and one that derives from it. Only the second one is declared to need
configuration. -/
def requiredBelow : List Call :=
  [.newProject "tasks" ⟨"/", []⟩ ⟨0⟩ none none,
    .declare (.declareComponent ⟨0⟩ "A" .framework none),
    .declare (.declareComponent ⟨0⟩ "B" (.given ⟨0⟩) none),
    .declare (.needConfiguration ⟨1⟩)]

/-- The framework class is not told that the second component waits for its configuration. -/
theorem defaultState_of_root_requiredBelow :
    (Call.runAll requiredBelow {}).lineage.isConfigurationRequired ⟨1⟩ = true ∧
      ∀ base user, stateOfCall (Call.runAll requiredBelow {}) base user ⟨1⟩ none =
        some (some "Stopped") := by
  have derives : (Call.runAll requiredBelow {}).lineage.superclass? ⟨1⟩ = some ⟨0⟩ := by
    decide +kernel
  have first : (Call.runAll requiredBelow {}).lineage.superclass? ⟨0⟩ = none := by decide +kernel
  have required : ((Call.runAll requiredBelow {}).lineage.interface ⟨1⟩).needsConfiguration =
      true := by
    decide +kernel
  have state :
      ((Call.runAll requiredBelow {}).lineage.interface ⟨0⟩).initialState = some "Stopped" := by
    decide +kernel
  refine ⟨?_, fun base user => ?_⟩
  · simp [Lineage.isConfigurationRequired, Lineage.chainInterfaces_of_superclass derives, required]
  · rw [(defaultState_of_root _ base user ⟨1⟩).2.1, Lineage.root_of_superclass derives,
      Lineage.root_of_none first, state]

end Generation

end Componentry
