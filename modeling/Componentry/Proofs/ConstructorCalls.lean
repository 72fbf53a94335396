import Componentry.Proofs.InitialStates

/-!
# Constructor calls of generated classes

Four pages of a component depend on whether its initial state can be chosen: the header and the
source file of its base class, and those of its user class. Each source file defines what its header
declares, and each constructor calls one of another class: that of the base class where it stands in
the user class, and that of the component that it derives from, or of the framework class, where it
stands in the base class. All calls are accepted there, since the initial state can be chosen in a
component only if it can be chosen in all of its ancestors.
-/

namespace Componentry

/-- Where the initial state of a component can be chosen, so can those of all its ancestors. -/
theorem Lineage.isFixedInitialState_of_mem_ancestors {l : Lineage} {c a : ComponentId}
    (unfixed : l.isFixedInitialState c = false) (h : a ∈ l.ancestors c) :
    l.isFixedInitialState a = false := by
  induction c using superclass_induction l with
  | base c none =>
    rw [ancestors_of_none none] at h
    cases h
  | derived c s derives ih =>
    have inherited := isFixedInitialState_of_superclass derives unfixed
    rw [ancestors_of_superclass derives, List.mem_cons] at h
    rcases h with rfl | h
    · exact inherited
    · exact ih inherited h

namespace Generation

namespace Constructor

/-- The state that a constructor passes on, as it is spelled there. -/
def argument (k : Constructor) : Option String :=
  match k.passed with
  | .nothing => none
  | .parameter => some "initial_state"
  | .constant state => some state

/-- The arguments of a constructor call are the name and what is passed behind it. -/
theorem arguments_eq (k : Constructor) :
    k.arguments = (k.argument.map ("name, " ++ ·)).getD "name" := by
  rw [arguments, argument]
  cases k.passed <;> rfl

/-- The line of a header that declares a constructor with the parameters with which it is
defined. -/
def prototype (k : Constructor) (className : String) : String :=
  s!"        {className}({k.parameters});"

/-- A constructor without a default is declared as it is defined. -/
theorem declaration_eq {k : Constructor} (required : k.default = none) (className : String) :
    k.declaration className none = k.prototype className := by
  apply String.toList_injective
  rw [declaration, prototype, parameters, required]
  cases k.takesState <;> simp [toString]

/-- Whether a constructor calls exactly one of the constructors of a class. If it passes on a
parameter as a state, it has one. -/
structure Calls (k : Constructor) (called : List Constructor) : Prop where
  accepted : ∃! d, d ∈ called ∧ d.accepts k.argument = true
  hasParameter : k.passed = .parameter → k.takesState = true

/-- A call that the only constructor of a class accepts. -/
theorem calls_singleton {k d : Constructor} (accepts : d.accepts k.argument = true)
    (hasParameter : k.passed = .parameter → k.takesState = true) : k.Calls [d] := by
  refine ⟨⟨d, ⟨List.mem_singleton_self d, accepts⟩, ?_⟩, hasParameter⟩
  intro other h
  exact List.mem_singleton.1 h.1

end Constructor

/-- The constructor of the framework class, which takes a state or none. -/
def frameworkConstructor : Constructor :=
  { takesState := true, default := some "Stopped", passed := .nothing }

/-- The constructor of the framework accepts a state as well as none. -/
theorem frameworkConstructor_accepts (state : Option String) :
    frameworkConstructor.accepts state = true := by
  cases state <;> rfl

namespace ComponentView

variable {v : ComponentView} {k : Constructor}

/-- The base class has a constructor that takes a name, and one that also takes a state where that
can be chosen. -/
theorem mem_baseConstructors : k ∈ v.baseConstructors ↔
    k = { takesState := false
          passed := if !v.isDerived && v.isConfigurationRequired then
            .constant "TaskCore::PreOperational" else .nothing } ∨
      v.isFixedInitialState = false ∧ k = { takesState := true, passed := .parameter } := by
  rw [baseConstructors, List.mem_cons]
  cases v.isFixedInitialState <;> simp

/-- The constructors of a base class have no defaults. -/
theorem default_of_baseConstructors (mem : k ∈ v.baseConstructors) : k.default = none := by
  rcases mem_baseConstructors.1 mem with rfl | ⟨-, rfl⟩ <;> rfl

/-- A constructor of a base class that passes its parameter on takes a state. -/
theorem hasParameter_of_baseConstructors (mem : k ∈ v.baseConstructors) :
    k.passed = .parameter → k.takesState = true := by
  rcases mem_baseConstructors.1 mem with rfl | ⟨-, rfl⟩
  · cases h : !v.isDerived && v.isConfigurationRequired <;> simp
  · exact fun _ => rfl

/-- The base class takes states exactly where the initial state can be chosen. -/
theorem exists_takesState :
    (∃ k ∈ v.baseConstructors, k.takesState = true) ↔ v.isFixedInitialState = false := by
  constructor
  · rintro ⟨k, mem, takes⟩
    rcases mem_baseConstructors.1 mem with rfl | ⟨unfixed, -⟩
    · cases takes
    · exact unfixed
  · intro unfixed
    exact ⟨_, mem_baseConstructors.2 (.inr ⟨unfixed, rfl⟩), rfl⟩

/-- A component that derives from another one passes on a state only where the initial state can be
chosen. -/
theorem unfixed_of_argument (derived : v.isDerived = true) (mem : k ∈ v.baseConstructors)
    (passes : k.argument.isSome = true) : v.isFixedInitialState = false := by
  rcases mem_baseConstructors.1 mem with rfl | ⟨unfixed, -⟩
  · simp [derived, Constructor.argument] at passes
  · exact unfixed

/-- The constructor of the user takes a state unless it is fixed. -/
theorem takesState_userConstructor :
    v.userConstructor.takesState = true ↔ v.isFixedInitialState = false := by
  rw [userConstructor]
  cases v.isFixedInitialState <;> simp

/-- The user class may always be called without a state, and with one where the initial state can be
chosen. -/
theorem userConstructor_accepts {state : Option String}
    (h : state.isSome = true → v.isFixedInitialState = false) :
    v.userConstructor.accepts state = true := by
  rw [userConstructor, Constructor.accepts]
  cases state with
  | none => cases v.isFixedInitialState <;> rfl
  | some state => simp [h rfl]

/-- The user class calls a constructor of the base class. -/
theorem calls_userConstructor : v.userConstructor.Calls v.baseConstructors := by
  cases fixed : v.isFixedInitialState with
  | true =>
    constructor
    · simp only [userConstructor, baseConstructors, fixed, if_true, List.mem_singleton]
      exact ⟨_, ⟨rfl, rfl⟩, fun _ h => h.1⟩
    · simp [userConstructor, fixed]
  | false =>
    constructor
    · simp [userConstructor, baseConstructors, fixed, Constructor.argument, Constructor.accepts,
        ExistsUnique]
    · simp [userConstructor, fixed]

end ComponentView

section Agreement

variable (s : Store) (base : ComponentId → BaseClass) (user : ComponentId → UserClass)

/-- What the pages of a component show, given the parts of the classes of all components. -/
def viewOf (c : ComponentId) : ComponentView :=
  componentView s c (base c) (user c)

/-- The class that the base class of a component derives from: its name, and the constructors that
its header declares. -/
def calledClass (c : ComponentId) : String × List Constructor :=
  match s.lineage.superclass? c with
  | some d => ((viewOf s base user d).name, [(viewOf s base user d).userConstructor])
  | none => (frameworkClass, [frameworkConstructor])

/-- How the pages of a component agree on constructors. -/
structure ConstructorsAgree (c : ComponentId) : Prop where
  /-- Each page spells the constructors of its class. -/
  pages : (viewOf s base user c).SpellsConstructors
  /-- The base class declares its constructors with the parameters with which it defines them. -/
  declared : ∀ k ∈ (viewOf s base user c).baseConstructors,
    k.declaration ((viewOf s base user c).basename ++ "Base") none =
      k.prototype ((viewOf s base user c).basename ++ "Base")
  /-- What a constructor passes on is the name, and its argument if it has one. -/
  arguments :
    ∀ k ∈ (viewOf s base user c).userConstructor :: (viewOf s base user c).baseConstructors,
    k.arguments = (k.argument.map ("name, " ++ ·)).getD "name"
  called : (viewOf s base user c).superclassName = (calledClass s base user c).1
  baseCalls : ∀ k ∈ (viewOf s base user c).baseConstructors, k.Calls (calledClass s base user c).2
  userCalls : (viewOf s base user c).userConstructor.Calls (viewOf s base user c).baseConstructors

variable {s base user} {c d : ComponentId}

/-- The class whose constructor is called is the superclass in the view. -/
theorem superclassName_viewOf :
    (viewOf s base user c).superclassName = (calledClass s base user c).1 := by
  change s.lineage.superclassName c = _
  rw [Lineage.superclassName, calledClass]
  cases s.lineage.superclass? c with
  | none => rfl
  | some d => exact congrArg Interface.name (Components.interface_lineage s.components d)

/-- The base class of a component calls a constructor of the class that it derives from. -/
theorem calls_baseConstructors {k : Constructor}
    (mem : k ∈ (viewOf s base user c).baseConstructors) :
    k.Calls (calledClass s base user c).2 := by
  have hasParameter := ComponentView.hasParameter_of_baseConstructors mem
  rw [calledClass]
  cases derives : s.lineage.superclass? c with
  | none => exact Constructor.calls_singleton (frameworkConstructor_accepts _) hasParameter
  | some d =>
    have derived : (viewOf s base user c).isDerived = true := by
      rw [viewOf, isDerived_componentView, derives]
      rfl
    refine Constructor.calls_singleton
      (ComponentView.userConstructor_accepts fun passes => ?_) hasParameter
    exact Lineage.isFixedInitialState_of_superclass derives
      (ComponentView.unfixed_of_argument derived mem passes)

end Agreement

/-- Whatever the components of a chain declare of their initial states, the pages of each agree on
constructors: what the source file of a base class defines is what its header declares, and each
constructor of a base class or a user class calls one that the header of the class called declares.
A component of which a class takes a state derives only from components of which both classes do. -/
theorem constructors_agree (s : Store) (base : ComponentId → BaseClass)
    (user : ComponentId → UserClass) (c : ComponentId) :
    ConstructorsAgree s base user c ∧ ∀ a ∈ s.lineage.ancestors c,
      ConstructorsAgree s base user a ∧
      ∀ k ∈ (viewOf s base user c).userConstructor :: (viewOf s base user c).baseConstructors,
        k.takesState = true → (viewOf s base user a).userConstructor.takesState = true ∧
          ∃ m ∈ (viewOf s base user a).baseConstructors, m.takesState = true := by
  have agree (c : ComponentId) : ConstructorsAgree s base user c :=
    { pages := ComponentView.spellsConstructors _
      declared := fun k mem =>
        Constructor.declaration_eq (ComponentView.default_of_baseConstructors mem) _
      arguments := fun k _ => k.arguments_eq
      called := superclassName_viewOf
      baseCalls := fun k mem => calls_baseConstructors mem
      userCalls := ComponentView.calls_userConstructor }
  refine ⟨agree c, fun a ha => ⟨agree a, fun k mem takes => ?_⟩⟩
  have unfixed : s.lineage.isFixedInitialState c = false := by
    rcases List.mem_cons.1 mem with rfl | mem
    · exact ComponentView.takesState_userConstructor.1 takes
    · exact ComponentView.exists_takesState.1 ⟨k, mem, takes⟩
  have inherited : s.lineage.isFixedInitialState a = false :=
    Lineage.isFixedInitialState_of_mem_ancestors unfixed ha
  exact ⟨ComponentView.takesState_userConstructor.2 inherited,
    ComponentView.exists_takesState.2 inherited⟩

/-- Three components are declared, each deriving from the one before. The initial state of the last
one is fixed. -/
def fixedBelow : List Call :=
  [.newProject "tasks" ⟨"/", []⟩ ⟨0⟩ none none,
    .declare (.declareComponent ⟨0⟩ "A" .framework none),
    .declare (.declareComponent ⟨0⟩ "B" (.given ⟨0⟩) none),
    .declare (.declareComponent ⟨0⟩ "C" (.given ⟨1⟩) none),
    .declare (.fixInitialState ⟨2⟩)]

/-- The classes of the last component take no state, but call one that does, as do the classes that
this one derives from. -/
theorem constructors_agree_fixedBelow :
    let s := Call.runAll fixedBelow {}
    s.lineage.superclass? ⟨2⟩ = some ⟨1⟩ ∧ s.lineage.isFixedInitialState ⟨2⟩ = true ∧
      ⟨0⟩ ∈ s.lineage.ancestors ⟨1⟩ ∧
      ∀ base user, ConstructorsAgree s base user ⟨2⟩ ∧
        (viewOf s base user ⟨1⟩).userConstructor.takesState = true ∧
        (viewOf s base user ⟨0⟩).userConstructor.takesState = true := by
  intro s
  have derives : s.lineage.superclass? ⟨2⟩ = some ⟨1⟩ := by decide +kernel
  have before : s.lineage.superclass? ⟨1⟩ = some ⟨0⟩ := by decide +kernel
  have first : s.lineage.superclass? ⟨0⟩ = none := by decide +kernel
  have last : (s.lineage.interface ⟨2⟩).fixesInitialState = true := by decide +kernel
  have others :
      ∀ c ∈ [(⟨0⟩ : ComponentId), ⟨1⟩], (s.lineage.interface c).fixesInitialState = false ∧
      (s.lineage.interface c).needsConfiguration = false := by decide +kernel
  have fixed : s.lineage.isFixedInitialState ⟨2⟩ = true := by
    simp [Lineage.isFixedInitialState, Lineage.chainInterfaces_of_superclass derives, last]
  have unfixed : s.lineage.isFixedInitialState ⟨1⟩ = false := by
    simp [Lineage.isFixedInitialState, Lineage.chainInterfaces_of_superclass before,
      Lineage.chainInterfaces_of_none first, others]
  have ancestor : ⟨0⟩ ∈ s.lineage.ancestors ⟨1⟩ := by
    rw [Lineage.ancestors_of_superclass before]
    exact List.mem_cons_self
  refine ⟨derives, fixed, ancestor, fun base user => ⟨(constructors_agree s base user ⟨2⟩).1, ?_⟩⟩
  have takes : (viewOf s base user ⟨1⟩).userConstructor.takesState = true :=
    ComponentView.takesState_userConstructor.2 unfixed
  have inherited := (constructors_agree s base user ⟨1⟩).2 ⟨0⟩ ancestor
  exact ⟨takes, (inherited.2 _ List.mem_cons_self takes).1⟩

end Generation

end Componentry
