import Componentry.Proofs.Keeping
import Componentry.Proofs.Replaying

/-!
# What declarations in a component uphold

Declarations in a component look types up, give the component members, and change what it declared
before without another member name or a type that was not looked up. An invariant that such steps
keep is kept by all declarations in the component, and by the replay of its description.
-/

namespace Componentry

open Declares

namespace Interface

/-- The names of the members that the component itself declares. -/
def memberNames (i : Interface) : List String :=
  i.members.map (·.name)

/-- Whether a member that the component itself declares exposes a type. -/
def Exposes (i : Interface) (type : String) : Prop :=
  ∃ m ∈ i.members, type ∈ m.usedTypes

/-- Whether an interface differs from another one neither in its name and project nor in the names
of its members, and exposes no further types than known ones. -/
structure Retyped (known : String → Prop) (i j : Interface) : Prop where
  name : j.name = i.name
  project : j.project = i.project
  names : j.memberNames = i.memberNames
  types : ∀ type, j.Exposes type → i.Exposes type ∨ known type

/-- A change that leaves the members as they are. -/
theorem Retyped.of_members {known : String → Prop} {i j : Interface} (name : j.name = i.name)
    (project : j.project = i.project) (members : j.members = i.members) : Retyped known i j := by
  refine ⟨name, project, ?_, fun type h => .inl ?_⟩
  · rw [memberNames, members, memberNames]
  · rwa [Exposes, members] at h

/-- The types that an interface exposes, kind of member by kind of member. -/
theorem exposes_iff {i : Interface} {type : String} :
    i.Exposes type ↔ (∃ o ∈ i.operations, type ∈ o.usedTypes) ∨
      (∃ s ∈ i.properties, type = s.typeName) ∨
      (∃ s ∈ i.attributes, type = s.typeName) ∨ (∃ p ∈ i.ports, type ∈ p.usedTypes) ∨
        ∃ p ∈ i.dynamicPorts, type ∈ p.usedTypes := by
  simp [Exposes, members, or_and_right, exists_or, Member.usedTypes]

/-- Ports are changed that keep their names and types. -/
theorem Retyped.mapPorts (known : String → Prop) (i : Interface) {f : Port → Port}
    (hf : ∀ p, (f p).name = p.name ∧ (f p).typeName = p.typeName) :
    Retyped known i { i with ports := i.ports.map f } := by
  have types (p : Port) : (f p).usedTypes = p.usedTypes := by
    rw [Port.usedTypes, (hf p).2, Port.usedTypes]
  refine ⟨rfl, rfl, ?_, fun type h => .inl ?_⟩
  · simp [memberNames, members, Member.name, hf]
  · simpa [exposes_iff, types] using h

/-- Operations are changed that keep their names and expose no further types than known ones. -/
theorem Retyped.mapOperations {known : String → Prop} (i : Interface) {f : Operation → Operation}
    (name : ∀ o, (f o).name = o.name)
    (types : ∀ o, ∀ type ∈ (f o).usedTypes, type ∈ o.usedTypes ∨ known type) :
    Retyped known i { i with operations := i.operations.map f } := by
  refine ⟨rfl, rfl, ?_, fun type h => ?_⟩
  · simp [memberNames, members, Member.name, name]
  · rw [exposes_iff] at h ⊢
    rcases h with ⟨o, ho, used⟩ | h
    · obtain ⟨o, mem, rfl⟩ := List.mem_map.1 ho
      exact (types o type used).imp_left fun used => .inl ⟨o, mem, used⟩
    · exact .inl (.inr h)

/-- A member that is declared comes to the others. -/
theorem members_withMember (i : Interface) (m : Member)
    (declarable : ∀ name doc, m ≠ .plain name doc) :
    (i.withMember m).members.Perm (m :: i.members) := by
  have comes (m : Member) (front back : List Member) (before : i.members = front ++ back)
      (after : (i.withMember m).members = front ++ m :: back) :
      (i.withMember m).members.Perm (m :: i.members) := by
    rw [before, after]
    exact List.perm_middle
  let operations := i.operations.map Member.operation
  let properties := i.properties.map Member.property
  let attributes := i.attributes.map Member.attribute
  let ports := i.ports.map Member.port
  let dynamicPorts := i.dynamicPorts.map Member.port
  match m, declarable with
  | .operation o, _ =>
    exact comes _ operations (properties ++ attributes ++ ports ++ dynamicPorts)
      (by simp [members]; rfl) (by simp [members, withMember]; rfl)
  | .property s, _ =>
    exact comes _ (operations ++ properties) (attributes ++ ports ++ dynamicPorts)
      (by simp [members]; rfl) (by simp [members, withMember]; rfl)
  | .attribute s, _ =>
    exact comes _ (operations ++ properties ++ attributes) (ports ++ dynamicPorts)
      (by simp [members]; rfl) (by simp [members, withMember]; rfl)
  | .port p, _ =>
    cases hp : p.isDynamic with
    | false =>
      exact comes _ (operations ++ properties ++ attributes ++ ports) dynamicPorts
        (by simp [members]; rfl) (by simp [members, withMember, hp]; rfl)
    | true =>
      exact comes _ i.members [] (by simp) (by simp [members, withMember, hp])
  | .plain name doc, declarable => exact absurd rfl (declarable name doc)

end Interface

/-- The state in which a component has one more member. -/
def ComponentId.withMember (c : ComponentId) (m : Member) (s : Store) : Store :=
  { s with components := s.components.modify c fun k =>
      { k with interface := k.interface.withMember m } }

/-- The state in which a component is changed. -/
def ComponentId.changed (c : ComponentId) (f : Component → Component) (s : Store) : Store :=
  { s with components := s.components.modify c f }

/-- Whether looking up a type from a component keeps an invariant, and what is found is known. -/
def ComponentId.Finds (c : ComponentId) (I : Store → Prop) (R : Fault → Prop)
    (known : Store → String → Prop) (type : TypeRef) : Prop :=
  Keeps I (fun fault => R fault ∨ ∃ name, fault = .typeNotFound name) (c.findType type)
    fun t s => known s t.name

/-- A type that a member may have is looked up. -/
theorem ComponentId.Finds.toplevelType {c : ComponentId} {I : Store → Prop} {R : Fault → Prop}
    {known : Store → String → Prop} {type : TypeRef} (h : c.Finds I R known type) :
    Keeps I R (c.toplevelType type) fun name s => known s name := by
  refine (h.mono (fun _ _ _ found => found) fun _ => .inl).bind_of fun t s hs ht => ends_bind.2 ?_
  exact Work.ends_ofExcept.2 ⟨fun _ _ => ⟨hs, ht⟩, fun _ _ _ => hs⟩

/-- A declaration that needs an open project only. -/
theorem ComponentId.keeps_open (c : ComponentId) {I : Store → Prop} {R : Fault → Prop}
    {x : Work PUnit} (hx : Keeps I R x fun _ _ => True) :
    Keeps I R (do
      c.checkMutable
      x) fun _ _ => True := by
  intro s hs
  refine ends_bind.2 ((c.ends_checkMutable s).mono ?_ ?_)
  · rintro _ t ⟨rfl, -⟩
    exact hx _ hs
  · rintro _ t ⟨rfl, -⟩ -
    exact hs

/-- Whether an operation belongs to a component, or to none. -/
def OperationRef.In (c : ComponentId) : OperationRef → Prop
  | .owned d _ => d = c
  | .free _ => True

/-- The operation that is declared is given. -/
theorem ComponentId.ends_addOperation (c : ComponentId) (o : Operation) (s : Store) :
    Ends (c.addOperation o) s (fun r _ => r.In c) fun _ _ => True :=
  ends_bind.2 ((ends_trivial _ s).mono (fun _ _ _ => rfl) fun _ _ _ => trivial)

/-- What an invariant has to satisfy if declarations in a component are to keep it: types may be
looked up, members may be declared under names of a kind with types that were found, and what was
declared before may be changed. After the faults that count as recoverable it holds as well. -/
structure Upheld (c : ComponentId) (I : Store → Prop) (R : Fault → Prop)
    (known : Store → String → Prop) (named : String → Prop) : Prop where
  settled : ∀ s, I s → declaring.holds s
  finds : ∀ name, c.Finds I R known (.named name)
  pointer : ∀ s name target header, I s →
    Ends ((s.interface c).project.declareOpaque name target [header] false) s (fun _ t => I t)
      fun fault t => R fault → I t
  member : ∀ s m, I s → (∀ name doc, m ≠ .plain name doc) → c.Declarable m.name s → named m.name →
    (∀ type ∈ m.usedTypes, known s type) → I (c.withMember m s)
  change : ∀ s (f : Component → Component), I s →
    (∀ k : Component, k.interface.Retyped (known s) (f k).interface) → I (c.changed f s)
  free : ∀ s (operations : List Operation), I s → I { s with freeOperations := operations }

namespace Upheld

variable {c : ComponentId} {I : Store → Prop} {R : Fault → Prop} {known : Store → String → Prop}
  {named : String → Prop} (h : Upheld c I R known named)

include h

/-- A member is declared after its name was checked and its type was looked up. -/
theorem checked {γ δ : Type} {name : String} (hname : named name) {lookup : Work δ}
    (typing : typing.Covers lookup) {m : δ → Member}
    (known : Keeps I R lookup fun b s => ∀ type ∈ (m b).usedTypes, known s type)
    (hm : ∀ b, (m b).name = name ∧ ∀ n doc, m b ≠ .plain n doc) {f : δ → Interface → Interface}
    (hf : ∀ b i, f b i = i.withMember (m b)) (result : δ → γ) :
    Keeps I R (do
      c.checkDeclarable name
      let b ← lookup
      Work.modifyInterface c (f b)
      return result b) fun _ _ => True := by
  intro s hs
  refine ends_bind.2 ((c.ends_checkDeclarable name s).mono ?_ ?_)
  · rintro _ s ⟨rfl, declarable⟩
    refine ends_bind.2 (((typing _ (h.settled _ hs)).and (known _ hs)).mono ?_
      fun _ _ ⟨_, recovered⟩ => recovered)
    rintro b t ⟨⟨-, looked⟩, ht, types⟩
    have added := h.member t (m b) ht (hm b).2 (by rw [(hm b).1]; exact declarable.mono looked)
      (by rwa [(hm b).1]) types
    have same : f b = fun i => i.withMember (m b) := funext (hf b)
    rw [same]
    exact ⟨added, trivial⟩
  · rintro _ t ⟨rfl, -⟩ -
    exact hs

/-- A member is declared whose types were looked up before. -/
theorem ends_atOnce {γ : Type} {m : Member} {s : Store} (hs : I s) (hname : named m.name)
    (hm : ∀ n doc, m ≠ .plain n doc) (types : ∀ type ∈ m.usedTypes, known s type)
    {f : Interface → Interface} (hf : ∀ i, f i = i.withMember m) (result : γ) :
    Ends (do
      c.checkDeclarable m.name
      Work.modifyInterface c f
      return result) s (fun _ t => I t ∧ True) fun fault t => R fault → I t := by
  refine ends_bind.2 ((c.ends_checkDeclarable m.name s).mono ?_ ?_)
  · rintro _ t ⟨rfl, declarable⟩
    have same : f = fun i => i.withMember m := funext hf
    rw [same]
    exact ⟨h.member _ m hs hm declarable hname types, trivial⟩
  · rintro _ t ⟨rfl, -⟩ -
    exact hs

/-- A port that is not made while the component runs, and whose type was looked up. -/
theorem ends_addPort {p : Port} {s : Store} (hs : I s) (hname : named p.name)
    (static : p.isDynamic = false) (types : ∀ type ∈ p.usedTypes, known s type) :
    Ends (c.addPort p) s (fun _ t => I t ∧ True) fun fault t => R fault → I t :=
  h.ends_atOnce (m := .port p) hs hname (by simp) types
    (fun i => by simp [Interface.withMember, static]) p

section Typed

variable {name : String} (hname : named name) {type : TypeRef} (lookup : c.Finds I R known type)

include hname lookup

/-- An input port is declared. -/
theorem declareInput (doc : Option String) (clearOnStart : Bool) :
    Keeps I R (c.declareInput name type doc clearOnStart) fun _ _ => True := by
  refine lookup.toplevelType.bind_of fun typeName s hs found => ?_
  exact h.ends_addPort hs hname rfl (by simpa [Port.usedTypes] using fun _ => found)

/-- An output port is declared. -/
theorem declareOutput (doc : Option String) (keep : Scalar) :
    Keeps I R (c.declareOutput name type doc keep) fun _ _ => True := by
  refine lookup.toplevelType.bind_of fun typeName s hs found => ends_bind.2 ?_
  refine Work.ends_ofExcept.2 ⟨fun retention _ => ?_, fun _ _ _ => hs⟩
  exact h.ends_addPort hs hname rfl (by simpa [Port.usedTypes] using fun _ => found)

/-- A property is declared. -/
theorem declareProperty (default : Scalar) (doc : Option String) :
    Keeps I R (c.declareProperty name type default doc) fun _ _ => True :=
  h.checked hname (c.typing_toplevelType type)
    (m := fun typeName => .property { name, doc, typeName, default })
    (lookup.toplevelType.mono (fun _ _ _ found => by simpa [Member.usedTypes] using found)
      fun _ h => h)
    (fun _ => ⟨rfl, by simp⟩) (fun _ _ => rfl) _

/-- An attribute is declared. -/
theorem declareAttribute (default : Scalar) (doc : Option String) :
    Keeps I R (c.declareAttribute name type default doc) fun _ _ => True :=
  h.checked hname (c.typing_toplevelType type)
    (m := fun typeName => .attribute { name, doc, typeName, default })
    (lookup.toplevelType.mono (fun _ _ _ found => by simpa [Member.usedTypes] using found)
      fun _ h => h)
    (fun _ => ⟨rfl, by simp⟩) (fun _ _ => rfl) _

/-- A template for ports of one type is declared. -/
theorem declareDynamicTyped (direction : Direction) (doc : Option String) :
    Keeps I R (c.declareDynamic direction name (some type) doc) fun _ _ => True :=
  h.checked hname (Effect.Covers.map (c.typing_toplevelType type))
    (m := fun typeName => .port { name, doc, direction, typeName, isDynamic := true })
    (lookup.toplevelType.map
      fun _ _ found => by simpa [Member.usedTypes, Port.usedTypes] using fun _ => found)
    (fun _ => ⟨rfl, by simp⟩) (fun _ _ => rfl) _

end Typed

/-- A template for ports of any type is declared, under a name that may be used for it. -/
theorem declareDynamicUntyped {name : String} (hname : named name) (direction : Direction)
    (doc : Option String) :
    Keeps I R (c.declareDynamic direction name none doc) fun _ _ => True :=
  fun _ hs => h.ends_atOnce
    (m := .port { name, doc, direction, typeName := none, isDynamic := true }) hs hname (by simp)
    (by simp [Member.usedTypes, Port.usedTypes]) (fun _ => rfl) _

/-- An operation is declared without arguments and result. -/
theorem addOperation {o : Operation} (hname : named o.name)
    (bare : o.arguments = [] ∧ o.returnType = none) :
    Keeps I R (c.addOperation o) fun _ _ => True :=
  fun _ hs => h.ends_atOnce (m := .operation o) hs hname (by simp)
    (by simp [Member.usedTypes, Operation.usedTypes, bare.1, bare.2]) (fun _ => rfl)
    (OperationRef.owned c o.name)

/-- A change that leaves the members of the component as they are. -/
private theorem modify_ {f : Component → Component}
    (hf : ∀ k, (f k).interface.name = k.interface.name ∧ (f k).interface.project =
        k.interface.project ∧ (f k).interface.members = k.interface.members) :
    Keeps I R (modify (c.changed f) : Work PUnit) fun _ _ => True :=
  keeps_modify fun s hs => h.change s f hs fun k => .of_members (hf k).1 (hf k).2.1 (hf k).2.2

/-- The initial state is fixed. -/
theorem fixInitialState : Keeps I R c.fixInitialState fun _ _ => True :=
  c.keeps_open (h.modify_ fun _ => ⟨rfl, rfl, rfl⟩)

/-- The need of a configuration is declared. -/
theorem needConfiguration : Keeps I R c.needConfiguration fun _ _ => True :=
  c.keeps_open (h.modify_ fun _ => ⟨rfl, rfl, rfl⟩)

/-- Code for a hook is added. -/
theorem addHookCode (hook : String) (code : Code) :
    Keeps I R (c.addHookCode hook code) fun _ _ => True :=
  c.keeps_open fun s hs => ends_bind.2 <| Work.ends_ofExcept.2
    ⟨fun _ _ => ⟨h.change s _ hs fun _ => .of_members rfl rfl rfl, trivial⟩, fun _ _ _ => hs⟩

/-- Code for the header is added. -/
theorem addHeaderCode (snippet : Snippet) : Keeps I R (c.addHeaderCode snippet) fun _ _ => True :=
  c.keeps_open (h.modify_ fun _ => ⟨rfl, rfl, rfl⟩)

/-- Code for the implementation is added. -/
theorem addImplementationCode (snippet : Snippet) :
    Keeps I R (c.addImplementationCode snippet) fun _ _ => True :=
  c.keeps_open (h.modify_ fun _ => ⟨rfl, rfl, rfl⟩)

/-- A handler is added. -/
theorem addHandler (handler : Handler) : Keeps I R (c.addHandler handler) fun _ _ => True :=
  c.keeps_open (h.modify_ fun _ => ⟨rfl, rfl, rfl⟩)

/-- An extension is added. -/
theorem addExtension (extension : ComponentExtension) :
    Keeps I R (c.addExtension extension) fun _ _ => True := by
  have added :
      Keeps I R (Work.modifyCode c fun a => { a with extensions := a.extensions ++ [extension] })
      fun _ _ => True := h.modify_ fun _ => ⟨rfl, rfl, rfl⟩
  refine c.keeps_open (keeps_get.bind fun _ => Keeps.ite (fun _ => ?_) fun _ => added)
  exact Keeps.bind (Q := fun _ _ => True) (keeps_throw _) fun _ => added

/-- A port becomes a trigger. -/
theorem triggerBy (name : String) : Keeps I R (c.triggerBy name) fun _ _ => True := by
  intro s hs
  refine ends_bind.2 (ends_ite.2 ⟨fun _ => ⟨h.change s _ hs fun k => ?_, trivial⟩, fun _ _ => hs⟩)
  refine .mapPorts _ k.interface fun p => ?_
  split <;> exact ⟨rfl, rfl⟩

/-- The ports of a list become triggers. -/
theorem portDriven (names : List String) : Keeps I R (c.portDriven names) fun _ _ => True :=
  c.keeps_open (keeps_get.bind fun _ => keeps_forM fun name _ => h.triggerBy name)

/-- An operation is changed, and exposes no further types than known ones. -/
theorem ends_update {r : OperationRef} (hr : r.In c) {f : Operation → Operation} {s : Store}
    (hs : I s) (types : ∀ o, ∀ type ∈ (f o).usedTypes, type ∈ o.usedTypes ∨ known s type) :
    Ends (r.update f) s (fun _ t => I t ∧ True) fun fault t => R fault → I t := by
  cases r with
  | free index => exact ⟨h.free s _ hs, trivial⟩
  | owned d name =>
    obtain rfl : d = c := hr
    refine ⟨h.change s _ hs fun k => .mapOperations k.interface (fun o => ?_) fun o type used => ?_,
      trivial⟩
    · split <;> rfl
    · split at used
      · exact types o type used
      · exact .inl used

/-- The type of an argument or result is looked up if the operation belongs to the component. -/
theorem resolveType {r : OperationRef} (hr : r.In c) (type : String) :
    Keeps I R (r.resolveType type) fun name s => (∃ index, r = .free index) ∨ known s name := by
  cases r with
  | free index => exact keeps_pure fun _ _ => .inl ⟨index, rfl⟩
  | owned d name =>
    obtain rfl : d = c := hr
    have found := (h.finds type).mono (fun _ _ _ found => found) fun _ => .inl
    exact found.bind_of fun t s hs ht => ⟨hs, .inr ht⟩

/-- An argument is added to an operation of the component. -/
theorem addArgument {r : OperationRef} (hr : r.In c) (name type : String) (doc : Option String) :
    Keeps I R (r.addArgument name type doc) fun _ _ => True := by
  refine (h.resolveType hr type).bind_of fun typeName s hs found => ?_
  rcases found with ⟨index, rfl⟩ | found
  · exact ⟨h.free s _ hs, trivial⟩
  · refine h.ends_update hr hs fun o type used => ?_
    simp only [Operation.usedTypes, Operation.withArgument, NameSet.mem_ofList] at used ⊢
    grind

/-- The type that an operation of the component returns is set. -/
theorem setReturn {r : OperationRef} (hr : r.In c) (type : Option String) :
    Keeps I R (r.setReturn type) fun _ _ => True := by
  cases type with
  | none =>
    refine fun s hs => h.ends_update hr hs fun o type used => .inl ?_
    simp only [Operation.usedTypes, NameSet.mem_ofList] at used ⊢
    grind
  | some type =>
    refine Keeps.bind_of (Keeps.map
      (P := fun name? s => ∃ name, name? = some name ∧ ((∃ index, r = .free index) ∨ known s name))
      (h.resolveType hr type) fun name s found => ⟨name, rfl, found⟩) fun name? s hs found => ?_
    obtain ⟨typeName, rfl, ⟨index, rfl⟩ | found⟩ := found
    · exact ⟨h.free s _ hs, trivial⟩
    · refine h.ends_update hr hs fun o type used => ?_
      simp only [Operation.usedTypes, NameSet.mem_ofList] at used ⊢
      grind

/-- A change of an operation that leaves its arguments and result as they are. -/
theorem update {r : OperationRef} (hr : r.In c) {f : Operation → Operation}
    (hf : ∀ o, (f o).arguments = o.arguments ∧ (f o).returnType = o.returnType) :
    Keeps I R (r.update f) fun _ _ => True := by
  refine fun s hs => h.ends_update hr hs fun o type used => .inl ?_
  rwa [Operation.usedTypes, (hf o).1, (hf o).2] at used

/-- A pointer type that is not found is declared as an opaque type. -/
theorem pointerType (pointer : Pointer) {type : TypeRef} (lookup : c.Finds I R known type) :
    Keeps I R (c.pointerType pointer type) fun _ _ => True := by
  refine (lookup.mono (fun _ _ _ found => found) fun _ => .inl).bind fun target => ?_
  have found (name : String) : c.Finds I R known (.named name) := h.finds name
  refine Keeps.tryCatch ((found _).bind fun _ => keeps_pure fun _ _ => trivial) (fun fault hf => ?_)
    (fun fault hf => ?_) fun _ => .inl
  · split
    · intro s hs
      refine ends_bind.2
        (ends_bind.2 ((h.pointer s _ _ _ hs).mono (fun _ t ht => ?_) fun _ _ h => h))
      refine (Keeps.bind ((found _).mono (fun _ _ _ found => found) fun _ => .inl) fun _ => ?_) t ht
      exact keeps_pure fun _ _ => trivial
    · exact keeps_throw _
  · split
    · rename_i name
      exact absurd (.inr ⟨name, rfl⟩) hf
    · rfl

/-- The operation of a description is declared, argument by argument. -/
theorem replayOperation (hnamed : ∀ name, named name) (d : Description.Operation) :
    Keeps I R (c.replayOperation d) fun _ _ => True := by
  have added (o : Operation) (bare : o.arguments = [] ∧ o.returnType = none) :
      Keeps I R (c.addOperation o) fun r _ => r.In c :=
    fun s hs => ((h.addOperation (hnamed o.name) bare s hs).and (c.ends_addOperation o s)).mono
      (fun _ _ ⟨⟨ht, _⟩, hr⟩ => ⟨ht, hr⟩) fun _ _ h => h.1
  have described (r : OperationRef) (hr : r.In c) : Keeps I R (do
      d.arguments.forM fun a => r.addArgument a.name a.type a.doc
      r.setReturn d.returns
      if d.callerThread then r.runInCallerThread) fun _ _ => True := by
    refine (keeps_forM fun a _ => h.addArgument hr _ _ _).bind fun _ =>
      (h.setReturn hr _).bind fun _ => ?_
    exact Keeps.ite (fun _ => h.update hr fun _ => ⟨rfl, rfl⟩) fun _ =>
      keeps_pure fun _ _ => trivial
  refine Keeps.ite (fun _ => (added _ ⟨rfl, rfl⟩).bind_of fun r s hs hr => described r hr s hs)
    fun _ => ?_
  refine (added _ ⟨rfl, rfl⟩).bind_of fun r s hs hr => ?_
  have hidden : Keeps I R (r.setHidden d.hidden) fun _ _ => True := h.update hr fun _ => ⟨rfl, rfl⟩
  have body : Keeps I R (r.setBody d.body) fun _ _ => True := h.update hr fun _ => ⟨rfl, rfl⟩
  exact (hidden.bind fun _ => body.bind fun _ => described r hr) s hs

/-- The triggers of a description are declared. -/
theorem replayTriggers (d : Description.Triggers) :
    Keeps I R (c.replayTriggers d) fun _ _ => True := by
  cases d with
  | all on =>
    cases on with
    | true => exact h.portDriven []
    | false => exact keeps_pure fun _ _ => trivial
  | named ports =>
    exact Keeps.ite (fun _ => keeps_pure fun _ _ => trivial) fun _ => h.portDriven ports

/-- The members of a description are declared one after the other. -/
theorem replay (hnamed : ∀ name, named name) (d : Description.Component) :
    Keeps I R (c.replay d) fun _ _ => True := by
  have refused {α : Type} (items : List α) (fault : Fault) :
      Keeps I R (items.forM fun _ => (throw fault : Work PUnit)) fun _ _ => True :=
    keeps_forM fun _ _ => keeps_throw fault
  have portType (type : String) (pointer : Option Pointer) :
      Keeps I R (c.portType type pointer) fun t _ => ∃ name, t = .named name := by
    cases pointer with
    | none => exact keeps_pure fun _ _ => ⟨type, rfl⟩
    | some pointer =>
      exact (h.pointerType pointer (h.finds type)).bind fun name =>
        keeps_pure fun _ _ => ⟨name, rfl⟩
  have members : Keeps I R (do
      d.properties.forM fun s => discard (c.declareProperty s.name (.named s.type) s.default s.doc)
      d.attributes.forM fun s => discard (c.declareAttribute s.name (.named s.type) s.default s.doc)
      d.inputPorts.forM fun p => do
        discard (c.declareInput p.name (← c.portType p.type p.pointer) p.doc p.clearOnStart)
      d.outputPorts.forM fun p => do
        discard (c.declareOutput p.name (← c.portType p.type p.pointer) p.doc
          (.text p.retention.word))
      d.dynamicInputPorts.forM fun p =>
        discard (c.declareDynamic .input p.name (p.type.map .named) p.doc)
      d.dynamicOutputPorts.forM fun p =>
        discard (c.declareDynamic .output p.name (p.type.map .named) p.doc)
      c.replayTriggers d.portDriven
      d.operations.forM c.replayOperation
      d.hooks.forM fun hook => hook.2.forM fun statement => c.addHookCode hook.1 (.text statement))
        fun _ _ => True := by
    have discarded {α : Type} {x : Work α} (hx : Keeps I R x fun _ _ => True) :
        Keeps I R (discard x) fun _ _ => True :=
      hx.map fun _ _ _ => trivial
    have dynamic (direction : Direction) (name : String) (type : Option String)
        (doc : Option String) :
        Keeps I R (c.declareDynamic direction name (type.map .named) doc) fun _ _ => True := by
      cases type with
      | none => exact h.declareDynamicUntyped (hnamed name) direction doc
      | some type => exact h.declareDynamicTyped (hnamed name) (h.finds type) direction doc
    refine (keeps_forM fun s _ => discarded (h.declareProperty (hnamed _) (h.finds _) _ _)).bind
      fun _ => ?_
    refine (keeps_forM fun s _ => discarded (h.declareAttribute (hnamed _) (h.finds _) _ _)).bind
      fun _ => ?_
    refine (keeps_forM fun p _ => (portType _ _).bind_of ?_).bind fun _ => ?_
    · rintro t s hs ⟨name, rfl⟩
      exact discarded (h.declareInput (hnamed _) (h.finds _) _ _) s hs
    refine (keeps_forM fun p _ => (portType _ _).bind_of ?_).bind fun _ => ?_
    · rintro t s hs ⟨name, rfl⟩
      exact discarded (h.declareOutput (hnamed _) (h.finds _) _ _) s hs
    refine (keeps_forM fun p _ => discarded (dynamic _ _ _ _)).bind fun _ => ?_
    refine (keeps_forM fun p _ => discarded (dynamic _ _ _ _)).bind fun _ => ?_
    refine (h.replayTriggers _).bind fun _ =>
      (keeps_forM fun o _ => h.replayOperation hnamed o).bind fun _ => ?_
    exact keeps_forM fun hook _ => keeps_forM fun statement _ => h.addHookCode _ _
  have configured : Keeps I R (do
      if d.needsConfiguration then c.needConfiguration
      _) fun _ _ => True :=
    Keeps.ite (fun _ => h.needConfiguration.bind fun _ => members) fun _ => members
  refine (refused _ _).bind fun _ => (refused _ _).bind fun _ => ?_
  exact Keeps.ite (fun _ => h.fixInitialState.bind fun _ => configured) fun _ => configured

end Upheld

end Componentry
