import Componentry.Proofs.GeneratedMethods

/-!
# Parts of generated base classes

The base class of a component declares and sets up a data member for each of its members but dynamic
ports, and then what extensions and generation handlers ask for. Its methods are those that serve
its operations and those that are asked for. The statements of a hook are those of members,
extensions and handlers, followed by those that were added to the component, and code outside of the
class is that of extensions and handlers, followed by that which was added. Nothing of it is lost,
repeated or moved on the way; only code without text is left out.
-/

namespace Componentry

open Declares

/-- The text of a piece of code, if there is any. -/
def Code.text? (l : Lineage) (width : Nat) (code : Code) : Option String :=
  (code.render l width).toOption.filter (· ≠ "")

/-- Whether a piece of code can be rendered does not depend on how far it is indented. -/
theorem Code.exists_render_iff {l : Lineage} {width : Nat} {code : Code} :
    (∃ text, code.render l width = .ok text) ↔ ∃ text, code.content l = .ok text := by
  rw [render]
  exact exists_bind_pure_ok_iff

/-- Code that was rendered gives its text, if it is not empty. -/
theorem Code.text?_of_ok {l : Lineage} {width : Nat} {code : Code} {text : String}
    (h : code.render l width = .ok text) :
    code.text? l width = if text = "" then none else some text := by
  simp [Code.text?, h, Except.toOption, Option.filter]

/-- The texts of the snippets that stand before the class, or of those that stand after it. -/
def Snippet.texts (l : Lineage) (before : Bool) (snippets : List Snippet) : List String :=
  (snippets.filter (·.before = before)).filterMap (·.code.text? l 0)

/-- Whether a record declares the data member for a member. -/
def Member.IsDeclaredBy : Member → DeclarationRecord → Prop
  | .port p, r => ∃ type, p.typeName = some type ∧
      r = ⟨p.recordKind, p.fieldName, s!"{p.frameworkClass}< {Typename.cxxName type} >", none⟩
  | .property s, r =>
    r = ⟨"property", s.fieldName, s!"RTT::Property< {Typename.cxxName s.typeName} >", none⟩
  | .attribute s, r =>
    r = ⟨"attribute", s.fieldName, s!"RTT::Attribute< {Typename.cxxName s.typeName} >", none⟩
  | .operation o, r => ∃ numeric : List Bool, numeric.length = o.arguments.length ∧
      r = ⟨"operation", o.fieldName, s!"RTT::Operation< {o.signature numeric} >", none⟩
  | .plain .., _ => False

/-- The record that sets up the data member for a property or attribute, from its initializer, the
statements that set its default value and the statement that registers it. -/
def Setting.construction (s : Setting) (kind initializer : String) (defaults : List String)
    (registration : String) :
    ConstructionRecord where
  kind := kind
  fieldName := s.fieldName
  initializer := .text initializer
  setUp := .text (Text.joined "\n" (defaults ++ [registration]))

/-- Whether records set up the data member for a member. -/
def Member.IsSetUpBy (i : Interface) : Member → List ConstructionRecord → Prop
  | .port p, rs => rs = if p.isDynamic then [] else p.constructions
  | .property s, rs => ∃ defaults, s.defaultSetup = .ok defaults ∧
      rs = [s.construction "property" s!"{s.fieldName}(\"{s.name}\", {docLiteral s.doc})" defaults
        s!"properties()->addProperty( {s.fieldName} );"]
  | .attribute s, rs => ∃ defaults, s.defaultSetup = .ok defaults ∧
      rs = [s.construction "attribute" s!"{s.fieldName}(\"{s.name}\")" defaults
        s!"attributes()->addAttribute( {s.fieldName} );"]
  | .operation o, rs =>
      let thread := if o.runsInCallerThread then "RTT::ClientThread" else "RTT::OwnThread"
      rs = [{
        kind := "operation"
        fieldName := o.fieldName
        initializer :=
          .text s!"{o.fieldName}(\"{o.name}\", &{i.basename}Base::{o.methodName}, this, {thread})"
        setUp := .text o.registration }]
  | .plain .., rs => rs = []

/-- The statements for hooks that a member asks for: an input port may have to be cleared at the
start. -/
def Member.hookRecords : Member → List HookRecord
  | .port p =>
    if p.isInput && p.clearOnStart && !p.isDynamic then
      [⟨.start, .text s!"{p.fieldName}.clear();"⟩] else []
  | _ => []

namespace Interface

/-- The members for which a component has data members, in the order of these. -/
def declaredMembers (i : Interface) : List Member :=
  i.implicitOperations.map .operation ++ i.members.filter (·.dataMember?.isSome)

/-- The code that the operations of every component need. -/
def implicitCode (i : Interface) : List Snippet :=
  if i.superclass.isSome then [] else [Generation.threadIdInclude]

variable {i : Interface}

/-- A member contributes its data member and what sets it up, its statements for hooks, and no code
outside of the class. -/
theorem Contributes.parts {m : Member} {k : Contribution} (h : i.Contributes m k) :
    List.Forall₂ Member.IsDeclaredBy ([m].filter (·.dataMember?.isSome)) k.declarations ∧
      m.IsSetUpBy i k.constructions ∧ k.hooks = m.hookRecords ∧ k.headerCode = [] ∧
        k.implementationCode = [] := by
  match m, h with
  | .port p, h =>
    rw [Contributes, Port.contribution] at h
    split at h
    · rename_i dynamic
      cases h
      simp [Member.dataMember?, Member.hookRecords, Member.IsSetUpBy, dynamic, Contribution.empty]
    · rename_i static
      split at h
      · cases h
      · rename_i type named
        cases h
        simp [Member.dataMember?, Member.hookRecords, Member.IsDeclaredBy, Member.IsSetUpBy,
          static, named]
  | .property s, h | .attribute s, h =>
    obtain ⟨defaults, ofDefault, made⟩ := of_bind_ok h
    cases made
    exact ⟨.cons rfl .nil, ⟨defaults, ofDefault, rfl⟩, rfl, rfl, rfl⟩
  | .plain .., h =>
    cases h
    simp [Member.dataMember?, Member.hookRecords, Member.IsSetUpBy, Contribution.empty]
  | .operation o, h =>
    obtain ⟨numeric, length, made⟩ := h
    rw [Operation.contribution] at made
    split at made
    · cases made
    · cases made
      simpa [Member.dataMember?, Member.hookRecords, Member.IsDeclaredBy, Member.IsSetUpBy,
        Contribution.withMethods] using ⟨numeric, length, rfl⟩

/-- The members of a component contribute their data members and what sets them up, their statements
for hooks, and no code outside of the class. -/
theorem parts_of_forall₂ {ms : List Member} {ks : List Contribution}
    (h : List.Forall₂ i.Contributes ms ks) :
    List.Forall₂ Member.IsDeclaredBy (ms.filter (·.dataMember?.isSome))
      (ks.flatMap (·.declarations)) ∧
      List.Forall₂ (Member.IsSetUpBy i) ms (ks.map (·.constructions)) ∧
      ks.flatMap (·.hooks) = ms.flatMap (·.hookRecords) ∧ ks.flatMap (·.headerCode) = [] ∧
      ks.flatMap (·.implementationCode) = [] := by
  induction h with
  | nil => simp
  | @cons m k ms ks made _ ih =>
    obtain ⟨declarations, constructions, hooks, header, implementation⟩ := made.parts
    obtain ⟨declarations', constructions', hooks', header', implementation'⟩ := ih
    refine ⟨?_, .cons constructions constructions', ?_, ?_, ?_⟩
    · rw [List.flatMap_cons, ← List.singleton_append, List.filter_append]
      exact List.rel_append declarations declarations'
    · rw [List.flatMap_cons, hooks, hooks', List.flatMap_cons]
    · rw [List.flatMap_cons, header, header', List.append_nil]
    · rw [List.flatMap_cons, implementation, implementation', List.append_nil]

/-- What every component contributes declares and sets up the operations that every component has,
with the code that they need. -/
theorem parts_of_implicitContribution {k : Contribution}
    (h : Generation.implicitContribution i = .ok k) :
    List.Forall₂ Member.IsDeclaredBy (i.implicitOperations.map .operation) k.declarations ∧
      List.Forall₂ (Member.IsSetUpBy i) (i.implicitOperations.map .operation)
        (k.constructions.map ([·])) ∧
      k.hooks = [] ∧ k.headerCode = [] ∧ k.implementationCode = i.implicitCode := by
  rw [Generation.implicitContribution] at h
  rw [implicitOperations, implicitCode]
  split at h
  · rename_i derived
    cases h
    simp [derived]
  · rename_i underived
    cases h
    rw [if_neg underived, if_neg underived]
    exact ⟨.cons ⟨[], rfl, rfl⟩ (.cons ⟨[], rfl, rfl⟩ .nil), .cons rfl (.cons rfl .nil), rfl,
      rfl, rfl⟩

end Interface

namespace Generation

section Rendering

variable {l : Lineage}

/-- Pieces of code are rendered in their order, and what has no text is left out. -/
theorem of_rendered {width : Nat} {codes : List Code} {texts : List String}
    (h : rendered l width codes = .ok texts) :
    (∀ code ∈ codes, ∃ text, code.render l width = .ok text) ∧
      texts = codes.filterMap (·.text? l width) := by
  obtain ⟨all, each, h⟩ := of_bind_ok h
  cases h
  refine ⟨fun code mem => ?_, ?_⟩
  · obtain ⟨text, -, made⟩ := (mem_of_mapM_ok each).1 code mem
    exact ⟨text, made⟩
  · replace each := mapM_eq_ok_iff.1 each
    clear h
    induction each with
    | nil => rfl
    | cons made _ ih =>
      rw [List.filter_cons, ih, List.filterMap_cons, Code.text?_of_ok made]
      split <;> simp_all

/-- How data members are set up: the records are rendered in their order, each part of them once. -/
structure Constructs (l : Lineage) (records : List ConstructionRecord) (b : BaseClass) : Prop where
  rendered : ∀ r ∈ records, (∃ text, r.initializer.render l 0 = .ok text) ∧
    (∃ text, r.setUp.render l 4 = .ok text) ∧ ∃ text, r.tearDown.render l 4 = .ok text
  initializers : b.initializers = records.filterMap (·.initializer.text? l 0)
  setUp : b.setUp = records.filterMap (·.setUp.text? l 4)
  tearDown : b.tearDown = records.filterMap (·.tearDown.text? l 4)

/-- Constructions that were rendered give their initializers, set-ups and tear-downs in order. -/
theorem of_constructed {records : List ConstructionRecord}
    {initializers setUp tearDown : List String}
    (h : constructed l records = .ok (initializers, setUp, tearDown)) :
    (∀ r ∈ records, (∃ text, r.initializer.render l 0 = .ok text) ∧
      (∃ text, r.setUp.render l 4 = .ok text) ∧ ∃ text, r.tearDown.render l 4 = .ok text) ∧
    initializers = records.filterMap (·.initializer.text? l 0) ∧
      setUp = records.filterMap (·.setUp.text? l 4) ∧
    tearDown = records.filterMap (·.tearDown.text? l 4) := by
  induction records generalizing initializers setUp tearDown with
  | nil =>
    cases h
    exact ⟨List.forall_mem_nil _, rfl, rfl, rfl⟩
  | cons r records ih =>
    have cons (code : ConstructionRecord → Code) (width : Nat) :
        (r :: records).filterMap (fun r => (code r).text? l width) =
          [code r].filterMap (·.text? l width) ++ records.filterMap fun r =>
          (code r).text? l width := by
      rw [← List.singleton_append, List.filterMap_append]
      rfl
    rw [constructed] at h
    obtain ⟨_, ofInitializer, h⟩ := of_bind_ok h
    obtain ⟨_, ofSetUp, h⟩ := of_bind_ok h
    obtain ⟨_, ofTearDown, h⟩ := of_bind_ok h
    obtain ⟨_, others, h⟩ := of_bind_ok h
    cases h
    obtain ⟨initializer, rfl⟩ := of_rendered ofInitializer
    obtain ⟨setUp, rfl⟩ := of_rendered ofSetUp
    obtain ⟨tearDown, rfl⟩ := of_rendered ofTearDown
    obtain ⟨each, initializers, setUps, tearDowns⟩ := ih others
    refine ⟨List.forall_mem_cons.2 ⟨⟨?_, ?_, ?_⟩, each⟩, ?_, ?_, ?_⟩
    · exact initializer _ List.mem_cons_self
    · exact setUp _ List.mem_cons_self
    · exact tearDown _ List.mem_cons_self
    · rw [cons (·.initializer), ← initializers]
    · rw [cons (·.setUp), ← setUps]
    · rw [cons (·.tearDown), ← tearDowns]

/-- Methods are declared in their order, and those with a body are defined. -/
theorem of_methodTexts {className : String} {methods : List MethodRecord}
    {declarations definitions : List String}
    (h : methodTexts l className methods = .ok (declarations, definitions)) :
    declarations = methods.map (·.declaration) ∧
      List.Forall₂ (fun m text => m.definition l className = .ok (some text))
        (methods.filter (·.body.isSome)) definitions := by
  obtain ⟨texts, each, h⟩ := of_bind_ok h
  cases h
  exact ⟨rfl, definitions_of_mapM each⟩

/-- How snippets are divided into those before a class and those after it. -/
structure Splits (l : Lineage) (snippets : List Snippet) (before after : List String) : Prop where
  rendered : ∀ snippet ∈ snippets, ∃ text, snippet.code.render l 0 = .ok text
  ofBefore : before = Snippet.texts l true snippets
  ofAfter : after = Snippet.texts l false snippets
  together : List.Perm (before ++ after) (snippets.filterMap (·.code.text? l 0))

/-- All texts stand before the class or after it. -/
theorem texts_perm (l : Lineage) (snippets : List Snippet) :
    List.Perm (Snippet.texts l true snippets ++ Snippet.texts l false snippets)
      (snippets.filterMap (·.code.text? l 0)) := by
  rw [Snippet.texts, Snippet.texts, ← List.filterMap_append]
  refine List.Perm.filterMap _ ?_
  simpa using List.filter_append_perm (·.before) snippets

/-- The texts that stand on one side of the class are those of the snippets of that side. -/
theorem texts_of_forall₂ {snippets : List Snippet} {texts : List (Bool × String)} (side : Bool)
    (h : List.Forall₂ (fun snippet text => snippet.code.render l 0 = .ok text.2 ∧
        text.1 = snippet.before) snippets texts) :
    ((texts.filter (·.2 ≠ "")).filter (·.1 = side)).map (·.2) = Snippet.texts l side snippets := by
  induction h with
  | nil => rfl
  | @cons snippet text _ _ made _ ih =>
    obtain ⟨made, same⟩ := made
    rw [Snippet.texts] at ih ⊢
    have text? := Code.text?_of_ok made
    by_cases empty : text.2 = "" <;> by_cases here : snippet.before = side <;> simp_all

/-- Snippets that were rendered are split at the declarations. -/
theorem splits_of_snippetTexts {snippets : List Snippet} {before after : List String}
    (h : snippetTexts l snippets = .ok (before, after)) : Splits l snippets before after := by
  obtain ⟨texts, each, h⟩ := of_bind_ok h
  have made : List.Forall₂ (fun snippet text => snippet.code.render l 0 = .ok text.2 ∧
      text.1 = snippet.before) snippets texts := by
    refine (mapM_eq_ok_iff.1 each).imp fun snippet _ h => ?_
    obtain ⟨text, made, h⟩ := of_bind_ok h
    cases h
    exact ⟨made, rfl⟩
  have onBefore : before = Snippet.texts l true snippets := by
    rw [← texts_of_forall₂ true made]
    cases h
    simp
  have onAfter : after = Snippet.texts l false snippets := by
    rw [← texts_of_forall₂ false made]
    cases h
    simp
  refine ⟨fun snippet mem => ?_, onBefore, onAfter, ?_⟩
  · obtain ⟨_, -, h⟩ := (mem_of_mapM_ok each).1 snippet mem
    obtain ⟨text, made, -⟩ := of_bind_ok h
    exact ⟨text, made⟩
  · rw [onBefore, onAfter]
    exact texts_perm l snippets

/-- The statements of each hook are those of the contributions, then those that were added, and only
hooks without statements are left out. -/
theorem of_hookStatements {contributed : List HookRecord} {own : AddedCode}
    {hooks : List (Hook × List String)} (h : hookStatements l contributed own = .ok hooks)
    {codes : Hook → List Code}
    (hcodes : ∀ hook, codes hook = (contributed.filter (·.hook = hook)).map (·.code) ++
        own.statements hook) :
    (∀ hook, ∀ code ∈ codes hook, ∃ text, code.render l 4 = .ok text) ∧
      hooks = (Hook.all.map fun hook => (hook, (codes hook).filterMap (·.text? l 4))).filter
        fun (_, statements) => !statements.isEmpty := by
  obtain ⟨pairs, each, h⟩ := of_bind_ok h
  have made :
      List.Forall₂ (fun hook pair => (∀ code ∈ codes hook, ∃ text, code.render l 4 = .ok text) ∧
      (hook, (codes hook).filterMap (·.text? l 4)) = pair) Hook.all pairs := by
    refine (mapM_eq_ok_iff.1 each).imp fun hook _ h => ?_
    obtain ⟨texts, made, h⟩ := of_bind_ok h
    cases h
    rw [hcodes]
    obtain ⟨all, rfl⟩ := of_rendered made
    exact ⟨all, rfl⟩
  obtain ⟨all, same⟩ := (List.forall₂_and_left ..).1 made
  rw [← List.forall₂_map_left_iff (f := fun hook => (hook, (codes hook).filterMap (·.text? l 4))),
    List.forall₂_eq_eq_eq] at same
  cases h
  exact ⟨fun hook => all hook hook.mem_all, by rw [same]⟩

/-- The pieces of code that the base class is made from, given the records of code for hooks that
were added. -/
def pieces (k : Contribution) (added : List HookRecord) : List Code :=
  k.constructions.flatMap (fun r => [r.initializer, r.setUp, r.tearDown]) ++
    (k.hooks ++ added).map (·.code) ++
    k.baseMethods.filterMap (·.body) ++ (k.headerCode ++ k.implementationCode).map (·.code)

/-- Codes are rendered if the content of each is there. -/
theorem exists_rendered_iff {width : Nat} {codes : List Code} :
    (∃ texts, rendered l width codes = .ok texts) ↔
      ∀ code ∈ codes, ∃ text, code.content l = .ok text := by
  refine exists_bind_pure_ok_iff.trans ?_
  simp only [exists_mapM_ok_iff, Code.exists_render_iff]

/-- Constructions are rendered if the content of each of their parts is there. -/
theorem exists_constructed_iff {records : List ConstructionRecord} :
    (∃ parts, constructed l records = .ok parts) ↔
    ∀ r ∈ records, ∀ code ∈ [r.initializer, r.setUp, r.tearDown],
      ∃ text, code.content l = .ok text := by
  induction records with
  | nil => exact iff_of_true ⟨_, rfl⟩ (List.forall_mem_nil _)
  | cons r records ih =>
    rw [List.forall_mem_cons, ← ih, constructed]
    refine (exists_bind_ok_iff fun _ => exists_bind_ok_iff fun _ => exists_bind_ok_iff fun _ =>
      exists_bind_pure_ok_iff).trans ?_
    simp [exists_rendered_iff, and_assoc]

/-- Hooks are rendered if the content of each of their statements is there. -/
theorem exists_hookStatements_iff {contributed : List HookRecord} {own : AddedCode} :
    (∃ hooks, hookStatements l contributed own = .ok hooks) ↔
      ∀ r ∈ contributed ++ own.hooks, ∃ text, r.code.content l = .ok text := by
  refine exists_bind_pure_ok_iff.trans ?_
  rw [exists_mapM_ok_iff]
  have each (hook : Hook) : (∃ pair, (do
      let codes := (contributed.filter (·.hook = hook)).map (·.code) ++ own.statements hook
      return (hook, ← rendered l 4 codes)) = Except.ok pair) ↔
        ∀ r ∈ contributed ++ own.hooks, r.hook = hook → ∃ text, r.code.content l = .ok text := by
    refine exists_bind_pure_ok_iff.trans ?_
    rw [exists_rendered_iff, AddedCode.statements, ← List.map_append, ← List.filter_append,
      List.forall_mem_map]
    simp only [List.mem_filter, decide_eq_true_eq, and_imp]
  simp only [each]
  exact ⟨fun h r mem => h r.hook r.hook.mem_all r mem rfl, fun h hook _ r mem _ => h r mem⟩

/-- Methods are rendered if the content of each body is there. -/
theorem exists_methodTexts_iff {className : String} {methods : List MethodRecord} :
    (∃ texts, methodTexts l className methods = .ok texts) ↔
      ∀ code ∈ methods.filterMap (·.body), ∃ text, code.content l = .ok text := by
  refine exists_bind_pure_ok_iff.trans ?_
  have each (m : MethodRecord) : (∃ definition, m.definition l className = .ok definition) ↔
      ∀ code, m.body = some code → ∃ text, code.content l = .ok text := by
    rw [MethodRecord.definition]
    cases m.body with
    | none =>
      refine iff_of_true ⟨_, rfl⟩ fun code absent => ?_
      cases absent
    | some body =>
      refine exists_bind_pure_ok_iff.trans ?_
      simp [Code.exists_render_iff]
  simp only [exists_mapM_ok_iff, each, List.mem_filterMap]
  constructor
  · intro h code found
    obtain ⟨m, mem, body⟩ := found
    exact h m mem code body
  · intro h m mem code body
    exact h code ⟨m, mem, body⟩

/-- Snippets are rendered if the content of each is there. -/
theorem exists_snippetTexts_iff {snippets : List Snippet} :
    (∃ texts, snippetTexts l snippets = .ok texts) ↔
    ∀ snippet ∈ snippets, ∃ text, snippet.code.content l = .ok text := by
  refine exists_bind_pure_ok_iff.trans ?_
  rw [exists_mapM_ok_iff]
  refine forall₂_congr fun snippet _ => exists_bind_pure_ok_iff.trans ?_
  rw [Code.exists_render_iff]

end Rendering

/-- A base class is made exactly if the headers that it needs are found and each piece of code for
it can be rendered. -/
theorem exists_baseClass_iff {s : Store} {c : ComponentId} {k : Contribution} :
    (∃ b, baseClass s c k = .ok b) ↔ (∃ headers, includes s c = .ok headers) ∧
      ∀ code ∈ pieces k (s.component c).code.hooks, ∃ text, code.content s.lineage = .ok text := by
  refine (exists_bind_ok_iff
      fun _ => exists_bind_ok_iff fun _ => exists_bind_ok_iff fun _ => exists_bind_ok_iff fun _ =>
    exists_bind_ok_iff fun _ => exists_bind_pure_ok_iff).trans ?_
  rw [exists_constructed_iff, exists_hookStatements_iff, exists_methodTexts_iff,
    exists_snippetTexts_iff, exists_snippetTexts_iff, pieces]
  simp only [List.forall_mem_append, List.forall_mem_map, List.forall_mem_flatMap, and_assoc]

end Generation

namespace ComponentId

/-- The code for a hook: what the members, the extensions and the generation handlers of a component
ask for, and then what was added to it. -/
def hookCode (c : ComponentId) (s : Store) (hook : Hook) : List Code :=
  (((s.interface c).members.flatMap (·.hookRecords) ++ (c.plugged s).flatMap (·.hooks)).filter
    (·.hook = hook)).map (·.code) ++ (s.component c).code.statements hook

/-- How the parts of the base class of a component come from the component, its extensions and its
handlers. The methods are those that have been collected. -/
structure Assembles (c : ComponentId) (s : Store) (k : Contribution)
    (b : Generation.BaseClass) : Prop where
  plugins : c.PluginsSucceed s
  declarations :
    ∃ declared, List.Forall₂ Member.IsDeclaredBy (s.interface c).declaredMembers declared ∧
    b.declarations = (declared ++ (c.plugged s).flatMap (·.declarations)).map (·.render)
  constructions : ∃ records, List.Forall₂ (Member.IsSetUpBy (s.interface c))
      ((s.interface c).implicitOperations.map .operation ++ (s.interface c).members) records ∧
    Generation.Constructs s.lineage (records.flatten ++ (c.plugged s).flatMap (·.constructions)) b
  methods : ∃ served added, c.CollectsMethods s k served added
  methodDeclarations : b.methodDeclarations = k.baseMethods.map (·.declaration)
  methodDefinitions : List.Forall₂
    (fun m text => m.definition s.lineage ((s.interface c).basename ++ "Base") = .ok (some text))
    (k.baseMethods.filter (·.body.isSome)) b.methodDefinitions
  rendered : ∀ hook, ∀ code ∈ c.hookCode s hook, ∃ text, code.render s.lineage 4 = .ok text
  hooks : b.hooks = (Hook.all.map
    fun hook => (hook, (c.hookCode s hook).filterMap (·.text? s.lineage 4))).filter
    fun (_, statements) => !statements.isEmpty
  header : Generation.Splits s.lineage
    ((c.plugged s).flatMap (·.headerCode) ++ (s.component c).code.header)
    b.headerBefore b.headerAfter
  implementation : Generation.Splits s.lineage
    ((s.interface c).implicitCode ++ (c.plugged s).flatMap (·.implementationCode) ++
      (s.component c).code.implementation)
    b.implementationBefore b.implementationAfter

variable {c : ComponentId} {s t : Store} {k : Contribution} {b : Generation.BaseClass}

/-- The records of what has been collected, contribution by contribution. -/
theorem Collects.records {implicit : Contribution} {members : List Contribution}
    (h : c.Collects s implicit members k) :
    k.declarations = implicit.declarations ++ members.flatMap (·.declarations) ++
      (c.plugged s).flatMap (·.declarations) ∧
    k.constructions =
      implicit.constructions ++ members.flatMap (·.constructions) ++
        (c.plugged s).flatMap (·.constructions) ∧
    k.hooks = implicit.hooks ++ members.flatMap (·.hooks) ++ (c.plugged s).flatMap (·.hooks) ∧
    k.headerCode = implicit.headerCode ++ members.flatMap (·.headerCode) ++
      (c.plugged s).flatMap (·.headerCode) ++ (s.component c).code.header ∧
    k.implementationCode = implicit.implementationCode ++ members.flatMap (·.implementationCode) ++
      (c.plugged s).flatMap (·.implementationCode) ++ (s.component c).code.implementation := by
  rw [h.collected]
  simp [Generation.withPureVirtuals, gathered, Contribution.concat_eq, addedCode]

/-- The parts of a base class come from what has been collected. -/
theorem Collects.assembles {implicit : Contribution} {members : List Contribution}
    (h : c.Collects s implicit members k) (plugins : c.PluginsSucceed s)
    (components : t.components = s.components) (made : Generation.baseClass t c k = .ok b) :
    c.Assembles s k b := by
  have lineage : t.lineage = s.lineage := by rw [Store.lineage, components, Store.lineage]
  have component : t.component c = s.component c := by
    rw [Store.component, components, Store.component]
  have interface : t.interface c = s.interface c := congrArg Component.interface component
  obtain ⟨declarations, constructions, hooks, header, implementation⟩ := h.records
  obtain ⟨implicitDeclared, implicitSetUp, implicitHooks, implicitHeader, implicitCode⟩ :=
    Interface.parts_of_implicitContribution h.ofFramework
  obtain ⟨declared, memberSetUp, memberHooks, memberHeader, memberCode⟩ :=
    Interface.parts_of_forall₂ h.ofMembers
  rw [Generation.baseClass, lineage, component, interface] at made
  obtain ⟨includes, -, made⟩ := of_bind_ok made
  obtain ⟨constructed, ofConstructions, made⟩ := of_bind_ok made
  obtain ⟨statements, ofHooks, made⟩ := of_bind_ok made
  obtain ⟨methods, ofMethods, made⟩ := of_bind_ok made
  obtain ⟨headerTexts, ofHeader, made⟩ := of_bind_ok made
  obtain ⟨implementationTexts, ofImplementation, made⟩ := of_bind_ok made
  cases made
  have codes (hook : Hook) : c.hookCode s hook =
      (k.hooks.filter (·.hook = hook)).map (·.code) ++ (s.component c).code.statements hook := by
    rw [hooks, implicitHooks, memberHooks, List.nil_append, hookCode]
  obtain ⟨rendered, statements⟩ := Generation.of_hookStatements ofHooks codes
  rw [header, implicitHeader, memberHeader] at ofHeader
  rw [implementation, implicitCode, memberCode, List.append_nil] at ofImplementation
  obtain ⟨constructed, initializers, setUp, tearDown⟩ := Generation.of_constructed ofConstructions
  obtain ⟨methodDeclarations, methodDefinitions⟩ := Generation.of_methodTexts ofMethods
  refine ⟨plugins, ⟨_, List.rel_append implicitDeclared declared, ?_⟩,
    ⟨_, List.rel_append implicitSetUp memberSetUp, ?_⟩, h.methods, methodDeclarations,
    methodDefinitions, rendered, statements, Generation.splits_of_snippetTexts ofHeader,
    Generation.splits_of_snippetTexts ofImplementation⟩
  · exact congrArg _ declarations
  · have records : k.constructions =
        (implicit.constructions.map ([·]) ++ members.map (·.constructions)).flatten ++
        (c.plugged s).flatMap (·.constructions) := by
      rw [constructions, List.flatten_append, ← List.flatMap_def, ← List.flatMap_def]
      simp
    rw [← records]
    exact ⟨constructed, initializers, setUp, tearDown⟩

end ComponentId

/-- In every run, when the contributions to a component have been collected, its base class is made
from them unless a header is not found or a piece of code cannot be rendered. Its parts are then
those of the members, extensions and handlers of the component and those that were added to it, each
once and in order. -/
theorem baseClass_assembles (files : Files.Tree) (packageMaps : List PackageMap) (calls : List Call)
    {c : ComponentId} {k : Contribution} {t : Store}
    (collected : c.collect (Call.runAll calls { files, packageMaps }) = .ok k t) :
    ((∃ b, Generation.baseClass t c k = .ok b) ↔
      (∃ headers, Generation.includes t c = .ok headers) ∧
      ∀ code ∈ Generation.pieces k (t.component c).code.hooks,
        ∃ text, code.content t.lineage = .ok text) ∧
    ∀ b, Generation.baseClass t c k = .ok b →
      c.Assembles (Call.runAll calls { files, packageMaps }) k b := by
  obtain ⟨ready, -⟩ :=
    Call.evolves_runAll (settled_of_empty rfl : declaring.holds { files, packageMaps }) calls
  obtain ⟨components, plugins, implicit, members, collects⟩ :=
    (c.ends_collect_of ready).of_ok collected
  exact ⟨Generation.exists_baseClass_iff, fun b made => collects.assembles plugins components made⟩

/-- A component with an operation and a dynamic port, with code for a hook, of which one piece turns
out to be empty, and with an extension that has a data member to close and a method, and a
handler. -/
def extendedComponent : List Call :=
  [.newProject "tasks" ⟨"/", []⟩ ⟨0⟩ none none,
    .declare (.declareComponent ⟨0⟩ "A" .framework none),
    .declare (.declareDynamic ⟨0⟩ .input "more" none none),
    .declare (.declareOperation ⟨0⟩ "Go" none none),
    .declare (.addHookCode ⟨0⟩ "start" (.deferred fun _ => .ok none)),
    .declare (.addHookCode ⟨0⟩ "start" (.text "begin();")),
    .declare (.addHeaderCode ⟨0⟩ ⟨.text "#include <own>", true⟩),
    .declare (.addExtension ⟨0⟩ ⟨"log", fun _ _ => .ok {
      declarations := [⟨"log", "_log", "Log", none⟩]
      constructions := [{ kind := "log", fieldName := "_log", initializer := .text "_log(this)",
                          tearDown := .text "close();" }]
      hooks := [⟨.stop, .text "flush();"⟩, ⟨.start, .text "log();"⟩]
      baseMethods :=
        [{ returnType := "void", name := "flush", body := some (.text "    _log.flush();") }]
      headerCode := [⟨.text "extern Log log;", false⟩, ⟨.text "#include <log>", true⟩] }⟩),
    .declare (.addHandler ⟨0⟩ fun _ _ => .ok none)]

/-- The parts of the base class of the component. The first two parts of what is set up, declared
and defined are for the operations that every component has. -/
theorem baseClass_assembles_extendedComponent :
    ∃ k t b, ComponentId.collect ⟨0⟩ (Call.runAll extendedComponent {}) = .ok k t ∧
      Generation.baseClass t ⟨0⟩ k = .ok b ∧
      b.declarations = ["RTT::Operation< std::string() > _getModelName;",
        "RTT::Operation< int() > ___taskgen_getTID;",
        "RTT::Operation< void() > _Go;", "Log _log;"] ∧
      (b.initializers.drop 2 = ["_Go(\"Go\", &ABase::go, this, RTT::OwnThread)", "_log(this)"] ∧
        b.setUp.drop 2 = ["    provides()->addOperation( _Go)\n        .doc(\"\");"] ∧
        b.tearDown = ["    close();"]) ∧
      b.hooks = [(.start, ["    log();", "    begin();"]), (.stop, ["    flush();"])] ∧
      (b.methodDeclarations.drop 2 = ["virtual void flush();",
          "/* If the compiler issues an error at this point, it is probably that\n" ++
            " * you forgot to add the corresponding method to the tasks::A class.\n */\nvirtual void go() = 0;"] ∧
        b.methodDefinitions.drop 2 = ["void ABase::flush()\n\x7b\n    _log.flush();\n\x7d"]) ∧
      b.headerBefore = ["#include <log>", "#include <own>"] ∧ b.headerAfter = ["extern Log log;"] ∧
      ComponentId.Assembles ⟨0⟩ (Call.runAll extendedComponent {}) k b := by
  have ends :
      Ends (do let k ← ComponentId.collect ⟨0⟩; Work.ofExcept (Generation.baseClass (← get) ⟨0⟩ k))
      (Call.runAll extendedComponent {}) (fun b _ =>
        b.declarations = ["RTT::Operation< std::string() > _getModelName;",
          "RTT::Operation< int() > ___taskgen_getTID;",
          "RTT::Operation< void() > _Go;", "Log _log;"] ∧
        (b.initializers.drop 2 = ["_Go(\"Go\", &ABase::go, this, RTT::OwnThread)", "_log(this)"] ∧
          b.setUp.drop 2 = ["    provides()->addOperation( _Go)\n        .doc(\"\");"] ∧
          b.tearDown = ["    close();"]) ∧
        b.hooks = [(.start, ["    log();", "    begin();"]), (.stop, ["    flush();"])] ∧
        (b.methodDeclarations.drop 2 = ["virtual void flush();",
            "/* If the compiler issues an error at this point, it is probably that\n" ++
              " * you forgot to add the corresponding method to the tasks::A class.\n */\nvirtual void go() = 0;"] ∧
          b.methodDefinitions.drop 2 = ["void ABase::flush()\n\x7b\n    _log.flush();\n\x7d"]) ∧
        b.headerBefore = ["#include <log>", "#include <own>"] ∧ b.headerAfter = ["extern Log log;"])
      fun _ _ => False := by
    decide +kernel
  simp only [ends_bind, ends_get, Work.ends_ofExcept] at ends
  obtain ⟨k, t, collected, parts, unfailing⟩ := ends.exists_ok
  cases made : Generation.baseClass t ⟨0⟩ k with
  | error fault => exact (unfailing fault made).elim
  | ok b =>
    obtain ⟨declarations, constructions, hooks, methods, before, after⟩ := parts b made
    exact ⟨k, t, b, collected, made, declarations, constructions, hooks, methods, before, after,
      (baseClass_assembles {} [] extendedComponent collected).2 b made⟩

end Componentry
