import Componentry.Proofs.FailedDeclarations
import Componentry.Proofs.MissedTypes
import Componentry.Proofs.NameSpellings

/-!
# Types of smart pointers

A component asks for the type of smart pointers to a type, in any spelling, and gets the name of the
pointer type, which is its own canonical form. The first one to ask, of all components of a project,
has the pointer type declared unless a typekit brings it; whoever asks later finds it, and nothing
changes.
-/

namespace Componentry

open Declares

namespace Typename

/-- A delimiter may follow every character but a blank. -/
theorem canonicalPair_delimiter {c d : Char} (kept : Text.isBlank c = false)
    (delimiter : isDelimiter d = true) :
    CanonicalPair c d := by
  have notStart : isNameStart d = false := by
    rcases isDelimiter_cases delimiter with rfl | rfl | rfl <;> decide
  refine ⟨⟨⟨fun _ => ne_colon_of_isDelimiter delimiter, fun blank => ?_⟩,
    fun _ => isBlank_of_isDelimiter delimiter⟩, fun _ => notStart⟩
  rw [kept] at blank
  cases blank

/-- What may begin a canonical name may follow an angle bracket. -/
theorem canonicalPair_open {c : Char} (kept : Text.isBlank c = false)
    (notStart : isNameStart c = false) :
    CanonicalPair '<' c :=
  ⟨⟨⟨fun colon => absurd colon (by decide), fun blank => absurd blank (by decide)⟩, fun _ => kept⟩,
    fun _ => notStart⟩

/-- A canonical name as the argument of a template with a canonical name. -/
theorem Canonical.template {f cs : List Char} (hf : Canonical f) (named : f ≠ [])
    (hcs : Canonical cs) :
    Canonical (f ++ '<' :: (cs ++ ['>'])) where
  trimmed := by
    constructor
    · intro c hc
      rw [List.head?_append_of_ne_nil _ named] at hc
      exact hf.trimmed.1 c hc
    · intro c hc
      have last : c = '>' := by simpa [List.getLast?_append, List.getLast?_cons] using hc.symm
      rw [last]
      decide
  pairs := by
    have argument : (cs ++ ['>']).IsChain CanonicalPair := by
      refine List.isChain_append.2 ⟨hcs.pairs, .singleton _, fun c hc d hd => ?_⟩
      obtain rfl : '>' = d := by simpa using hd
      exact canonicalPair_delimiter (hcs.trimmed.2 c hc) rfl
    refine List.isChain_append.2 ⟨hf.pairs, argument.cons fun d hd => ?_, fun c hc d hd => ?_⟩
    · cases cs with
      | nil =>
        obtain rfl : '>' = d := by simpa using hd
        exact canonicalPair_open rfl rfl
      | cons first rest =>
        obtain rfl : first = d := by simpa using hd
        exact canonicalPair_open (hcs.trimmed.1 first rfl) (hcs.start first rfl)
    · obtain rfl : '<' = d := by simpa using hd
      exact canonicalPair_delimiter (hf.trimmed.2 c hc) rfl
  start c hc := by
    rw [List.head?_append_of_ne_nil _ named] at hc
    exact hf.start c hc

end Typename

namespace Pointer

/-- The name of a pointer type is its template with the target between brackets. -/
theorem toList_typeName (pointer : Pointer) (target : String) : (pointer.typeName target).toList =
    (ComponentId.pointerTemplate pointer).1.toList ++ '<' :: (target.toList ++ ['>']) := by
  simp [typeName, String.toList_append, toString]

/-- The name of the type of pointers to a type with a canonical name is canonical. -/
theorem normalize_typeName (pointer : Pointer) {target : String}
    (canonical : Typename.normalize target = target) :
    Typename.normalize (pointer.typeName target) = pointer.typeName target := by
  rw [Typename.normalize_eq_self_iff, toList_typeName]
  have template : Typename.Canonical (ComponentId.pointerTemplate pointer).1.toList := by
    rw [← Typename.normalize_eq_self_iff]
    cases pointer <;> decide +kernel
  have named : (ComponentId.pointerTemplate pointer).1.toList ≠ [] := by
    cases pointer <;> decide
  exact template.template named (Typename.normalize_eq_self_iff.1 canonical)

/-- The name tells the kind of pointer and what it points to. -/
theorem typeName_inj {pointer pointer' : Pointer} {target target' : String} :
    pointer.typeName target = pointer'.typeName target' ↔
      pointer = pointer' ∧ target = target' := by
  constructor
  · intro same
    have chars := congrArg String.toList same
    rw [toList_typeName, toList_typeName] at chars
    -- The templates differ in their second characters.
    have second := congrArg (·[1]?) chars
    have kind : pointer = pointer' := by
      cases pointer <;> cases pointer' <;>
        simp_all [ComponentId.pointerTemplate, OpaqueRule.sharedPointer, OpaqueRule.readOnlyPointer]
    subst kind
    exact ⟨rfl, String.toList_injective (by simpa using chars)⟩
  · rintro ⟨rfl, rfl⟩
    rfl

end Pointer

/-- Projects that take opaque types still do after lookups. -/
theorem Store.TakesOpaques.looked {s t : Store} {p : ProjectId} (h : s.TakesOpaques p)
    (reached : s.Reachable) (looked : s.Looked t) : t.TakesOpaques p where
  isMain := by
    rw [Project.isImported, Project.congr_outline (looked.steps.1.frame.outline p) (·.main)
      fun _ => rfl]
    exact h.isMain
  isOpen :=
    (Project.congr_outline (looked.steps.1.frame.outline p) (·.frozen) fun _ => rfl).trans h.isOpen
  editable id own := by
    rw [(looked.projects p).2] at own
    obtain ⟨more, longer⟩ := looked.typekits
    rw [typekit, ← longer, List.getElem?_append_left (reached.typekits.builds p id own).made]
    exact h.editable id own

/-- The rule by which an opaque type with a new name is declared is held by the typekit that the
project builds, which can still be edited. -/
theorem ProjectId.ends_declareOpaque_new {p : ProjectId} {s : Store} (reached : s.Reachable)
    (takes : s.TakesOpaques p) (made : p.index < s.projects.items.length)
    {name intermediate : String} (headers : List String) (needsCopy : Bool) {u : TypeDef}
    (new : (s.registry (s.project p).registry).find? (Typename.normalize name) = none)
    (found : (s.registry (s.project p).registry).get intermediate = .ok u) :
    Ends (p.declareOpaque name intermediate headers needsCopy) s
      (fun _ t => ∃ id, (t.project p).typekit = some id ∧ (t.typekit id).frozen = false ∧
        { typeName := Typename.normalize name, intermediateName := u.name, needsCopy, headers } ∈
          (t.typekit id).opaques)
      fun _ _ => False := by
  refine ends_declareOpaque_of reached takes fun id editable registered own => ?_
  have builds := (ownTypekits_withOwnTypekit reached.typekits takes).builds p id (own made)
  have consistent := builds.consistent
  rw [types_withOwnTypekit] at consistent
  generalize p.withOwnTypekit s = t at *
  obtain ⟨d, hd⟩ : ∃ d : TypeDef, d = { name := Typename.normalize name, kind := .opaqueType } :=
    ⟨_, rfl⟩
  have named : d.name = Typename.normalize name := by rw [hd]
  have canonical : Typename.normalize d.name = d.name := by rw [named, Typename.normalize_normalize]
  rw [← named] at new ⊢
  have unneeded := Registry.find?_eq_none_of_subset registered new
  have unruled : ((t.typekit id).opaqueRule? (.named d.name)).isSome = false := by
    rw [consistent.opaqueRule?_of_new canonical new]
    rfl
  have declared :=
    Typekit.ends_declareOpaque_new headers needsCopy hd editable new unneeded unruled found
  refine declared.mono ?_ fun _ _ h => h
  rintro _ ⟨k, r⟩ after
  obtain ⟨hk, -⟩ := Prod.mk.inj after
  have edited : (p.withTypes r { t with typekits := t.typekits.set id.index k }).typekit id = k :=
    (Store.typekit_of_set (s := t) rfl id).trans (if_pos ⟨rfl, builds.made⟩)
  refine ⟨id, own made, ?_, ?_⟩
  · rw [edited, hk]
    exact editable
  · rw [edited, hk]
    exact List.mem_append_right _ List.mem_cons_self

/-- Whether a project has declared how an opaque type is marshalled. -/
def Store.DeclaresRule (s : Store) (p : ProjectId) (rule : OpaqueRule) : Prop :=
  ∃ id, (s.project p).typekit = some id ∧ rule ∈ (s.typekit id).opaques

namespace Store.DeclaresRule

variable {s t : Store} {p : ProjectId} {rule : OpaqueRule}

/-- A rule that is declared stays so along steps. -/
theorem evolves (h : s.DeclaresRule p rule) (steps : Evolves s t) : t.DeclaresRule p rule := by
  obtain ⟨id, own, mem⟩ := h
  exact ⟨id, (steps.equipped (Store.made_of_typekit own)).typekit id own, steps.rules id mem⟩

/-- A rule that a main project has declared is the one by which the type is marshalled. -/
theorem opaqueRule_eq (h : s.DeclaresRule p rule) (typekits : OwnTypekits s)
    (isMain : s.projects.scope p = p)
    (canonical : Typename.normalize rule.typeName = rule.typeName) :
    s.opaqueRule p (.named rule.typeName) = .ok rule := by
  obtain ⟨id, own, mem⟩ := h
  have ruled : (s.typekit id).opaqueRule? (.named rule.typeName) = some rule := by
    rw [Typekit.opaqueRule?, TypeRef.name, canonical]
    exact find?_of_distinct (typekits.builds p id own).consistent.distinct mem
  have visible : s.visibleTypekits p = id :: (s.project p).usedTypekits.filter (· ≠ id) := by
    rw [visibleTypekits, scope, isMain, own]
  rw [opaqueRule, visible, List.findSome?_cons, ruled]

end Store.DeclaresRule

namespace LoadableScope

variable {m : ProjectId} {s : Store}

/-- A project that builds a typekit has asked for the typekits of its libraries as before. -/
theorem typekitsAsked_withOwnTypekit (asked : s.TypekitsAsked m) :
    (m.withOwnTypekit s).TypekitsAsked m := by
  have same {β : Type} (g : Project → β) (rest : ∀ q id, g { q with typekit := id } = g q)
      (q : ProjectId) :
      g ((m.withOwnTypekit s).project q) = g (s.project q) :=
        ProjectId.apply_withOwnTypekit g rest m q s
  intro l mem
  rw [same (·.usedLibraries) fun _ _ => rfl] at mem
  rw [Store.TypekitAsked, same (·.ownTypekitSlot) fun _ _ => rfl, same (·.typekitSlots)
    fun _ _ => rfl, same (·.name) fun _ _ => rfl, same (·.usedTypekits) fun _ _ => rfl]
  exact asked l mem

/-- An opaque type with a new name is declared, and marshalled by the rule that is given. -/
theorem ends_declareOpaque (h : LoadableScope m s) (takes : s.TakesOpaques m)
    (asked : s.TypekitsAsked m) {name intermediate : String} (headers : List String)
    (needsCopy : Bool) {u : TypeDef} (new : (s.registryOf m).find? (Typename.normalize name) = none)
    (found : (s.registryOf m).get intermediate = .ok u) :
    Ends (m.declareOpaque name intermediate headers needsCopy) s
      (fun _ t => (LoadableScope m t ∧ t.TakesOpaques m) ∧ t.components = s.components ∧
        Evolves s t ∧ (∃ d, (t.registryOf m).get name = .ok d) ∧
        t.DeclaresRule m
          { typeName := Typename.normalize name, intermediateName := u.name, needsCopy, headers })
      fun _ _ => False := by
  have isMain : s.scope m = s.project m := by rw [Store.scope, h.scope_eq (.inl rfl)]
  rw [Store.registryOf, isMain] at new found
  have settled := m.typing_declareOpaque name intermediate headers needsCopy s h.settled
  have opened := m.ends_declareOpaque_open h.reached takes name intermediate headers needsCopy
  have ruled := m.ends_declareOpaque_new h.reached takes h.made headers needsCopy new found
  refine ((settled.and opened).and ruled).mono ?_ fun _ _ h => h.2
  rintro _ t ⟨⟨⟨ht, steps⟩, components, projects, registries⟩, id, own, editable, rule⟩
  have scope : LibraryScope m t := h.of_frame steps.1.frame ht
  have same {β : Type} (g : Project → β) (rest : ∀ q id, g { q with typekit := id } = g q) :
      g (t.project m) = g (s.project m) := by
    rw [Store.project, projects]
    exact ProjectId.apply_withOwnTypekit g rest m m s
  have asked' : t.TypekitsAsked m := by
    have before := typekitsAsked_withOwnTypekit asked
    intro l mem
    rw [Store.project, projects] at mem
    rw [Store.TypekitAsked, Store.project, Store.project, projects]
    exact before l mem
  have steps := steps.1.evolves
  refine ⟨⟨.of_asked scope (h.reached.evolves steps ht.1) asked', ?_⟩, components, steps, ?_, ?_⟩
  · refine ⟨?_, (same (·.frozen) fun _ _ => rfl).trans takes.isOpen, fun id' own' => ?_⟩
    · rw [Project.isImported, scope.isMain]
      rfl
    · obtain rfl := Option.some.inj (own.symm.trans own')
      exact editable
  · exact ProjectId.get_of_declared h.reached takes.isMain projects registries
  · exact ⟨id, own, rule⟩

end LoadableScope

/-- A call of a component for the type of smart pointers to the type of a name in any spelling. -/
structure PointerCall where
  component : ComponentId
  pointer : Pointer
  target : String
  deriving DecidableEq

namespace PointerCall

/-- Makes the call. -/
def run (call : PointerCall) : Work String :=
  call.component.pointerType call.pointer (.named call.target)

/-- The state after calls, each made after the one before has given a name or failed. -/
def runAll (calls : List PointerCall) (s : Store) : Store :=
  calls.foldl (fun s call => call.run.after s) s

/-- Whether the type that is pointed to is found. -/
def Resolves (call : PointerCall) (s : Store) : Prop :=
  ∃ d t, call.component.findType (.named call.target) s = .ok d t

/-- The name of the template, followed in angle brackets by the canonical name of what is pointed
to. -/
def typeName (call : PointerCall) : String :=
  call.pointer.typeName (Typename.normalize call.target)

/-- Whether the call declares the pointer type: what it points to is found, but the pointer type is
not. -/
def Defines (call : PointerCall) (s : Store) : Prop :=
  ∃ d t missing u, call.component.findType (.named call.target) s = .ok d t ∧
    call.component.findType (.named (call.pointer.typeName d.name)) t =
      .error (.typeNotFound missing) u

/-- The rule that marshals the pointer type as what it points to, without a copy. -/
def rule (call : PointerCall) : OpaqueRule where
  typeName := call.typeName
  intermediateName := Typename.normalize call.target
  needsCopy := false
  headers := [(ComponentId.pointerTemplate call.pointer).2]

/-- Whether the pointer type is registered, and what it points to is. -/
def Registered (call : PointerCall) (m : ProjectId) (s : Store) : Prop :=
  (∃ d, (s.registryOf m).get call.target = .ok d) ∧ ∃ d, (s.registryOf m).get call.typeName = .ok d

variable {m : ProjectId} {s : Store} (call : PointerCall)

/-- The name of the pointer type is canonical, as that of its target is. -/
theorem normalize_typeName : Typename.normalize call.typeName = call.typeName :=
  call.pointer.normalize_typeName (Typename.normalize_normalize call.target)

/-- A component looks types up from its project. -/
theorem findType_eq (own : (s.interface call.component).project = m) (type : TypeRef) :
    call.component.findType type s = m.findType type s := by
  subst own
  rfl

/-- A call for a pointer type that is registered changes nothing. -/
theorem run_of_registered {call : PointerCall} (own : (s.interface call.component).project = m)
    (registered : call.Registered m s) : call.run s = .ok call.typeName s := by
  obtain ⟨⟨d, hd⟩, d', hd'⟩ := registered
  have named : d.name = Typename.normalize call.target :=
    Registry.name_of_find? (Registry.find?_of_get hd)
  have named' : d'.name = call.typeName :=
    (Registry.name_of_find? (Registry.find?_of_get hd')).trans call.normalize_typeName
  have target : call.component.findType (.named call.target) s = .ok d s :=
    (call.findType_eq own _).trans (ProjectId.findType_of_get hd)
  have pointer : call.component.findType (.named (call.pointer.typeName d.name)) s = .ok d' s := by
    rw [named]
    exact (call.findType_eq own _).trans (ProjectId.findType_of_get hd')
  have ends : Ends call.run s (fun name t => name = call.typeName ∧ t = s) fun _ _ => False := by
    refine ends_bind.2
      (ends_of_eq_ok target (ends_tryCatch.2 (ends_bind.2 (ends_of_eq_ok pointer ?_))))
    exact ⟨named', rfl⟩
  obtain ⟨name, t, ok, rfl, rfl⟩ := ends.exists_ok
  exact ok

/-- A call gives the name of the pointer type, which is registered then. The next call can be
made. -/
structure Answers (call : PointerCall) (m : ProjectId) (s : Store) (name : String)
    (t : Store) : Prop where
  named : name = call.typeName
  ready : LoadableScope m t
  takes : t.TakesOpaques m
  components : t.components = s.components
  evolves : Evolves s t
  registered : call.Registered m t

/-- A call is answered as in an earlier state with the same components. -/
theorem Answers.after {call : PointerCall} {name : String} {u t : Store}
    (h : call.Answers m u name t) (components : u.components = s.components) (steps : Evolves s u) :
    call.Answers m s name t :=
  { h with
    components := h.components.trans components
    evolves := steps.trans h.evolves }

/-- A pointer type that is found is the answer. -/
theorem answers_of_findType {call : PointerCall} (h : LoadableScope m s) (takes : s.TakesOpaques m)
    (own : (s.interface call.component).project = m) {d d' : TypeDef} {t : Store}
    (target : (s.registryOf m).get call.target = .ok d)
    (found : call.component.findType (.named call.typeName) s = .ok d' t) :
    call.Answers m s d'.name t := by
  obtain ⟨⟨ready, looked⟩, known⟩ :=
    (h.ends_findType call.typeName).of_ok ((call.findType_eq own _).symm.trans found)
  have evolves := looked.steps.1.evolves
  exact {
    named := (Registry.name_of_find? (Registry.find?_of_get known)).trans call.normalize_typeName
    ready
    takes := takes.looked h.reached looked
    components := looked.steps.2
    evolves
    registered := ⟨⟨d, (evolves.registryOf h.made).2.get target⟩, d', known⟩ }

/-- A pointer type that was missed is declared, and found then. -/
theorem ends_declare (h : LoadableScope m s) (takes : s.TakesOpaques m) (asked : s.TypekitsAsked m)
    (own : (s.interface call.component).project = m) {d : TypeDef}
    (target : (s.registryOf m).get call.target = .ok d)
    (new : (s.registryOf m).find? (Typename.normalize call.typeName) = none) :
    Ends (do
        let _ ← m.declareOpaque call.typeName (Typename.normalize call.target)
          [(ComponentId.pointerTemplate call.pointer).2] false
        return (← call.component.findType (.named call.typeName)).name) s
      (fun name t => call.Answers m s name t ∧ t.DeclaresRule m call.rule)
      fun _ _ => False := by
  have intermediate : (s.registryOf m).get (Typename.normalize call.target) = .ok d := by
    rw [Registry.get_congr (Typename.normalize_normalize call.target)]
    exact target
  have named : d.name = Typename.normalize call.target :=
    Registry.name_of_find? (Registry.find?_of_get target)
  have declared := h.ends_declareOpaque takes asked
    [(ComponentId.pointerTemplate call.pointer).2] false new intermediate
  refine ends_bind.2 (declared.mono ?_ fun _ _ h => h)
  rintro _ t ⟨⟨ready, takes'⟩, components, steps, ⟨d', known⟩, ruled⟩
  have own' : (t.interface call.component).project = m := by
    rw [Store.interface, Store.component, components]
    exact own
  have found : call.component.findType (.named call.typeName) t = .ok d' t :=
    (call.findType_eq own' _).trans (ProjectId.findType_of_get known)
  have target' := (steps.registryOf h.made).2.get target
  rw [normalize_typeName, named] at ruled
  have answers := answers_of_findType ready takes' own' target' found
  exact ends_bind.2 (ends_of_eq_ok found ⟨answers.after components steps, ruled⟩)

/-- A call answers. If it declares the pointer type, the type is marshalled as what it points to. -/
theorem ends_run (h : LoadableScope m s) (takes : s.TakesOpaques m)
    (own : (s.interface call.component).project = m) (resolves : call.Resolves s) :
    Ends call.run s
      (fun name t => call.Answers m s name t ∧ (call.Defines s → t.DeclaresRule m call.rule))
      fun _ _ => False := by
  obtain ⟨d, u, target⟩ := resolves
  obtain ⟨⟨ready, looked⟩, known⟩ :=
    (h.ends_findType call.target).of_ok ((call.findType_eq own _).symm.trans target)
  have named : d.name = Typename.normalize call.target :=
    Registry.name_of_find? (Registry.find?_of_get known)
  have takes := takes.looked h.reached looked
  have owned {v : Store} (components : v.components = s.components) :
      (v.interface call.component).project = m := by
    rw [Store.interface, Store.component, components]
    exact own
  have own' := owned looked.steps.2
  have name : call.pointer.typeName d.name = call.typeName := by rw [named, typeName]
  refine ends_bind.2 (ends_of_eq_ok target (ends_tryCatch.2 (ends_bind.2 ?_)))
  change Ends (call.component.findType (.named (call.pointer.typeName d.name))) u _ _
  rw [name]
  refine ends_iff.2 ⟨fun d' v found => ⟨?_, fun defines => ?_⟩, fun fault v missed => ?_⟩
  · exact (answers_of_findType ready takes own' known found).after looked.steps.2
      looked.steps.1.evolves
  · obtain ⟨d₁, u₁, missing, v₁, target₁, failed⟩ := defines
    obtain ⟨rfl, rfl⟩ := EStateM.Result.ok.inj (target.symm.trans target₁)
    rw [name, found] at failed
    cases failed
  · obtain ⟨⟨ready', looked'⟩, asked, new, rfl⟩ :=
      (ready.ends_findType call.typeName).of_error ((call.findType_eq own' _).symm.trans missed)
    have components := looked'.steps.2.trans looked.steps.2
    have steps := looked'.steps.1.evolves
    have target' := (steps.registryOf ready.made).2.get known
    have declares := call.ends_declare ready' (takes.looked ready.reached looked') asked
      (owned components) target' new
    refine ends_bind.2 (ends_get.2 ?_)
    rw [owned components]
    change Ends (m.declareOpaque (call.pointer.typeName d.name) d.name _ false >>= fun _ =>
      call.component.findType (.named (call.pointer.typeName d.name)) >>=
        fun d' => pure d'.name) v _ _
    rw [name, named]
    refine declares.mono (fun name t declared => ⟨?_, fun _ => declared.2⟩) fun _ _ h => h
    exact declared.1.after components (looked.steps.1.evolves.trans steps)

/-- A pointer type that is registered stays so along steps. -/
theorem Registered.evolves {call : PointerCall} {t : Store} (h : call.Registered m s)
    (made : m.index < s.projects.items.length) (steps : Evolves s t) : call.Registered m t := by
  obtain ⟨⟨d, hd⟩, d', hd'⟩ := h
  have grown := (steps.registryOf made).2
  exact ⟨⟨d, grown.get hd⟩, d', grown.get hd'⟩

/-- Calls for the same kind of pointers to the same type ask for types that are registered
together. -/
theorem Registered.congr {call other : PointerCall} (h : call.Registered m s)
    (pointer : other.pointer = call.pointer)
    (target : Typename.normalize other.target = Typename.normalize call.target) :
    other.Registered m s := by
  rw [Registered, typeName, pointer, target, Registry.get_congr target]
  exact h

/-- After calls from the components of a main project, all types that they asked for are
registered. -/
theorem registered_runAll (h : LoadableScope m s) (takes : s.TakesOpaques m)
    (calls : List PointerCall) (own : ∀ call ∈ calls, (s.interface call.component).project = m)
    (resolves : ∀ before call after, calls = before ++ call :: after →
        call.Resolves (runAll before s)) :
    let t := runAll calls s
    (LoadableScope m t ∧ t.TakesOpaques m) ∧ t.components = s.components ∧
      ∀ call ∈ calls, call.Registered m t := by
  induction calls using List.reverseRecOn with
  | nil => exact ⟨⟨h, takes⟩, rfl, fun _ mem => by cases mem⟩
  | append_singleton calls call ih =>
    obtain ⟨⟨ready, takes'⟩, components, registered⟩ :=
      ih (fun other mem => own other (List.mem_append_left _ mem))
      fun before other after split => resolves before other (after ++ [call]) (by rw [split]; simp)
    have project : ((runAll calls s).interface call.component).project = m := by
      rw [Store.interface, Store.component, components]
      exact own call (by simp)
    have ends := call.ends_run ready takes' project (resolves calls call [] rfl)
    obtain ⟨name, t, ok, answers, -⟩ := ends.exists_ok
    have after : runAll (calls ++ [call]) s = t := by
      rw [runAll, List.foldl_append]
      change call.run.after (runAll calls s) = t
      rw [Work.after, ok]
    rw [after]
    refine ⟨⟨answers.ready, answers.takes⟩, answers.components.trans components,
      fun other mem => ?_⟩
    rcases List.mem_append.1 mem with earlier | last
    · exact (registered other earlier).evolves ready.made answers.evolves
    · rw [List.mem_singleton.1 last]
      exact answers.registered

/-- Calls for pointer types declare types only. -/
theorem types_runAll (settled : declaring.holds s) (calls : List PointerCall) :
    declaring.holds (runAll calls s) ∧ DeclaresTypes s (runAll calls s) :=
  Effect.after_each (E := typing)
    (fun call => call.component.typing_pointerType call.pointer (.named call.target)) calls settled

/-- A type that is registered is found in all states that calls for pointer types lead to. -/
theorem resolves_of_registered {call : PointerCall} (settled : declaring.holds s)
    (own : (s.interface call.component).project = m) (made : m.index < s.projects.items.length)
    {d : TypeDef} (known : (s.registryOf m).get call.target = .ok d) (before : List PointerCall) :
    call.Resolves (runAll before s) := by
  obtain ⟨-, steps, components⟩ := types_runAll settled before
  have project : ((runAll before s).interface call.component).project = m := by
    rw [Store.interface, Store.component, components]
    exact own
  have later := (steps.evolves.registryOf made).2.get known
  exact ⟨d, _, (call.findType_eq project _).trans (ProjectId.findType_of_get later)⟩

end PointerCall

/-- Along a run that starts with a main project, the components that a project lists are its own. -/
theorem Store.OwnComponents.of_run (files : Files.Tree) (packageMaps : List PackageMap)
    (name : String) (baseDir : Files.Path) (packages : PackageMapId) (calls : List Call) :
    (Call.runAll calls
      (Store.withMain { files, packageMaps } name baseDir packages none)).OwnComponents := by
  have step : Evolved { files, packageMaps }
      (Store.withMain { files, packageMaps } name baseDir packages none) :=
    .newMain name baseDir packages none
  have start := Store.SettledLibraries.withMain_of_empty files packageMaps name baseDir packages
  exact (Call.evolves_runAll start.1 calls).2.ownComponents (step.ownComponents (.of_empty rfl))

/-- A component belongs to the project that lists it, which was made. -/
theorem Store.OwnComponents.of_mem {s : Store} (h : s.OwnComponents) {p : ProjectId}
    {c : ComponentId} (mem : c ∈ (s.project p).components) :
    p.index < s.projects.items.length ∧ (s.interface c).project = p := by
  refine ⟨?_, (h p c mem).2⟩
  by_contra past
  rw [project_of_unmade past] at mem
  cases mem

/-- Components of a main project that takes opaque types ask for types of smart pointers. If what
they point to is found, and what a miss imports can be loaded, no call fails. Each gives the name of
its template, followed by the canonical name of what is pointed to; so calls give the same name if
and only if they ask for the same kind of pointers to the same type. Only the first call for a type
changes anything, and a type that it has declared is marshalled as what it points to, without a
copy, whatever is called later. -/
theorem pointerTypes_answered (files : Files.Tree) (packageMaps : List PackageMap) (name : String)
    (baseDir : Files.Path) (packages : PackageMapId) (setup : List Call) (m : ProjectId)
    (calls : List PointerCall) :
    let s := Call.runAll setup (Store.withMain { files, packageMaps } name baseDir packages none)
    s.TakesOpaques m → (∃ found t, m.importOnMiss s = .ok found t) →
    (∀ call ∈ calls, call.component ∈ (s.project m).components) →
    (∀ before call after, calls = before ++ call :: after →
      call.Resolves (PointerCall.runAll before s)) →
    (∀ before call after, calls = before ++ call :: after →
      let u := PointerCall.runAll before s
      ∃ t, call.run u = .ok call.typeName t ∧
        (∀ earlier ∈ before, earlier.pointer = call.pointer →
          Typename.normalize earlier.target = Typename.normalize call.target → t = u) ∧
        (call.Defines u → ∀ later : List Call,
          (Call.runAll later t).opaqueRule m (.named call.typeName) = .ok call.rule)) ∧
    ∀ call call' : PointerCall, call.typeName = call'.typeName ↔
      call.pointer = call'.pointer ∧
        Typename.normalize call.target = Typename.normalize call'.target := by
  intro s takes loads components resolves
  refine ⟨?_, fun call call' => Pointer.typeName_inj⟩
  intro before call after split u
  have start := Store.SettledLibraries.withMain_of_empty files packageMaps name baseDir packages
  have owned : s.OwnComponents := .of_run files packageMaps name baseDir packages setup
  have own (other : PointerCall) (mem : other ∈ calls) := owned.of_mem (components other mem)
  have listed : call ∈ calls := by
    rw [split]
    simp
  have scope : LibraryScope m s :=
    (start.runAll setup).libraryScope (own call listed).1 takes.isMain
  have ready : LoadableScope m s :=
    ⟨scope, .of_run files packageMaps name baseDir packages setup, loads⟩
  obtain ⟨⟨hu, takes'⟩, same, registered⟩ := PointerCall.registered_runAll ready takes before
    (fun other mem => (own other (by rw [split]; exact List.mem_append_left _ mem)).2)
    fun before' other after' split' =>
      resolves before' other (after' ++ call :: after) (by rw [split, split']; simp)
  have project : (u.interface call.component).project = m := by
    rw [Store.interface, Store.component, same]
    exact (own call listed).2
  obtain ⟨_, t, answered, ⟨rfl, ht, -, -, -, -⟩, declares⟩ :=
    (call.ends_run hu takes' project (resolves before call after split)).exists_ok
  refine ⟨t, answered, fun earlier mem pointer target => ?_, fun defines later => ?_⟩
  · have known := (registered earlier mem).congr pointer.symm target.symm
    rw [PointerCall.run_of_registered project known] at answered
    exact (EStateM.Result.ok.inj answered).2.symm
  · obtain ⟨-, steps⟩ := Call.evolves_runAll ht.settled later
    apply ((declares defines).evolves steps).opaqueRule_eq
    · exact ht.reached.typekits.evolves steps
    · exact (steps.registryOf ht.made).1.trans (ht.scope_eq (.inl rfl))
    · exact call.normalize_typeName

/-- Calls for pointers to a number in several spellings, and for pointers to such pointers. -/
def numberPointers : List PointerCall :=
  [⟨⟨0⟩, .shared, "double"⟩, ⟨⟨0⟩, .readOnly, " ::double"⟩,
    ⟨⟨0⟩, .shared, "boost::shared_ptr< double >"⟩, ⟨⟨0⟩, .shared, "/double"⟩]

/-- What each call points to is found, for the third one because of the first one. -/
theorem numberPointers_resolve {s : Store} (ready : LoadableScope ⟨0⟩ s)
    (takes : s.TakesOpaques ⟨0⟩) (own : (s.interface ⟨0⟩).project = ⟨0⟩)
    (known : ((s.registryOf ⟨0⟩).find? "/double").isSome = true) (before : List PointerCall)
    (call : PointerCall) (after : List PointerCall)
    (split : numberPointers = before ++ call :: after) :
    call.Resolves (PointerCall.runAll before s) := by
  obtain ⟨d, hd⟩ := Option.isSome_iff_exists.1 known
  have found (call : PointerCall) (component : call.component = ⟨0⟩)
      (canonical : Typename.normalize call.target = "/double")
      (before : List PointerCall) : call.Resolves (PointerCall.runAll before s) := by
    have get : (s.registryOf ⟨0⟩).get call.target = .ok d := by rw [Registry.get, canonical, hd]
    exact PointerCall.resolves_of_registered ready.settled (component ▸ own) ready.made get before
  have mem : call ∈ numberPointers := by
    rw [split]
    simp
  simp only [numberPointers, List.mem_cons, List.not_mem_nil, or_false] at mem
  rcases mem with rfl | rfl | rfl | rfl
  · exact found _ rfl (by decide +kernel) before
  · exact found _ rfl (by decide +kernel) before
  · cases before with
    | nil => exact absurd (List.cons.inj split).1 (by decide)
    | cons first before =>
      obtain ⟨same, -⟩ := List.cons.inj split
      have resolves : first.Resolves s :=
        found first (by rw [← same]) (by rw [← same]; decide +kernel) []
      have project : (s.interface first.component).project = ⟨0⟩ := by rw [← same]; exact own
      obtain ⟨_, t, ok, ⟨-, ht, -, components, -, -, d, hd⟩, -⟩ :=
        (first.ends_run ready takes project resolves).exists_ok
      have rest : PointerCall.runAll (first :: before) s = PointerCall.runAll before t := by
        rw [PointerCall.runAll, List.foldl_cons, Work.after, ok]
        rfl
      have spelled :
          Typename.normalize "boost::shared_ptr< double >" = Typename.normalize first.typeName := by
        rw [← same]
        decide +kernel
      rw [rest]
      refine PointerCall.resolves_of_registered ht.settled (m := ⟨0⟩) ?_ ht.made (d := d) ?_ before
      · rw [Store.interface, Store.component, components]
        exact own
      · exact (Registry.get_congr spelled _).trans hd
  · exact found _ rfl (by decide +kernel) before

/-- A component that was just declared asks for the pointer types. The last call is for the same
type as the first. -/
theorem pointerTypes_answered_numbers :
    let start := Store.withMain {} "app" ⟨"/", []⟩ ⟨0⟩ none
    let s := Call.runAll [.declare (.declareComponent ⟨0⟩ "A" .framework none)] start
    let u := PointerCall.runAll (numberPointers.take 3) s
    s.TakesOpaques ⟨0⟩ ∧ (∃ found t, ProjectId.importOnMiss ⟨0⟩ s = .ok found t) ∧
      (∀ call ∈ numberPointers, call.component ∈ (s.project ⟨0⟩).components) ∧
      (∀ before call after, numberPointers = before ++ call :: after →
        call.Resolves (PointerCall.runAll before s)) ∧
      ComponentId.pointerType ⟨0⟩ .shared (.named "/double") u =
        .ok "/boost/shared_ptr</double>" u := by
  intro start s u
  have takes : s.TakesOpaques ⟨0⟩ := by
    refine ⟨by decide +kernel, by decide +kernel, fun id own => ?_⟩
    have none : (s.project ⟨0⟩).typekit = none := by decide +kernel
    rw [none] at own
    cases own
  have loads : ∃ found t, ProjectId.importOnMiss ⟨0⟩ s = .ok found t := by
    obtain ⟨found, t, ok, -⟩ : ∃ found t, ProjectId.importOnMiss ⟨0⟩ s = .ok found t ∧ True :=
      Ends.exists_ok (by decide +kernel)
    exact ⟨found, t, ok⟩
  have components : ∀ call ∈ numberPointers, call.component ∈ (s.project ⟨0⟩).components := by
    decide +kernel
  have made : (⟨0⟩ : ProjectId).index < s.projects.items.length := by decide +kernel
  have own : (s.interface ⟨0⟩).project = ⟨0⟩ := by decide +kernel
  have known : ((s.registryOf ⟨0⟩).find? "/double").isSome = true := by decide +kernel
  have settled := Store.SettledLibraries.withMain_of_empty {} [] "app" ⟨"/", []⟩ ⟨0⟩
  have scope : LibraryScope ⟨0⟩ s := (settled.runAll _).libraryScope made takes.isMain
  have ready : LoadableScope ⟨0⟩ s := ⟨scope, .of_run {} [] "app" ⟨"/", []⟩ ⟨0⟩ _, loads⟩
  have resolves := numberPointers_resolve ready takes own known
  refine ⟨takes, loads, components, resolves, ?_⟩
  obtain ⟨answered, -⟩ := pointerTypes_answered {} [] "app" ⟨"/", []⟩ ⟨0⟩
    [.declare (.declareComponent ⟨0⟩ "A" .framework none)]
    ⟨0⟩ numberPointers takes loads components resolves
  obtain ⟨t, ok, unchanged, -⟩ := answered (numberPointers.take 3) ⟨⟨0⟩, .shared, "/double"⟩ [] rfl
  have same : t = u := unchanged _ List.mem_cons_self rfl (by decide +kernel)
  have named : PointerCall.typeName ⟨⟨0⟩, .shared, "/double"⟩ = "/boost/shared_ptr</double>" := by
    decide +kernel
  rw [named, same] at ok
  exact ok

end Componentry
