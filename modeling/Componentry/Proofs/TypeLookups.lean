import Componentry.Proofs.TypekitImports

/-!
# Looking up and typing types

Types are looked up, loaded into the typekit of a project and declared opaque by steps of
declarations. A typekit that is complete is not edited, since the exports that come first fail.
-/

namespace Componentry

open Declares

namespace ProjectId

/-- A missed type is looked for in typekits that are imported for it. -/
theorem typing_importOnMiss (p : ProjectId) : typing.Covers p.importOnMiss := by
  refine Effect.covers_get_bind fun s hs => ?_
  have imported : typing.Covers (do
      if (s.project p).isImported then
        let _ ← p.typekit
      else
        (s.scope p).usedLibraries.forM fun library => do
          let _ ← library.typekit
      return (s.scope p).usedTypekits.length < ((← get).scope p).usedTypekits.length :
        Work Bool) := by
    refine Effect.Covers.ite (fun _ => ?_) fun _ => ?_
    · exact (typing_typekit p false).bind fun _ =>
        Effect.covers_get.bind fun _ => Effect.covers_pure _
    · refine (Effect.covers_forM fun library _ => ?_).bind fun _ =>
        Effect.covers_get.bind fun _ => Effect.covers_pure _
      exact (typing_typekit library false).bind fun _ => Effect.covers_pure _
  exact imported s hs

/-- A type is found, if need be after an import. -/
theorem typing_findType (p : ProjectId) (type : TypeRef) : typing.Covers (p.findType type) := by
  cases type with
  | given t => exact Effect.covers_pure t
  | named name =>
    refine Effect.covers_get_bind fun s hs => ?_
    cases hget : (s.registryOf p).get name with
    | ok t => exact ⟨hs, typing.refl s⟩
    | error fault =>
      have missing : fault.isCycle = false := Registry.cycleFree_get _ _ fault hget
      refine ((typing_importOnMiss p).bind fun found => ?_) s hs
      refine Effect.Covers.ite (fun _ => ?_) fun _ => Effect.covers_throw missing
      refine (Work.typing_of_offline (Work.offline_log _ _ _)).bind fun _ =>
        Effect.covers_get.bind fun t => ?_
      exact Work.typing_of_offline (Work.offline_ofExcept (Registry.cycleFree_get _ _))

/-- The rule of an opaque type is found after its type. -/
theorem typing_opaqueRule (p : ProjectId) (type : TypeRef) : typing.Covers (p.opaqueRule type) :=
  Effect.covers_get.bind fun s =>
    Work.typing_of_offline (Work.offline_ofExcept (s.cycleFree_opaqueRule p type))

/-- The name of an intermediate type is found after its type. -/
theorem typing_intermediateName (p : ProjectId) (type : TypeRef) :
    typing.Covers (p.intermediateName type) := by
  refine (typing_findType p type).bind fun t =>
    Effect.Covers.ite (fun _ => ?_) fun _ => Effect.covers_pure _
  exact (typing_opaqueRule p _).bind fun rule => Effect.covers_pure _

end ProjectId

/-- What may be done to a typekit that is not complete, and stays so. -/
private def editingIn (id : TypekitId) : Effect Fault Store where
  holds s := (s.typekit id).frozen = false
  change := offline.change
  fault fault := fault.isCycle = false
  refl := offline.refl
  trans := offline.trans

/-- An edit of a typekit is one of the state. -/
private theorem editingIn_onTypekit {α : Type} {id : TypekitId} {x : Typekit.Change α}
    (h : Typekit.editing.Covers x) :
    (editingIn id).Covers (Work.onTypekit id x) := by
  intro s isOpen
  have stays (kr : Typekit × Registry) (hkr : kr.1.frozen = false) :
      (editingIn id).holds { s with
        typekits := s.typekits.set id.index kr.1
        registries := s.registries.set (s.typekit id).registry.index kr.2 } := by
    change (((s.typekits.set id.index kr.1)[id.index]?).getD default).frozen = false
    rw [List.getElem?_set_self']
    cases s.typekits[id.index]? with
    | none => rfl
    | some k => exact hkr
  refine Work.ends_onTypekit.2
    ((h (s.typekit id, s.registry (s.typekit id).registry) isOpen).mono ?_ ?_)
  · rintro a kr ⟨hkr, edits⟩
    exact ⟨stays kr hkr, (Work.offline_step' (.edit id isOpen edits) rfl rfl).2⟩
  · rintro fault kr ⟨hkr, edits, hf⟩
    exact ⟨stays kr hkr, (Work.offline_step' (.edit id isOpen edits) rfl rfl).2, hf⟩

/-- An operation on a typekit that fails at once leaves the state as it is. -/
private theorem ends_onTypekit_of_error {α : Type} {id : TypekitId} {x : Typekit.Change α}
    {s : Store} {fault : Fault}
    (hx : x (s.typekit id, s.registry (s.typekit id).registry) =
      .error fault (s.typekit id, s.registry (s.typekit id).registry))
    {P : α → Store → Prop} {F : Fault → Store → Prop} (h : F fault s) :
    Ends (Work.onTypekit id x) s P F := by
  have set_same {β : Type} (items : List β) (i : Nat) (d : β) :
      items.set i (items[i]?.getD d) = items := by
    by_cases hi : i < items.length
    · simp [hi]
    · exact List.set_eq_of_length_le (by omega)
  refine Work.ends_onTypekit.2 ?_
  unfold Ends
  rw [hx]
  have typekits : s.typekits.set id.index (s.typekit id) = s.typekits := set_same _ _ _
  have registries :
      s.registries.set (s.typekit id).registry.index (s.registry (s.typekit id).registry) =
      s.registries := set_same _ _ _
  simpa only [typekits, registries] using h

/-- A typekit that exports types is not complete. -/
theorem Typekit.ends_exportTypes (id : TypekitId) (names : List String) (interface : Bool)
    (s : Store) :
    Ends (Work.onTypekit id (Typekit.exportTypes names interface)) s
      (fun _ t => (t.typekit id).frozen = false ∧ offline.change s t)
      fun fault t => offline.change s t ∧ fault.isCycle = false := by
  cases h : (s.typekit id).frozen with
  | true => exact ends_onTypekit_of_error (Typekit.exportTypes_frozen h _ _ _) ⟨offline.refl s, rfl⟩
  | false =>
    exact (editingIn_onTypekit (Typekit.covers_exportTypes names interface) s h).mono
      (fun _ _ h => h) fun _ _ ⟨_, h⟩ => h

/-- Types are exported without an import. -/
theorem Typekit.offline_exportTypes (id : TypekitId) (names : List String) (interface : Bool) :
    offline.Covers (Work.onTypekit id (Typekit.exportTypes names interface)) :=
  fun s _ =>
    (Typekit.ends_exportTypes id names interface s).mono (fun _ _ ⟨_, hst⟩ => ⟨trivial, hst⟩)
    fun _ _ ⟨hst, hf⟩ => ⟨trivial, hst, hf⟩

/-- An opaque type is declared in a typekit without an import. -/
theorem Typekit.offline_declareOpaque (id : TypekitId) (name intermediate : String)
    (headers : List String) (needsCopy : Bool) :
    offline.Covers (Work.onTypekit id
      (Typekit.declareOpaque name intermediate headers needsCopy)) := by
  intro s _
  cases h : (s.typekit id).frozen with
  | true =>
    exact ends_onTypekit_of_error (Typekit.declareOpaque_frozen h _ _ _ _ _)
      ⟨trivial, offline.refl s, rfl⟩
  | false => exact Work.offline_onTypekit h (Typekit.covers_declareOpaque _ _ _ _)

/-- Once a typekit has exported types, it may be edited. -/
private theorem offline_exportTypes_bind {α : Type} (id : TypekitId) (names : List String)
    (interface : Bool) {x : PUnit → Work α} (hx : ∀ u, (editingIn id).Covers (x u)) :
    offline.Covers (Work.onTypekit id (Typekit.exportTypes names interface) >>= x) := by
  intro s _
  refine ends_bind.2 ((Typekit.ends_exportTypes id names interface s).mono ?_
    fun fault t ⟨hst, hf⟩ => ⟨trivial, hst, hf⟩)
  rintro u t ⟨isOpen, hst⟩
  refine (hx u t isOpen).mono ?_ ?_
  · exact fun a v ⟨_, htv⟩ => ⟨trivial, offline.trans hst htv⟩
  · exact fun fault v ⟨_, htv, hf⟩ => ⟨trivial, offline.trans hst htv, hf⟩

namespace ProjectId

/-- Adds the marshalling rules of a descriptor to a typekit. -/
def addDescribedRules (id : TypekitId) (xml : String) : Work TypekitId := do
  let rules ← Work.ofExcept (Descriptor.opaqueRules xml)
  rules.forM fun rule => Work.onTypekit id (Typekit.addRule rule)
  return id

/-- What is left of the definition of types by a descriptor once the typekit is there. -/
def defineTypes (p : ProjectId) (id : TypekitId) (xml : String)
    (typelist : Option String) : Work TypekitId := do
  let added ← Work.onRegistry ((← get).scope p).registry (Descriptor.mergeInto xml)
  match typelist with
  | none => Work.onTypekit id (Typekit.exportTypes added true)
  | some text =>
    let types ← Work.ofExcept (Typelist.parse text)
    Work.onTypekit id (Typekit.exportTypes (types.exported.diff types.interface).toList false)
    Work.onTypekit id (Typekit.exportTypes types.interface.toList true)
  addDescribedRules id xml

/-- Types are merged into the registry of the scope before they are exported and get their rules. -/
theorem offline_defineTypes (p : ProjectId) (id : TypekitId) (xml : String)
    (typelist : Option String) :
    offline.Covers (p.defineTypes id xml typelist) := by
  refine Effect.covers_get_bind fun s _ => ?_
  refine Effect.From.bind (Work.offline_onRegistry _ (Registry.covers_mergeInto xml))
    fun added t _ _ => ?_
  have ruled : (editingIn id).Covers (addDescribedRules id xml) := by
    intro t ht
    refine ends_bind.2 (Work.ends_ofExcept.2 ⟨fun rules hrules => ?_, fun fault h => ?_⟩)
    · have canonical := Descriptor.names_of_opaqueRules hrules
      refine Effect.Covers.bind ?_ (fun _ => Effect.covers_pure id) t ht
      exact Effect.covers_forM fun rule mem =>
        editingIn_onTypekit (Typekit.covers_addRule (canonical rule mem))
    · exact ⟨ht, offline.refl t, Descriptor.cycleFree_opaqueRules xml fault h⟩
  cases typelist with
  | none => exact offline_exportTypes_bind id added true (fun _ => ruled) t trivial
  | some text =>
    refine Effect.From.bind (Work.offline_ofExcept (Typelist.cycleFree_parse text) t trivial)
      fun types u _ _ => ?_
    refine offline_exportTypes_bind id _ false (fun _ => ?_) u trivial
    exact (editingIn_onTypekit (Typekit.covers_exportTypes _ true)).bind fun _ => ruled

/-- Types are loaded into the own typekit as declarations of types. -/
theorem typing_loadTypekit (p : ProjectId) (xml : String) (typelist : Option String) :
    typing.Covers (p.loadTypekit xml typelist) := by
  refine (Work.typing_of_offline p.offline_checkMutable).bind fun _ =>
    (typing_typekit p true).bind fun id? => ?_
  cases id? with
  | none => exact Effect.covers_throw rfl
  | some id => exact Work.typing_of_offline (p.offline_defineTypes id xml typelist)

/-- Opaque types are declared in a typekit that is not complete. -/
theorem typing_declareOpaque (p : ProjectId) (name intermediate : String) (headers : List String)
    (needsCopy : Bool) : typing.Covers (p.declareOpaque name intermediate headers needsCopy) := by
  refine (Work.typing_of_offline p.offline_checkMutable).bind fun _ =>
    Effect.covers_get.bind fun s => ?_
  refine (typing_typekit p true).bind fun id? => ?_
  cases id? with
  | none => exact Effect.covers_throw rfl
  | some id =>
    refine Work.typing_of_offline
      (Effect.covers_get_bind fun t _ => ends_ite.2 ⟨fun _ => ?_, fun isOpen => ?_⟩)
    · exact ⟨trivial, offline.refl t, rfl⟩
    · exact Work.offline_onTypekit (by simpa using isOpen) (Typekit.covers_declareOpaque _ _ _ _)

end ProjectId

end Componentry
