import Componentry.Proofs.Replaying

/-!
# Runs of declarations

The calls by which types, components and members are declared, and types and components are looked
up. A call that fails keeps what it has done before, and a run goes on after it. Every call takes
steps of declarations only.
-/

namespace Componentry

open Declares

/-- The state after an operation, whether it gives a value or fails. -/
def Work.after {α : Type} (x : Work α) (s : Store) : Store :=
  match x s with
  | .ok _ t => t
  | .error _ t => t

/-- What holds of both endings of an operation holds of the state after it. -/
theorem Work.after_of_ends {α : Type} {x : Work α} {s : Store} {Q : Store → Prop}
    (h : Ends x s (fun _ t => Q t) fun _ t => Q t) : Q (x.after s) := by
  unfold Ends at h
  unfold Work.after
  cases hx : x s with
  | ok a t => rw [hx] at h; exact h
  | error fault t => rw [hx] at h; exact h

/-- The state after an operation within an effect, whether it fails or not. -/
theorem Effect.Covers.after {α : Type} {E : Effect Fault Store} {x : Work α} (h : E.Covers x)
    {s : Store} (hs : E.holds s) : E.holds (x.after s) ∧ E.change s (x.after s) :=
  Work.after_of_ends (Q := fun t => E.holds t ∧ E.change s t)
    ((h s hs).mono (fun _ _ h => h) fun _ _ ⟨holds, change, _⟩ => ⟨holds, change⟩)

/-- Operations that stay within an effect do so one after the other, each after the one before has
given a value or failed. -/
theorem Effect.after_each {ι α : Type} {E : Effect Fault Store} {run : ι → Work α}
    (covers : ∀ i, E.Covers (run i)) (each : List ι) {s : Store} (hs : E.holds s) :
    E.holds (each.foldl (fun s i => (run i).after s) s) ∧
      E.change s (each.foldl (fun s i => (run i).after s) s) := by
  induction each generalizing s with
  | nil => exact ⟨hs, E.refl s⟩
  | cons i each ih =>
    obtain ⟨holds, change⟩ := (covers i).after hs
    obtain ⟨last, rest⟩ := ih holds
    exact ⟨last, E.trans change rest⟩

/-- A call that declares, or looks up what is declared. -/
inductive Declaration where
  | addType (p : ProjectId) (type : TypeDef)
  /-- Merges the definitions of another registry. -/
  | mergeTypes (p : ProjectId) (types : List TypeDef)
  | mergeDescriptor (p : ProjectId) (xml : String)
  | loadTypekit (p : ProjectId) (xml : String) (typelist : Option String)
  | declareOpaque (p : ProjectId) (name intermediate : String) (headers : List String)
    (needsCopy : Bool)
  | typekit (p : ProjectId) (create : Bool)
  | exportTypes (id : TypekitId) (names : List String) (interface : Bool)
  | declareOpaqueIn (id : TypekitId) (name intermediate : String) (headers : List String)
    (needsCopy : Bool)
  | hasTypekit (p : ProjectId) (name : String)
  | importTypekit (p : ProjectId) (name : String)
  | usingTypekit (p : ProjectId) (id : TypekitId)
  | usingTypekitNamed (p : ProjectId) (name : String)
  | findType (p : ProjectId) (type : TypeRef)
  | opaqueRule (p : ProjectId) (type : TypeRef)
  | intermediateName (p : ProjectId) (type : TypeRef)
  | declareComponent (p : ProjectId) (name : String) (superclass : ProjectId.Superclass)
    (doc : Option String)
  | findComponent (p : ProjectId) (name : String)
  | declareInput (c : ComponentId) (name : String) (type : TypeRef) (doc : Option String)
    (clearOnStart : Bool)
  | declareOutput (c : ComponentId) (name : String) (type : TypeRef) (doc : Option String)
    (keep : Scalar)
  | declareDynamic (c : ComponentId) (direction : Direction) (name : String) (type : Option TypeRef)
    (doc : Option String)
  | portDriven (c : ComponentId) (names : List String)
  | declareProperty (c : ComponentId) (name : String) (type : TypeRef) (default : Scalar)
    (doc : Option String)
  | declareAttribute (c : ComponentId) (name : String) (type : TypeRef) (default : Scalar)
    (doc : Option String)
  | declareOperation (c : ComponentId) (name : String) (doc methodName : Option String)
  | declareHiddenOperation (c : ComponentId) (name : String) (body doc methodName : Option String)
  | fixInitialState (c : ComponentId)
  | needConfiguration (c : ComponentId)
  | addHookCode (c : ComponentId) (hook : String) (code : Code)
  | addHeaderCode (c : ComponentId) (snippet : Snippet)
  | addImplementationCode (c : ComponentId) (snippet : Snippet)
  | addHandler (c : ComponentId) (handler : Handler)
  | addExtension (c : ComponentId) (extension : ComponentExtension)
  | pointerType (c : ComponentId) (pointer : Pointer) (type : TypeRef)
  | newOperation (o : Operation)
  | addArgument (r : OperationRef) (name type : String) (doc : Option String)
  | setReturn (r : OperationRef) (type : Option String)
  | runInCallerThread (r : OperationRef)
  | setHidden (r : OperationRef) (hidden : Bool)
  | setBody (r : OperationRef) (body : Option String)

namespace Declaration

/-- An operation on the registry in which a project looks up its types. -/
def onRegistryOf {α : Type} (p : ProjectId) (x : Registry.Extension α) : Work α := do
  Work.onRegistry ((← get).scope p).registry x

/-- Makes a call. -/
def run : Declaration → Work Unit
  | addType p type => discard (onRegistryOf p (Registry.add type))
  | mergeTypes p types => discard (onRegistryOf p (Registry.addAll types))
  | mergeDescriptor p xml => discard (onRegistryOf p (Descriptor.mergeInto xml))
  | loadTypekit p xml typelist => discard (p.loadTypekit xml typelist)
  | declareOpaque p name intermediate headers needsCopy =>
    discard (p.declareOpaque name intermediate headers needsCopy)
  | typekit p create => discard (p.typekit create)
  | exportTypes id names interface => Work.onTypekit id (Typekit.exportTypes names interface)
  | declareOpaqueIn id name intermediate headers needsCopy =>
    discard (Work.onTypekit id (Typekit.declareOpaque name intermediate headers needsCopy))
  | hasTypekit p name => discard (p.hasTypekit name)
  | importTypekit p name => discard (p.importTypekit name)
  | usingTypekit p id => discard (p.usingTypekit id)
  | usingTypekitNamed p name => do discard (p.usingTypekit (← p.importTypekit name))
  | findType p type => discard (p.findType type)
  | opaqueRule p type => discard (p.opaqueRule type)
  | intermediateName p type => discard (p.intermediateName type)
  | declareComponent p name superclass doc => discard (p.declareComponent name superclass doc)
  | findComponent p name => discard (p.findComponent name)
  | declareInput c name type doc clearOnStart => discard (c.declareInput name type doc clearOnStart)
  | declareOutput c name type doc keep => discard (c.declareOutput name type doc keep)
  | declareDynamic c direction name type doc => discard (c.declareDynamic direction name type doc)
  | portDriven c names => c.portDriven names
  | declareProperty c name type default doc => discard (c.declareProperty name type default doc)
  | declareAttribute c name type default doc => discard (c.declareAttribute name type default doc)
  | declareOperation c name doc methodName => discard (c.declareOperation name doc methodName)
  | declareHiddenOperation c name body doc methodName =>
    discard (c.declareHiddenOperation name body doc methodName)
  | fixInitialState c => c.fixInitialState
  | needConfiguration c => c.needConfiguration
  | addHookCode c hook code => c.addHookCode hook code
  | addHeaderCode c snippet => c.addHeaderCode snippet
  | addImplementationCode c snippet => c.addImplementationCode snippet
  | addHandler c handler => c.addHandler handler
  | addExtension c extension => c.addExtension extension
  | pointerType c pointer type => discard (c.pointerType pointer type)
  | newOperation o => discard (OperationRef.newFree o)
  | addArgument r name type doc => r.addArgument name type doc
  | setReturn r type => r.setReturn type
  | runInCallerThread r => r.runInCallerThread
  | setHidden r hidden => r.setHidden hidden
  | setBody r body => r.setBody body

/-- Whether a call concerns types and typekits only. -/
def concernsTypes : Declaration → Bool
  | addType .. | mergeTypes .. | mergeDescriptor .. | loadTypekit .. | declareOpaque .. | typekit ..
  | exportTypes .. | declareOpaqueIn .. | hasTypekit .. | importTypekit .. | usingTypekit ..
  | usingTypekitNamed .. | findType .. | opaqueRule .. | intermediateName .. => true
  | _ => false

/-- The registry of a scope grows by declarations of types. -/
private theorem typing_onRegistryOf {α : Type} (p : ProjectId) {x : Registry.Extension α}
    (h : Registry.growing.Covers x) : typing.Covers (onRegistryOf p x) :=
  Work.typing_of_offline <| Effect.covers_get_bind fun _ _ => Work.offline_onRegistry _ h

/-- A call that concerns types leaves the components as they are. -/
theorem typing_run {d : Declaration} (h : d.concernsTypes = true) : typing.Covers d.run := by
  cases d with
  | addType p type =>
    refine (typing_onRegistryOf p fun r hr => (Registry.ends_add type r).mono ?_ ?_).map
    · exact fun fresh r' ⟨htypes, _⟩ => ⟨trivial, _, htypes.symm⟩
    · rintro fault r' ⟨rfl, rfl⟩
      exact ⟨trivial, .refl _, rfl⟩
  | mergeTypes p types => exact (typing_onRegistryOf p (Registry.covers_addAll types)).map
  | mergeDescriptor p xml => exact (typing_onRegistryOf p (Registry.covers_mergeInto xml)).map
  | loadTypekit p xml typelist => exact (p.typing_loadTypekit xml typelist).map
  | declareOpaque p name intermediate headers needsCopy =>
    exact (p.typing_declareOpaque _ _ _ _).map
  | typekit p create => exact (p.typing_typekit create).map
  | exportTypes id names interface =>
    exact Work.typing_of_offline (Typekit.offline_exportTypes id names interface)
  | declareOpaqueIn id name intermediate headers needsCopy =>
    exact (Work.typing_of_offline (Typekit.offline_declareOpaque id _ _ _ _)).map
  | hasTypekit p name => exact (Work.typing_of_importing (p.importing_hasTypekit name)).map
  | importTypekit p name => exact (Work.typing_of_importing (p.importing_importTypekit name)).map
  | usingTypekit p id => exact (Work.typing_of_offline (p.offline_usingTypekit id)).map
  | usingTypekitNamed p name =>
    refine Work.typing_of_importing ((p.importing_importTypekit name).bind fun id => ?_)
    exact (Work.importing_of_offline (p.offline_usingTypekit id)).map
  | findType p type => exact (p.typing_findType type).map
  | opaqueRule p type => exact (p.typing_opaqueRule type).map
  | intermediateName p type => exact (p.typing_intermediateName type).map
  | _ => cases h

/-- Every call takes steps of declarations only, and leaves no import under way. -/
theorem covers_run (d : Declaration) : declaring.Covers d.run := by
  cases d with
  | addType | mergeTypes | mergeDescriptor | loadTypekit | declareOpaque | typekit | exportTypes
  | declareOpaqueIn | hasTypekit | importTypekit | usingTypekit | usingTypekitNamed | findType
  | opaqueRule | intermediateName =>
    exact Work.declaring_of_typing (typing_run rfl)
  | declareComponent p name superclass doc =>
    exact (p.declaring_declareComponent name superclass doc).map
  | findComponent p name =>
    refine Effect.Covers.map fun s hs => (p.ends_findComponent name s).mono ?_ ?_
    · rintro c t rfl
      exact ⟨hs, declaring.refl _⟩
    · rintro fault t ⟨rfl, hf⟩
      exact ⟨hs, declaring.refl _, hf⟩
  | declareInput c name type doc clearOnStart => exact (c.declaring_declareInput _ _ _ _).map
  | declareOutput c name type doc keep => exact (c.declaring_declareOutput _ _ _ _).map
  | declareDynamic c direction name type doc => exact (c.declaring_declareDynamic _ _ _ _).map
  | portDriven c names => exact c.declaring_portDriven names
  | declareProperty c name type default doc => exact (c.declaring_declareProperty _ _ _ _).map
  | declareAttribute c name type default doc => exact (c.declaring_declareAttribute _ _ _ _).map
  | declareOperation c name doc methodName => exact (c.declaring_declareOperation _ _ _).map
  | declareHiddenOperation c name body doc methodName =>
    exact (c.declaring_declareHiddenOperation _ _ _ _).map
  | fixInitialState c => exact c.declaring_fixInitialState
  | needConfiguration c => exact c.declaring_needConfiguration
  | addHookCode c hook code => exact c.declaring_addHookCode hook code
  | addHeaderCode c snippet => exact c.declaring_addHeaderCode snippet
  | addImplementationCode c snippet => exact c.declaring_addImplementationCode snippet
  | addHandler c handler => exact c.declaring_addHandler handler
  | addExtension c extension => exact c.declaring_addExtension extension
  | pointerType c pointer type =>
    exact (Work.declaring_of_typing (c.typing_pointerType pointer type)).map
  | newOperation o => exact (OperationRef.declaring_newFree o).map
  | addArgument r name type doc => exact r.declaring_addArgument name type doc
  | setReturn r type => exact r.declaring_setReturn type
  | runInCallerThread r => exact r.declaring_update fun _ => rfl
  | setHidden r hidden => exact r.declaring_update fun _ => rfl
  | setBody r body => exact r.declaring_update fun _ => rfl

end Declaration

end Componentry
