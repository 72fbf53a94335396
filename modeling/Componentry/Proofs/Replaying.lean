import Componentry.Scope.Loading
import Componentry.Proofs.ComponentDeclarations

/-!
# Replaying descriptions

What a description says of a typekit and of components is declared by the same operations that
declare it one by one, so it takes steps of declarations only.
-/

namespace Componentry

open Declares

/-- A file that describes a typekit is read without an import. -/
theorem Work.offline_readTypekitFile (path : Files.Path) :
    offline.Covers (Work.readTypekitFile path) := by
  refine Effect.Covers.tryCatch (Work.offline_onFiles (Files.Change.covers_readText path))
    fun fault hf => ?_
  split
  · exact Effect.covers_throw rfl
  · exact Effect.covers_throw hf

/-- A file that describes a project is read without an import. -/
theorem Work.offline_readProjectFile (path : Files.Path) :
    offline.Covers (Work.readProjectFile path) := by
  refine Effect.Covers.tryCatch (Work.offline_onFiles (Files.Change.covers_readText path))
    fun fault hf => ?_
  split
  · exact Effect.covers_throw rfl
  · exact Effect.covers_throw rfl
  · exact Effect.covers_throw hf

namespace ComponentId

/-- The type of a port of a description is found, or declared as a pointer type. -/
theorem declaring_portType (c : ComponentId) (type : String) (pointer : Option Pointer) :
    declaring.Covers (c.portType type pointer) := by
  cases pointer with
  | none => exact Effect.covers_pure _
  | some pointer =>
    exact (Work.declaring_of_typing (c.typing_pointerType pointer _)).bind
      fun _ => Effect.covers_pure _

/-- An operation of a description is declared with its arguments. -/
theorem declaring_replayOperation (c : ComponentId) (d : Description.Operation) :
    declaring.Covers (c.replayOperation d) := by
  have described (o : OperationRef) : declaring.Covers (do
      d.arguments.forM fun a => o.addArgument a.name a.type a.doc
      o.setReturn d.returns
      if d.callerThread then o.runInCallerThread) := by
    refine (Effect.covers_forM fun a _ => o.declaring_addArgument _ _ _).bind fun _ => ?_
    refine (o.declaring_setReturn _).bind fun _ => ?_
    exact Effect.Covers.ite (fun _ => o.declaring_update fun _ => rfl) fun _ => Effect.covers_pure _
  refine Effect.Covers.ite (fun _ => (c.declaring_declareHiddenOperation _ _ _ _).bind described)
    fun _ => ?_
  refine (c.declaring_declareOperation _ _ _).bind fun o =>
    (o.declaring_update fun _ => by rfl).bind fun _ => ?_
  exact (o.declaring_update fun _ => by rfl).bind fun _ => described o

/-- The triggers of a description are declared. -/
theorem declaring_replayTriggers (c : ComponentId) (d : Description.Triggers) :
    declaring.Covers (c.replayTriggers d) := by
  cases d with
  | all on =>
    cases on with
    | true => exact c.declaring_portDriven []
    | false => exact Effect.covers_pure _
  | named ports =>
    exact Effect.Covers.ite (fun _ => Effect.covers_pure _) fun _ => c.declaring_portDriven ports

/-- All members of a component of a description are declared. -/
theorem declaring_replay (c : ComponentId) (d : Description.Component) :
    declaring.Covers (c.replay d) := by
  have refused {α : Type} (items : List α) {fault : Fault} (h : fault.isCycle = false) :
      declaring.Covers (items.forM fun _ => (throw fault : Work PUnit)) :=
    Effect.covers_forM fun _ _ => Effect.covers_throw h
  have members : declaring.Covers (do
      d.properties.forM fun s => discard (c.declareProperty s.name (.named s.type) s.default s.doc)
      d.attributes.forM fun s => discard (c.declareAttribute s.name (.named s.type) s.default s.doc)
      d.inputPorts.forM fun p => do
        discard (c.declareInput p.name (← c.portType p.type p.pointer) p.doc p.clearOnStart)
      d.outputPorts.forM fun p => do
        discard (c.declareOutput p.name (← c.portType p.type p.pointer) p.doc
          (.text p.retention.word))
      d.dynamicInputPorts.forM fun p =>
        discard (c.declareDynamic .input p.name (p.type.map .named) p.doc)
      d.dynamicOutputPorts.forM fun p =>
        discard (c.declareDynamic .output p.name (p.type.map .named) p.doc)
      c.replayTriggers d.portDriven
      d.operations.forM c.replayOperation
      d.hooks.forM fun hook => hook.2.forM fun statement =>
        c.addHookCode hook.1 (.text statement)) := by
    refine (Effect.covers_forM fun s _ => (c.declaring_declareProperty _ _ _ _).map).bind
      fun _ => ?_
    refine (Effect.covers_forM fun s _ => (c.declaring_declareAttribute _ _ _ _).map).bind
      fun _ => ?_
    refine (Effect.covers_forM fun p _ => (c.declaring_portType _ _).bind fun _ =>
      (c.declaring_declareInput _ _ _ _).map).bind fun _ => ?_
    refine (Effect.covers_forM fun p _ => (c.declaring_portType _ _).bind fun _ =>
      (c.declaring_declareOutput _ _ _ _).map).bind fun _ => ?_
    refine (Effect.covers_forM fun p _ => (c.declaring_declareDynamic _ _ _ _).map).bind fun _ => ?_
    refine (Effect.covers_forM fun p _ => (c.declaring_declareDynamic _ _ _ _).map).bind fun _ => ?_
    refine (c.declaring_replayTriggers _).bind fun _ => ?_
    refine (Effect.covers_forM fun o _ => c.declaring_replayOperation o).bind fun _ => ?_
    exact Effect.covers_forM fun hook _ =>
      Effect.covers_forM fun statement _ => c.declaring_addHookCode _ _
  have configured : declaring.Covers (do
      if d.needsConfiguration then c.needConfiguration
      _) :=
    Effect.Covers.ite (fun _ => c.declaring_needConfiguration.bind fun _ => members)
      fun _ => members
  refine (refused _ rfl).bind fun _ => (refused _ rfl).bind fun _ => ?_
  exact Effect.Covers.ite (fun _ => c.declaring_fixInitialState.bind fun _ => configured)
    fun _ => configured

end ComponentId

namespace ProjectId

/-- The typekit of a description is declared with its types and rules. -/
theorem typing_replayTypekit (p : ProjectId) (d : Description.Typekit) (baseDir : Files.Path) :
    typing.Covers (p.replayTypekit d baseDir) := by
  have readFile (path : Files.Path) : typing.Covers (Work.readTypekitFile path) :=
    Work.typing_of_offline (Work.offline_readTypekitFile path)
  have opaques : typing.Covers
      (d.opaques.forM
        fun m => discard (p.declareOpaque m.type m.marshalAs m.headers m.needsCopy)) :=
    Effect.covers_forM fun m _ => (p.typing_declareOpaque _ _ _ _).map
  have loaded (registry : String) (typelist : Option String) : typing.Covers (do
      discard (p.loadTypekit (← Work.readTypekitFile (baseDir.join registry)) typelist)
      d.opaques.forM fun m =>
        discard (p.declareOpaque m.type m.marshalAs m.headers m.needsCopy)) := by
    refine (readFile _).bind fun xml => ?_
    exact (p.typing_loadTypekit _ _).map.bind fun _ => opaques
  unfold replayTypekit
  cases d.registry with
  | none => exact (p.typing_typekit true).map.bind fun _ => opaques
  | some registry =>
    cases d.typelist with
    | none => exact loaded registry none
    | some typelist => exact (readFile _).map.bind fun text? => loaded registry text?

/-- The typekit of a description is declared as part of a project. -/
theorem declaring_replayTypekit (p : ProjectId) (d : Description.Typekit) (baseDir : Files.Path) :
    declaring.Covers (p.replayTypekit d baseDir) :=
  Work.declaring_of_typing (p.typing_replayTypekit d baseDir)

/-- A component of a description is declared with its members. -/
theorem declaring_replayComponent (p : ProjectId) (d : Description.Component) :
    declaring.Covers (p.replayComponent d) :=
  (p.declaring_declareComponent _ _ _).bind fun c => c.declaring_replay d

end ProjectId

end Componentry
