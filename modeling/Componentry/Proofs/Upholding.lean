import Componentry.Proofs.MemberDeclarations
import Componentry.Proofs.ProjectLoads

/-!
# What calls uphold

A call that declares something in a component keeps what declarations in the component uphold, and a
call that loads projects keeps what loads of libraries keep, if projects that are not imported keep
it as well.
-/

namespace Componentry

/-- Every operation belongs to a component, or to none. -/
theorem OperationRef.exists_in (r : OperationRef) : ∃ c, r.In c := by
  cases r with
  | owned c name => exact ⟨c, rfl⟩
  | free index => exact ⟨⟨0⟩, trivial⟩

/-- Whether a call declares something in a component, or changes an operation of it or of no
component. -/
def Declaration.DeclaresIn (c : ComponentId) : Declaration → Prop
  | declareInput d .. | declareOutput d .. | declareDynamic d .. | portDriven d _
  | declareProperty d .. | declareAttribute d .. | declareOperation d ..
  | declareHiddenOperation d .. | fixInitialState d | needConfiguration d | addHookCode d ..
  | addHeaderCode d _ | addImplementationCode d _ | addHandler d _ | addExtension d _
  | pointerType d .. => d = c
  | addArgument r .. | setReturn r _ | runInCallerThread r | setHidden r _ | setBody r _ => r.In c
  | newOperation _ => True
  | _ => False

/-- The types that a call gives to members of a component. -/
def Declaration.givenTypes : Declaration → List TypeRef
  | declareInput _ _ type .. | declareOutput _ _ type .. | declareProperty _ _ type ..
  | declareAttribute _ _ type .. | pointerType _ _ type => [type]
  | declareDynamic _ _ _ type _ => type.toList
  | _ => []

/-- A declaration in a component keeps what declarations in the component uphold, if its types can
be looked up. -/
theorem Upheld.run {c : ComponentId} {I : Store → Prop} {R : Fault → Prop}
    {known : Store → String → Prop} (h : Upheld c I R known fun _ => True) {d : Declaration}
    (inside : d.DeclaresIn c) (looked : ∀ type ∈ d.givenTypes, c.Finds I R known type) :
    Keeps I R d.run fun _ _ => True := by
  have discarded {α : Type} {x : Work α} (hx : Keeps I R x fun _ _ => True) :
      Keeps I R (discard x) fun _ _ => True :=
    hx.map fun _ _ _ => trivial
  have found {type : TypeRef} (given : d.givenTypes = [type]) : c.Finds I R known type :=
    looked type (by simp [given])
  cases d with
  | declareInput d name type doc clearOnStart =>
    cases inside
    exact discarded (h.declareInput trivial (found rfl) doc clearOnStart)
  | declareOutput d name type doc keep =>
    cases inside
    exact discarded (h.declareOutput trivial (found rfl) doc keep)
  | declareProperty d name type default doc =>
    cases inside
    exact discarded (h.declareProperty trivial (found rfl) default doc)
  | declareAttribute d name type default doc =>
    cases inside
    exact discarded (h.declareAttribute trivial (found rfl) default doc)
  | declareDynamic d direction name type doc =>
    cases inside
    cases type with
    | none => exact discarded (h.declareDynamicUntyped trivial direction doc)
    | some type => exact discarded (h.declareDynamicTyped trivial (found rfl) direction doc)
  | declareOperation d name doc methodName =>
    cases inside
    exact discarded (h.addOperation trivial ⟨rfl, rfl⟩)
  | declareHiddenOperation d name body doc methodName =>
    cases inside
    exact discarded (h.addOperation trivial ⟨rfl, rfl⟩)
  | portDriven d names =>
    cases inside
    exact h.portDriven names
  | fixInitialState d =>
    cases inside
    exact h.fixInitialState
  | needConfiguration d =>
    cases inside
    exact h.needConfiguration
  | addHookCode d hook code =>
    cases inside
    exact h.addHookCode hook code
  | addHeaderCode d snippet =>
    cases inside
    exact h.addHeaderCode snippet
  | addImplementationCode d snippet =>
    cases inside
    exact h.addImplementationCode snippet
  | addHandler d handler =>
    cases inside
    exact h.addHandler handler
  | addExtension d extension =>
    cases inside
    exact h.addExtension extension
  | pointerType d pointer type =>
    cases inside
    exact discarded (h.pointerType pointer (found rfl))
  | addArgument r name type doc => exact h.addArgument inside name type doc
  | setReturn r type => exact h.setReturn inside type
  | runInCallerThread | setHidden | setBody => exact h.update inside fun _ => ⟨rfl, rfl⟩
  | newOperation o => exact discarded fun s hs => ⟨h.free s _ hs, trivial⟩
  | _ => exact inside.elim

section Calls

variable {I : Store → Prop} {R : Fault → Prop}
  (h : Importable I R (fun _ _ => True) fun _ _ => True)
  (made : ∀ name baseDir packages package,
    Keeps I R (Work.newProject name baseDir packages none package) fun _ _ => True)
  (typekit : ∀ (p : ProjectId) t baseDir, Keeps I R (p.replayTypekit t baseDir) fun _ _ => True)

include h

/-- A project is made of its own, or as a library. -/
theorem Importable.keeps_newProject
    (made : ∀ name baseDir packages package,
      Keeps I R (Work.newProject name baseDir packages none package) fun _ _ => True)
    (name : String) (baseDir : Files.Path) (packages : PackageMapId) (main : Option ProjectId)
    (package : Option Package) :
    Keeps I R (Work.newProject name baseDir packages main package) fun _ _ => True := by
  cases main with
  | none => exact made name baseDir packages package
  | some m => exact fun s hs => h.library s m name baseDir packages package hs trivial

include made typekit

/-- Loads of projects keep what loads of libraries keep, and the typekits that descriptions
define. -/
theorem Importable.keeps_load (text label : String) (origin : Origin) :
    Keeps I R (Work.load text label origin) fun _ _ => True := by
  intro s hs
  refine ends_bind.2
    (Work.ends_ofExcept.2 ⟨fun d _ => ends_bind.2 (ends_get.2 ?_), fun _ _ _ => hs⟩)
  refine (h.ends_loadWithin (K := fun _ _ => True) (fun _ _ _ _ h => h)
    (fun p name s hs hp => ?_) d label ?_
    fun _ p t s hs _ => ?_).mono (fun _ _ h => ⟨h.1, trivial⟩) fun _ _ h => h
  · exact h.ends_usingLibraryWithin _ hs hp name
  · exact (h.keeps_newProject made _ _ _ _ _ s hs).mono (fun _ _ h => ⟨h.1, trivial, trivial⟩)
      fun _ _ h => h
  · exact (typekit p t _ s hs).mono (fun _ _ h => h.1) fun _ _ h => h

/-- Calls keep what loads and declarations keep. -/
theorem Importable.keeps_call {call : Call}
    (declares : ∀ d, call = .declare d → Keeps I R d.run fun _ _ => True) :
    Keeps I R call.run fun _ _ => True := by
  have discarded {α : Type} {x : Work α} (hx : Keeps I R x fun _ _ => True) :
      Keeps I R (discard x) fun _ _ => True :=
    hx.map fun _ _ _ => trivial
  cases call with
  | declare d => exact declares d rfl
  | newProject name baseDir packages main package =>
    exact discarded (h.keeps_newProject made _ _ _ _ _)
  | load text label origin => exact discarded (h.keeps_load made typekit text label origin)
  | loadFile path origin =>
    refine discarded fun s hs => ends_bind.2 ((Work.ends_readProjectFile path s).mono ?_ ?_)
    · rintro text t ⟨rfl, -⟩
      exact h.keeps_load made typekit _ _ _ t hs
    · rintro _ t ⟨rfl, -⟩ -
      exact hs
  | useLibrary p name =>
    refine discarded fun s hs => ?_
    exact (h.ends_usingLibrary hs trivial name).mono (fun _ _ h => ⟨h, trivial⟩) fun _ _ h => h
  | freeze p => exact h.freeze p

end Calls

end Componentry
