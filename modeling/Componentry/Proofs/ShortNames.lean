import Mathlib.Data.List.Find
import Componentry.Proofs.ComponentLoads
import Componentry.Proofs.FrozenModels

/-!
# Short names of components

A component goes by a short name, without that of its project, in its own project. Libraries that
are used there are searched by the full name only, and the full name of every component has that of
a project in front. But where a library has no component of a short name, the project that imports
it is searched by the same rule. So a short name that is looked up from a library can stand for a
component of that project.
-/

namespace Componentry

open Declares

section Qualified

/-- Colons that stand in a part of a text stand in the text. -/
theorem Interface.hasColons_append (before after : List Char) :
    hasColons (before ++ ':' :: ':' :: after) = true := by
  induction before with
  | nil => rfl
  | cons c before ih =>
    cases before with
    | nil =>
      rw [List.cons_append, List.nil_append, hasColons.eq_def]
      split
      · rfl
      · rename_i same
        cases same
        rfl
      · rename_i same
        cases same
    | cons d rest =>
      rw [List.cons_append, hasColons.eq_def]
      split
      · rfl
      · rename_i same
        cases same
        exact ih
      · rename_i same
        cases same

/-- The full name of a component has the name of a project in front. -/
theorem Project.hasColons_qualify (p : Project) (name : String) :
    Interface.hasColons (p.qualify name).toList = true := by
  rw [qualify]
  split
  · assumption
  · simpa [toString] using Interface.hasColons_append p.name.toList name.toList

end Qualified

/-- Outwards from a project, the project comes before those that import it. -/
theorem Projects.outwards_of_main {ps : Projects} {p m : ProjectId} (h : ps.main? p = some m) :
    ps.outwards p = p :: ps.outwards m := by
  rw [outwards]
  split
  · rename_i m' h'
    obtain rfl : m' = m := Option.some.inj (h'.symm.trans h)
    rfl
  · rename_i h'
    rw [h'] at h
    cases h

/-- A project without a main project is asked by itself. -/
theorem Projects.outwards_of_none {ps : Projects} {p : ProjectId} (h : ps.main? p = none) :
    ps.outwards p = [p] := by
  rw [outwards]
  split
  · rename_i m h'
    rw [h'] at h
    cases h
  · rfl

/-- A property of the components that changes of a component keep which leave its name as it is. -/
def Components.Stable (P : Components → Prop) : Prop :=
  ∀ cs (c : ComponentId) (f : Component → Component), P cs →
    (∀ k, (f k).interface.name = k.interface.name) → P (cs.modify c f)

namespace Components.Stable

variable {P : Components → Prop} (h : Stable P)

include h

/-- A stable property is upheld by the declarations of members. -/
theorem upheld (c : ComponentId) :
    Upheld c (Store.SettledWith P) (fun _ => True) (fun _ _ => True) fun _ => True where
  settled _ hs := hs.1
  finds name := (Work.keeps_of_typing (c.typing_findType (.named name)) _).mono (fun _ _ _ h => h)
    fun _ => id
  pointer s name target header hs := by
    have typing := (s.interface c).project.typing_declareOpaque name target [header] false
    exact (Work.keeps_of_typing typing _ s hs).mono (fun _ _ h => h.1) fun _ _ h => h
  member s m hs _ _ _ _ := ⟨hs.1, h s.components c _ hs.2 fun k => k.interface.name_withMember m⟩
  change s f hs retyped := ⟨hs.1, h s.components c f hs.2 fun k => (retyped k).name⟩
  free _ _ hs := hs

variable (declares : ∀ (p : ProjectId) name superclass doc,
  Keeps (Store.SettledWith P) (fun _ => True) (p.declareComponent name superclass doc)
    fun _ _ => True)

include declares

/-- A stable property is kept by the component of a description. -/
theorem keeps_replayComponent (p : ProjectId) (d : Description.Component) :
    Keeps (Store.SettledWith P) (fun _ => True) (p.replayComponent d) fun _ _ => True :=
  (declares p _ _ _).bind fun c => (h.upheld c).replay (fun _ => trivial) d

/-- A stable property is kept by each declaration. -/
theorem keeps_declaration (d : Declaration) :
    Keeps (Store.SettledWith P) (fun _ => True) d.run fun _ _ => True := by
  have discarded {α : Type} {x : Work α} (hx : Keeps (Store.SettledWith P) (fun _ => True) x
      fun _ _ => True) :
      Keeps (Store.SettledWith P) (fun _ => True) (discard x) fun _ _ => True :=
        hx.map fun _ _ _ => trivial
  have looked (c : ComponentId) (type : TypeRef) :
      c.Finds (Store.SettledWith P) (fun _ => True) (fun _ _ => True) type :=
    (Work.keeps_of_typing (c.typing_findType type) _).mono (fun _ _ _ h => h) fun _ => id
  cases d with
  | declareComponent p name superclass doc => exact discarded (declares p name superclass doc)
  | findComponent p name => exact discarded (p.keeps_findComponent name)
  | newOperation o => exact discarded fun s hs => ⟨hs, trivial⟩
  | declareInput c | declareOutput c | declareDynamic c | portDriven c | declareProperty c
  | declareAttribute c | declareOperation c | declareHiddenOperation c | fixInitialState c
  | needConfiguration c | addHookCode c | addHeaderCode c | addImplementationCode c | addHandler c
  | addExtension c | pointerType c =>
    exact (h.upheld c).run rfl fun type _ => looked c type
  | addArgument r | setReturn r | runInCallerThread r | setHidden r | setBody r =>
    obtain ⟨c, inside⟩ := r.exists_in
    exact (h.upheld c).run inside fun type _ => looked c type
  | _ => exact Work.keeps_of_typing (Declaration.typing_run rfl) _

/-- A stable property that declarations of components keep is kept in every run. -/
theorem runAll {s : Store} (hs : s.SettledWith P) (calls : List Call) :
    P (Call.runAll calls s).components := by
  have kept (s : Store) (hs : s.SettledWith P) (call : Call) :
      (call.run.after s).SettledWith P := by
    have keeps : Keeps (Store.SettledWith P) (fun _ => True) call.run fun _ _ => True :=
      Call.keeps_of_replays (h.keeps_replayComponent declares) fun d _ =>
        h.keeps_declaration declares d
    exact Work.after_of_ends ((keeps s hs).mono (fun _ _ ht => ht.1) fun _ _ ht => ht trivial)
  induction calls generalizing s with
  | nil => exact hs.2
  | cons call calls ih => exact ih (kept s hs call)

end Components.Stable

/-- Whether the names of all components are full names. -/
def Components.Qualified (cs : Components) : Prop :=
  ∀ c : ComponentId, c.index < cs.items.length →
    Interface.hasColons (cs.get c).interface.name.toList = true

/-- Full names are stable, as no change of a component touches its name. -/
theorem Components.stable_qualified : Stable Qualified := by
  intro cs c f h named d hd
  rw [modify, List.length_modify] at hd
  have same : ((cs.modify c f).get d).interface.name = (cs.get d).interface.name :=
    apply_modify (·.interface.name) named cs c d
  rw [same]
  exact h d hd

/-- A component is declared under a full name. -/
theorem ProjectId.keeps_qualified_declareComponent (p : ProjectId) (name : String)
    (superclass : Superclass) (doc : Option String) :
    Keeps (Store.SettledWith Components.Qualified) (fun _ => True)
      (p.declareComponent name superclass doc) fun _ _ => True := by
  intro s hs
  refine ((p.declaring_declareComponent name superclass doc s hs.1).and
    (p.ends_declareComponent_made name superclass doc s)).mono ?_ ?_
  · rintro c _ ⟨⟨settled, -⟩, -, base, known, -, rfl⟩
    refine ⟨⟨settled, fun d hd => ?_⟩, trivial⟩
    change Interface.hasColons ((s.components.push _ known).get d).interface.name.toList = true
    rw [Components.get_push]
    split
    · exact (s.project p).hasColons_qualify name
    · rename_i older
      have longer : d.index < s.components.items.length + 1 := by
        simpa [withComponent, Components.push] using hd
      have ne : d.index ≠ s.components.items.length :=
        fun same => older (congrArg ComponentId.mk same)
      exact hs.2 d (by omega)
  · rintro _ _ ⟨-, rfl⟩ -
    exact hs

namespace Store

variable {s : Store}

/-- The component that goes by a short name in a project. -/
def shortNamed (s : Store) (p : ProjectId) (name : String) : Option ComponentId :=
  (s.project p).components.find? fun c => (s.interface c).basename == name

/-- The component that goes by a short name in the first project that has one, outwards from a
project. -/
def outwardNamed (s : Store) (p : ProjectId) (name : String) : Option ComponentId :=
  (s.projects.outwards p).findSome? fun q => s.shortNamed q name

/-- No component has a short name if each has another one. -/
theorem shortNamed_eq_none {p : ProjectId} {name : String} :
    s.shortNamed p name = none ↔
      ∀ c ∈ (s.project p).components, (s.interface c).basename ≠ name := by
  simp [shortNamed]

/-- A component of a short name belongs to the project. -/
theorem mem_of_shortNamed {p : ProjectId} {name : String} {c : ComponentId}
    (h : s.shortNamed p name = some c) :
    c ∈ (s.project p).components ∧ (s.interface c).basename = name :=
  ⟨List.mem_of_find?_eq_some h, by simpa using List.find?_some h⟩

/-- Whether the components that the projects list are their own, and have full names. -/
structure Named (s : Store) : Prop where
  own : s.OwnComponents
  qualified : s.components.Qualified

/-- No component has a short name as its full name. -/
theorem Named.ne_short (h : s.Named) {p : ProjectId} {name : String}
    (short : Interface.hasColons name.toList = false) {c : ComponentId}
    (mem : c ∈ (s.project p).components) : (s.interface c).name ≠ name := by
  rintro rfl
  have full : Interface.hasColons (s.interface c).name.toList = true :=
    h.qualified c (h.own p c mem).1
  rw [full] at short
  cases short

/-- By a short name, a project gives a component of its own. -/
theorem Named.findInProject_eq (h : s.Named) (p : ProjectId) {name : String}
    (short : Interface.hasColons name.toList = false) :
    ProjectId.findInProject s p name = s.shortNamed p name := by
  have own : ((s.project p).components.find? fun c => ProjectId.answersTo (s.interface c) name) =
      s.shortNamed p name := by
    refine List.find?_congr fun c mem => ?_
    simp [ProjectId.answersTo, short, h.ne_short short mem]
  have libraries (qs : List ProjectId) : (qs.findSome? fun q =>
      (s.project q).components.find? fun c => (s.interface c).name == name) = none := by
    rw [List.findSome?_eq_none_iff]
    intro q _
    rw [List.find?_eq_none]
    intro c mem
    simpa using h.ne_short short mem
  simp only [ProjectId.findInProject, own, libraries, Option.or_none]

/-- A short name is looked up outwards, and the fault names the outermost project. -/
theorem Named.findComponent_eq (h : s.Named) (p : ProjectId) {name : String}
    (short : Interface.hasColons name.toList = false) :
    p.findComponent name s = match s.outwardNamed p name with
      | some c => .ok c s
      | none =>
        .error (.componentNotFound name
          (s.project ((s.projects.outwards p).getLastD p)).name) s := by
  have same : ((s.projects.outwards p).findSome? fun q => ProjectId.findInProject s q name) =
      s.outwardNamed p name :=
    congrArg (List.findSome? · _) (funext fun q => h.findInProject_eq q short)
  have run : p.findComponent name s =
      (match (s.projects.outwards p).findSome? fun q => ProjectId.findInProject s q name with
        | some c => pure c
        | none =>
          throw (.componentNotFound name (s.project ((s.projects.outwards p).getLastD p)).name) :
            Work ComponentId) s := rfl
  rw [run, same]
  cases s.outwardNamed p name <;> rfl

/-- A short name is found outwards if a project on the way has a component of it. -/
theorem outwardNamed_isSome {p : ProjectId} {name : String} : (s.outwardNamed p name).isSome ↔
    ∃ q ∈ s.projects.outwards p, ∃ c ∈ (s.project q).components, (s.interface c).basename =
      name := by
  simp [outwardNamed, shortNamed]

/-- A component that is found outwards has the short name. -/
theorem basename_of_outwardNamed {p : ProjectId} {name : String} {c : ComponentId}
    (h : s.outwardNamed p name = some c) :
    (s.interface c).basename = name := by
  obtain ⟨q, -, found⟩ := List.exists_of_findSome?_eq_some h
  exact (mem_of_shortNamed found).2

/-- A project is searched before those that import it. -/
theorem outwardNamed_of_shortNamed {p : ProjectId} {name : String} {c : ComponentId}
    (h : s.shortNamed p name = some c) :
    s.outwardNamed p name = some c := by
  rw [outwardNamed]
  cases main : s.projects.main? p with
  | none => simp [Projects.outwards_of_none main, h]
  | some m => simp [Projects.outwards_of_main main, h]

end Store

/-- Whether a lookup by a name gives a component of the project, or says that there is none. -/
def ProjectId.FindsOwn (p : ProjectId) (name : String) (s : Store) : Prop :=
  Ends (p.findComponent name) s
    (fun c t => t = s ∧ c ∈ (s.project p).components ∧ (s.interface c).project = p)
    fun fault t => t = s ∧ ∃ project, fault = .componentNotFound name project

namespace Store.Named

variable {s : Store} (h : s.Named) (p : ProjectId) {name : String}
  (short : Interface.hasColons name.toList = false)

include h short

/-- A lookup by a short name keeps to the project exactly if the project has a component of that
name or none has from which it is imported. -/
theorem findsOwn_iff : p.FindsOwn name s ↔
    ((∃ q ∈ s.projects.outwards p, ∃ c ∈ (s.project q).components,
      (s.interface c).basename = name) →
      ∃ c ∈ (s.project p).components, (s.interface c).basename = name) := by
  have found := h.findComponent_eq p short
  rw [← Store.outwardNamed_isSome, ProjectId.FindsOwn]
  cases outward : s.outwardNamed p name with
  | none =>
    rw [outward] at found
    exact iff_of_true (ends_iff.2 (by simp [found])) fun some => nomatch some
  | some c =>
    rw [outward] at found
    constructor
    · intro ends _
      have listed : c ∈ (s.project p).components := (ends.of_ok found).2.1
      exact ⟨c, listed, Store.basename_of_outwardNamed outward⟩
    · intro own
      obtain ⟨d, mem, named⟩ := own rfl
      cases ofOwn : s.shortNamed p name with
      | none => exact absurd named (Store.shortNamed_eq_none.1 ofOwn d mem)
      | some e =>
        obtain rfl : e = c :=
          Option.some.inj ((Store.outwardNamed_of_shortNamed ofOwn).symm.trans outward)
        have listed := (Store.mem_of_shortNamed ofOwn).1
        exact ends_of_eq_ok found ⟨rfl, listed, (h.own p e listed).2⟩

/-- The component that a description names by a short name is the one that is found by it. -/
theorem ends_replayComponent (settled : declaring.holds s) {d : Description.Component}
    (base : d.subclasses = some name) :
    Ends (p.replayComponent d) s
      (fun _ t => ∃ c, s.outwardNamed p name = some c ∧
        (t.interface s.components.next).superclass = some c)
      fun _ _ => True := by
  have derives (base : Option ComponentId) (c : ComponentId) :
      Components.Stable fun cs => (cs.get c).interface.superclass = base := by
    intro cs e f kept _
    exact (Components.apply_modify (·.interface.superclass) (f := f)
      (fun _ => rfl) cs e c).trans kept
  refine ends_bind.2 (((p.declaring_declareComponent _ _ _ s settled).and
    (p.ends_declareComponent_made _ _ _ s)).mono ?_ fun _ _ _ => trivial)
  rintro _ _ ⟨⟨ready, -⟩, rfl, b, known, gives, rfl⟩
  rw [base] at gives
  obtain ⟨c, rfl, found⟩ := gives
  have outward : s.outwardNamed p name = some c := by
    rw [h.findComponent_eq p short] at found
    cases outward : s.outwardNamed p name with
    | none => simp [outward] at found
    | some e =>
      rw [outward] at found
      cases found
      rfl
  have made (k : Component)
      (known : ∀ b, k.interface.superclass = some b → b.index < s.components.items.length) :
      ((p.withComponent k s known).components.get s.components.next).interface.superclass =
        k.interface.superclass := by
    change ((s.components.push k known).get s.components.next).interface.superclass = _
    rw [Components.get_push, if_pos rfl]
  have replayed :=
    ((derives (some c) s.components.next).upheld s.components.next).replay (fun _ => trivial) d _
    ⟨ready, made _ known⟩
  exact replayed.mono (fun _ t ht => ⟨c, outward, ht.1.2⟩) fun _ _ _ => trivial

end Store.Named

/-- In a run on any projects, a short name that is looked up from a project stands for the first
component of that name, outwards from the project. The lookup keeps to the project exactly if the
project has a component of that name or no project has one from which it is imported; what a
description derives from by a short name is found in the same way. -/
theorem shortName_lookups (files : Files.Tree) (packageMaps : List PackageMap) (calls : List Call)
    (p : ProjectId) (name : String) (short : Interface.hasColons name.toList = false) :
    let s := Call.runAll calls { files, packageMaps }
    (p.findComponent name s = match s.outwardNamed p name with
      | some c => .ok c s
      | none =>
        .error (.componentNotFound name (s.project ((s.projects.outwards p).getLastD p)).name) s) ∧
    (p.FindsOwn name s ↔
      ((∃ q ∈ s.projects.outwards p, ∃ c ∈ (s.project q).components,
        (s.interface c).basename = name) →
        ∃ c ∈ (s.project p).components, (s.interface c).basename = name)) ∧
    ∀ d : Description.Component, d.subclasses = some name → Ends (p.replayComponent d) s
      (fun _ t => ∃ c, s.outwardNamed p name = some c ∧
        (t.interface s.components.next).superclass = some c)
      fun _ _ => True := by
  intro s
  have start : declaring.holds ({ files, packageMaps } : Store) := settled_of_empty rfl
  obtain ⟨settled, steps⟩ := Call.evolves_runAll start calls
  have qualified : s.components.Qualified :=
    Components.stable_qualified.runAll ProjectId.keeps_qualified_declareComponent
      ⟨start, fun c hc => absurd hc (Nat.not_lt_zero _)⟩ calls
  have named : s.Named := ⟨steps.ownComponents (.of_empty rfl), qualified⟩
  refine ⟨named.findComponent_eq p short, named.findsOwn_iff p short, fun d base => ?_⟩
  exact named.ends_replayComponent p short settled base

/-- A project declares a component and imports a library without components. -/
def emptyLibrary : List Call :=
  [.newProject "app" ⟨"/", []⟩ ⟨0⟩ none none, .declare (.declareComponent ⟨0⟩ "A" .framework none),
    .newProject "lib" ⟨"/", []⟩ ⟨0⟩ (some ⟨0⟩) none]

/-- By its short name, the library finds the component of the project that imports it. -/
theorem shortName_lookups_emptyLibrary :
    let s := Call.runAll emptyLibrary {}
    Interface.hasColons "A".toList = false ∧ s.projects.main? ⟨1⟩ = some ⟨0⟩ ∧
      (s.interface ⟨0⟩).project = ⟨0⟩ ∧
      (⟨1⟩ : ProjectId).findComponent "A" s = .ok ⟨0⟩ s ∧ ¬(⟨1⟩ : ProjectId).FindsOwn "A" s ∧
        ∀ d : Description.Component, d.subclasses = some "A" →
          Ends ((⟨1⟩ : ProjectId).replayComponent d) s
          (fun _ t => (t.interface ⟨1⟩).superclass = some ⟨0⟩) fun _ _ => True := by
  intro s
  have short : Interface.hasColons "A".toList = false := by decide
  have imported : s.projects.main? ⟨1⟩ = some ⟨0⟩ := by decide +kernel
  have isMain : s.projects.main? ⟨0⟩ = none := by decide +kernel
  have listed : (s.project ⟨0⟩).components = [⟨0⟩] ∧ (s.project ⟨1⟩).components = [] := by
    decide +kernel
  have made : s.components.next = ⟨1⟩ ∧ (s.interface ⟨0⟩).project = ⟨0⟩ ∧
      (s.interface ⟨0⟩).basename = "A" := by
    decide +kernel
  have outward : s.outwardNamed ⟨1⟩ "A" = some ⟨0⟩ := by
    simp [Store.outwardNamed, Projects.outwards_of_main imported, Projects.outwards_of_none isMain,
      Store.shortNamed, listed, made.2.2]
  have held : ∃ q ∈ s.projects.outwards ⟨1⟩, ∃ c ∈ (s.project q).components,
      (s.interface c).basename = "A" :=
    Store.outwardNamed_isSome.1 (Option.isSome_of_eq_some outward)
  obtain ⟨found, own, described⟩ := shortName_lookups {} [] emptyLibrary ⟨1⟩ "A" short
  rw [outward] at found
  refine ⟨short, imported, made.2.1, found, fun kept => ?_, fun d base => ?_⟩
  · obtain ⟨c, mem, -⟩ := own.1 kept held
    have missing : c ∉ (s.project ⟨1⟩).components := by simp [listed.2]
    exact missing mem
  · refine (described d base).mono ?_ fun _ _ _ => trivial
    rintro _ t ⟨c, found, derives⟩
    obtain rfl : ⟨0⟩ = c := Option.some.inj (outward.symm.trans found)
    rwa [made.1] at derives

end Componentry
