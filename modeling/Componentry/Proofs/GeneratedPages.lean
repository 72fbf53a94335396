import Componentry.Proofs.FileDeliveries

/-!
# Pages in generated files

The files of a component hold the pages that show it, and the files of a typekit hold its pages and
its typelist, once a generation has written all of them.
-/

namespace Componentry

open Files (Path Place Plan Tree Change reading altering)
open Generation (Layout linkLayout componentLayout typekitLayout conversionPaths)

namespace Generation

/-- The files of a component of which a generation tells. -/
def ComponentFiles.paths (f : ComponentFiles) : List Path :=
  [f.baseHeader, f.baseSource, f.userHeader, f.userSource]

/-- The files of a component hold its pages, and its links lead to its headers. -/
structure ComponentFiles.Hold (f : ComponentFiles) (renderer : Renderer) (v : ComponentView)
    (linked : Bool) (leads : Tree → Path → Path → Prop) (t : Tree) : Prop where
  baseHeader : t.Has f.baseHeader (renderer (.baseHeader v))
  baseSource : t.Has f.baseSource (renderer (.baseSource v))
  userHeader : t.Has f.userHeader (renderer (.userHeader v))
  userSource : t.Has f.userSource (renderer (.userSource v))
  links : List.Forall₂ (leads t) (if linked then [f.userHeader, f.baseHeader] else []) f.links

/-- The files of a typekit of which a generation tells. -/
def TypekitFiles.paths (f : TypekitFiles) : List Path :=
  f.typesHeader :: f.typelist :: f.conversions

/-- The files of a typekit hold its pages and its typelist, and its links lead to its headers. -/
structure TypekitFiles.Hold (f : TypekitFiles) (renderer : Renderer) (v : TypekitView)
    (typelist : String) (linked : Bool) (leads : Tree → Path → Path → Prop) (t : Tree) : Prop where
  typesHeader : t.Has f.typesHeader (renderer (.types v))
  typelist : t.Has f.typelist typelist
  conversions : List.Forall₂ t.Has f.conversions
    (if v.conversions.isEmpty then []
      else [renderer (.conversionsHeader v), renderer (.conversionsSource v)])
  links :
    List.Forall₂ (leads t) (if linked then f.typesHeader :: f.conversions.take 1 else []) f.links

end Generation

open Generation (Renderer ComponentView ComponentFiles TypekitView TypekitFiles ProjectFiles)

/-- The pages of a component show what was collected, with the components and the names of projects
of one state. -/
def ComponentId.Shows (c : ComponentId) (s : Store) (v : ComponentView) : Prop :=
  ∃ t k u base user, c.collect t = .ok k u ∧ u.components = s.components ∧
    (∀ q, (u.project q).outline = (s.project q).outline) ∧ Generation.baseClass u c k = .ok base ∧
      Generation.userClass u c k = .ok user ∧ v = Generation.componentView u c base user

/-- The layout of a component. -/
def ComponentId.layout (c : ComponentId) (s : Store) (w : FileWriter) : Layout :=
  componentLayout w (s.project (s.interface c).project).name (s.interface c).basename

/-- The files of a component hold the pages that were made for it. -/
def ComponentId.Written (c : ComponentId) (s : Store) (w : FileWriter) (renderer : Renderer)
    (leads : Tree → Path → Path → Prop) (f : ComponentFiles) (t : Tree) : Prop :=
  f.paths = (c.layout s w).reported ∧ ∃ v, c.Shows s v ∧ f.Hold renderer v w.links leads t

/-- The files of a typekit hold the pages and the typelist that were made for it. -/
def TypekitId.Written (id : TypekitId) (p : ProjectId) (s : Store) (w : FileWriter)
    (renderer : Renderer) (leads : Tree → Path → Path → Prop) (f : TypekitFiles)
    (t : Tree) : Prop :=
  f.paths = (typekitLayout w (s.typekit id)).reported ∧ ∃ v text,
    Generation.typekitView s p (s.typekit id) = .ok v ∧ (s.typekit id).types.serialize = .ok text ∧
      f.Hold renderer v text w.links leads t

namespace Run

variable {start : Tree} {W : Plan} {aside : W.LinksAside start} {s₀ : Store} {L M : Layout}
  {α : Type}

/-- The reported files of a layout with links. -/
theorem reported_append_links (w : FileWriter) (name : String) (targets : List Path) :
    (L.append (linkLayout w name targets)).reported = L.reported := by
  rw [linkLayout]
  split <;> simp [Layout.reported, Layout.append]

/-- A page that is rendered is what the renderer makes of it. -/
theorem gives_render (renderer : Renderer) (page : Generation.Page) :
    (onStore aside s₀).Gives (Generation.render renderer page) (· = renderer page) :=
  fun _ hs => ⟨hs, rfl, rfl⟩

/-- A file that was written at a path of a layout stays as it is. -/
theorem owns_written {σ : Type} {R : Run σ} {p : Path} (hp : p ∈ L.reported) (text : String)
    (path : Path) :
    R.Owns L fun t => path = p ∧ t.Has path text := by
  rintro M t t' fits fits' beside sofar change ⟨rfl, here⟩
  exact ⟨rfl, owns_has hp text M t t' fits fits' beside sofar change here⟩

/-- The texts of paths that are reported are owned by the layout. -/
theorem owns_hasEach {σ : Type} {R : Run σ} {paths : List Path} (hpaths : paths ⊆ L.reported)
    (texts : List String) :
    R.Owns L fun t => List.Forall₂ t.Has paths texts := by
  intro M t t' fits fits' beside sofar change here
  refine ((List.forall₂_and_left _ _).2 ⟨hpaths, here⟩).imp fun p text ⟨hp, has⟩ => ?_
  exact owns_has hp text M t t' fits fits' beside sofar change has

/-- The files of a component are written. -/
theorem delivers_writeComponent (aside : W.LinksAside start) (s₀ : Store) (w : FileWriter)
    (renderer : Renderer) (c : ComponentId) (v : ComponentView) :
    (onStore aside s₀).Delivers (componentLayout w v.projectName v.basename)
      (Generation.writeComponent w renderer c v) fun out t =>
        out.paths = (componentLayout w v.projectName v.basename).reported ∧
          out.Hold renderer v w.links
            (Linked start W (componentLayout w v.projectName v.basename)) t := by
  refine .of_fits fun fits => ?_
  have clear (p : Path) (hp : p ∈ (componentLayout w v.projectName v.basename).reported) :
      W.Clears start p :=
    fits.clears (List.mem_append_left _ (Layout.mem_files.2 (.inl hp)))
  have reported : (componentLayout w v.projectName v.basename).reported =
      [w.automaticPath ["tasks", v.basename ++ "Base.hpp"],
        w.automaticPath ["tasks", v.basename ++ "Base.cpp"],
        w.userPath ["tasks", v.basename ++ ".hpp"], w.userPath ["tasks", v.basename ++ ".cpp"]] :=
    reported_append_links _ _ _
  change (onStore aside s₀).Delivers
    (Layout.append { automatic := [w.automaticPath ["tasks", v.basename ++ "Base.hpp"]] }
    (Layout.append { automatic := [w.automaticPath ["tasks", v.basename ++ "Base.cpp"]] }
    (Layout.append
      { templates := [w.templatePath ["tasks", v.basename ++ ".hpp"]]
        user := [w.userPath ["tasks", v.basename ++ ".hpp"]] }
    (Layout.append
      { templates := [w.templatePath ["tasks", v.basename ++ ".cpp"]]
        user := [w.userPath ["tasks", v.basename ++ ".cpp"]] }
    (linkLayout w (Text.lower v.projectName) [w.userPath ["tasks", v.basename ++ ".hpp"],
      w.automaticPath ["tasks", v.basename ++ "Base.hpp"]]))))) _ _
  refine .read (gives_render _ _) ?_
  rintro _ rfl
  refine (delivers_saveAutomatic _ _ _).bind (owns_written (by simp [Layout.reported]) _) ?_
  rintro _ - ⟨rfl, -⟩
  refine .read (gives_render _ _) ?_
  rintro _ rfl
  refine (delivers_saveAutomatic _ _ _).bind (owns_written (by simp [Layout.reported]) _) ?_
  rintro _ - ⟨rfl, -⟩
  refine .read (gives_render _ _) ?_
  rintro _ rfl
  refine (delivers_saveUser _ _ _).bind (owns_written (by simp [Layout.reported]) _) ?_
  rintro _ - ⟨rfl, -⟩
  refine .read (gives_render _ _) ?_
  rintro _ rfl
  refine (delivers_saveUser _ _ _).bind (owns_written (by simp [Layout.reported]) _) ?_
  rintro _ - ⟨rfl, -⟩
  refine .read (gives_of_covers (Generation.generating_constructorWarnings permits_looking c _))
    fun sourceWarnings _ => ?_
  refine .read (gives_of_covers (Generation.generating_constructorWarnings permits_looking c _))
    fun headerWarnings _ => ?_
  refine .read (gives_of_covers (Effect.covers_forM fun warning _ => Work.generating_log _ _ _))
    fun _ _ => ?_
  refine (delivers_fakeInstall w ?_).bind_gives fun links => gives_pure fun t linked => ?_
  · intro target htarget
    refine clear target ?_
    rw [reported]
    simp only [List.mem_cons, List.not_mem_nil, or_false] at htarget ⊢
    tauto
  · rintro ⟨-, userSource⟩ ⟨-, userHeader⟩ ⟨-, baseSource⟩ ⟨-, baseHeader⟩
    refine ⟨reported.symm, baseHeader, baseSource, userHeader, userSource, ?_⟩
    exact linked.imp fun target l h => h.mono (List.subset_append_right _ _)

/-- What holds of the paths of links is kept while the links are. -/
theorem owns_links {σ : Type} {R : Run σ} (targets links : List Path) :
    R.Owns L fun t => List.Forall₂ (Linked R.start R.plan L t) targets links :=
  fun M t t' fits fits' beside sofar change linked =>
    linked.imp fun target l h => owns_linked target l M t t' fits fits' beside sofar change h

/-- What is written for a component is kept by what is written beside it. -/
theorem owns_component {σ : Type} {R : Run σ} (c : ComponentId) (w : FileWriter)
    (renderer : Renderer) (out : ComponentFiles) :
    R.Owns (c.layout s₀ w)
      (c.Written s₀ w renderer (Linked R.start R.plan (c.layout s₀ w)) out) := by
  rintro M t t' fits fits' beside sofar change ⟨paths, v, shows, hold⟩
  have kept {p : Path} (hp : p ∈ out.paths) {text : String} (here : t.Has p text) : t'.Has p text :=
    owns_has (paths ▸ hp) text M t t' fits fits' beside sofar change here
  refine ⟨paths, v, shows, kept ?_ hold.baseHeader, kept ?_ hold.baseSource,
    kept ?_ hold.userHeader,
    kept ?_ hold.userSource, owns_links _ _ M t t' fits fits' beside sofar change hold.links⟩
  all_goals simp [ComponentFiles.paths]

/-- A component is generated. -/
theorem delivers_generate (c : ComponentId) (w : FileWriter) (renderer : Renderer) :
    (onStore aside s₀).Delivers (c.layout s₀ w) (c.generate (some w) renderer)
      (c.Written s₀ w renderer (Linked start W (c.layout s₀ w))) := by
  have interface {s : Store} (hs : (onStore aside s₀).holds s) :
      s.interface c = s₀.interface c := by
    rw [Store.interface, Store.component, hs.2.2.1]
    rfl
  have name {s : Store} (hs : (onStore aside s₀).holds s) (q : ProjectId) :
      (s.project q).name = (s₀.project q).name :=
    Project.congr_outline (hs.2.2.2 q) (·.name) fun _ => rfl
  have checks : (generating s₀ (looking start W)).Covers c.checkOpaques :=
    Effect.covers_get.bind fun _ => (Work.generating_ofExcept _).map
  intro s
  refine .step rfl (.unless fun _ => .read (gives_log _ _ _) fun _ _ _ _ _ => ?_)
  refine .read (gives_of_covers checks) fun _ _ _ _ _ => ?_
  refine .read (gives_of_covers (Generation.generating_collect c))
    fun k u collected _ hu => .step rfl ?_
  refine Delivers.read (gives_ofExcept _)
    (fun base hbase => .read (gives_ofExcept _) fun user huser => ?_) u
  have written :=
    delivers_writeComponent aside s₀ w renderer c (Generation.componentView u c base user)
  have layout : componentLayout w (Generation.componentView u c base user).projectName
      (Generation.componentView u c base user).basename = c.layout s₀ w := by
    simp only [Generation.componentView, interface hu, name hu, ComponentId.layout]
  rw [layout] at written
  refine written.mono fun out t hold => ⟨hold.1, _, ?_, hold.2⟩
  exact ⟨_, k, u, base, user, collected, hu.2.2.1, hu.2.2.2, hbase, huser, rfl⟩

/-- The conversions of a typekit are written. -/
theorem delivers_writeConversions (w : FileWriter) (renderer : Renderer) (k : Typekit)
    (v : TypekitView) (conversions : v.conversions.isEmpty = k.opaques.isEmpty) :
    (onStore aside s₀).Delivers { automatic := conversionPaths w k }
      (Generation.writeConversions w renderer v)
      fun paths t => paths = conversionPaths w k ∧ List.Forall₂ t.Has paths
        (if v.conversions.isEmpty then []
          else [renderer (.conversionsHeader v), renderer (.conversionsSource v)]) := by
  unfold Generation.writeConversions conversionPaths
  rw [← conversions]
  cases v.conversions.isEmpty with
  | true =>
    refine (gives_pure (P := (· = [])) rfl).delivers.mono ?_
    rintro _ t rfl
    exact ⟨rfl, .nil⟩
  | false =>
    change (onStore aside s₀).Delivers
      (Layout.append { automatic := [w.automaticPath ["typekit", "OpaqueConvertions.hpp"]] }
        { automatic := [w.automaticPath ["typekit", "OpaqueConvertions.cpp"]] }) _ _
    refine .read (gives_render _ _) ?_
    rintro _ rfl
    refine (delivers_saveAutomatic _ _ _).bind (owns_written (by simp [Layout.reported]) _) ?_
    rintro _ - ⟨rfl, -⟩
    refine .read (gives_render _ _) ?_
    rintro _ rfl
    refine (delivers_saveAutomatic _ _ _).bind_gives fun source => gives_pure ?_
    rintro t ⟨rfl, source⟩ ⟨-, header⟩
    exact ⟨rfl, .cons header (.cons source .nil)⟩

/-- The files of a typekit are written. -/
theorem delivers_writeTypekit (w : FileWriter) (renderer : Renderer) (k : Typekit) (v : TypekitView)
    (conversions : v.conversions.isEmpty = k.opaques.isEmpty) :
    (onStore aside s₀).Delivers (typekitLayout w k) (Generation.writeTypekit w renderer k v)
        fun out t =>
      out.paths = (typekitLayout w k).reported ∧ ∃ text, k.types.serialize = .ok text ∧
        out.Hold renderer v text w.links (Linked start W (typekitLayout w k)) t := by
  refine .of_fits fun fits => ?_
  have clear (p : Path) (hp : p ∈ (typekitLayout w k).reported) : W.Clears start p :=
    fits.clears (List.mem_append_left _ (Layout.mem_files.2 (.inl hp)))
  have reported : (typekitLayout w k).reported = w.automaticPath ["typekit", "Types.hpp"] ::
      w.automaticPath ["typekit", k.name ++ ".typelist"] :: conversionPaths w k := by
    rw [typekitLayout, reported_append_links]
    exact List.append_nil _
  change (onStore aside s₀).Delivers
    (Layout.append { automatic := [w.automaticPath ["typekit", "Types.hpp"]] }
    (Layout.append { automatic := [w.automaticPath ["typekit", k.name ++ ".typelist"]] }
    (Layout.append { automatic := conversionPaths w k }
    (linkLayout w (Text.lower k.name)
      (w.automaticPath ["typekit", "Types.hpp"] :: (conversionPaths w k).take 1))))) _ _
  refine .read (gives_render _ _) ?_
  rintro _ rfl
  refine (delivers_saveAutomatic _ _ _).bind (owns_written (by simp [Layout.reported]) _) ?_
  rintro _ - ⟨rfl, -⟩
  refine .read (gives_ofExcept _) fun text htext => ?_
  refine (delivers_saveAutomatic _ _ _).bind (owns_written (by simp [Layout.reported]) _) ?_
  rintro _ - ⟨rfl, -⟩
  refine (delivers_writeConversions w renderer k v conversions).bind (fun paths => ?_) ?_
  · rintro M t t' fits fits' beside sofar change ⟨rfl, here⟩
    exact ⟨rfl,
      owns_hasEach (List.subset_append_left _ _) _ M t t' fits fits' beside sofar change here⟩
  rintro _ - ⟨rfl, -⟩
  refine (delivers_fakeInstall w ?_).bind_gives fun links => gives_pure fun t linked => ?_
  · intro target htarget
    refine clear target ?_
    rw [reported]
    rcases List.mem_cons.1 htarget with rfl | htarget
    · exact List.mem_cons_self
    · exact List.mem_cons_of_mem _ (List.mem_cons_of_mem _ (List.mem_of_mem_take htarget))
  · rintro ⟨-, converted⟩ ⟨-, typelist⟩ ⟨-, typesHeader⟩
    refine ⟨reported.symm, text, htext, typesHeader, typelist, converted, ?_⟩
    exact linked.imp fun target l h => h.mono (List.subset_append_right _ _)

/-- What is written for a typekit is kept by what is written beside it. -/
theorem owns_typekit {σ : Type} {R : Run σ} (id : TypekitId) (p : ProjectId) (w : FileWriter)
    (renderer : Renderer) (out : TypekitFiles) : R.Owns (typekitLayout w (s₀.typekit id))
      (id.Written p s₀ w renderer
        (Linked R.start R.plan (typekitLayout w (s₀.typekit id))) out) := by
  rintro M t t' fits fits' beside sofar change ⟨paths, v, text, hv, htext, hold⟩
  have inReported : out.paths ⊆ (typekitLayout w (s₀.typekit id)).reported := fun p hp => paths ▸ hp
  have kept {p : Path} (hp : p ∈ out.paths) {text : String} (here : t.Has p text) : t'.Has p text :=
    owns_has (inReported hp) text M t t' fits fits' beside sofar change here
  have conversions : out.conversions ⊆ (typekitLayout w (s₀.typekit id)).reported :=
    fun p hp => inReported (List.mem_cons_of_mem _ (List.mem_cons_of_mem _ hp))
  refine ⟨paths, v, text, hv, htext, kept ?_ hold.typesHeader, kept ?_ hold.typelist,
    owns_hasEach conversions _ M t t' fits fits' beside sofar change hold.conversions,
    owns_links _ _ M t t' fits fits' beside sofar change hold.links⟩
  all_goals simp [TypekitFiles.paths]

/-- The typekit of a project is generated, if it has one. -/
theorem delivers_generateTypekit (p : ProjectId) (w : FileWriter) (renderer : Renderer) :
    (onStore aside s₀).From
      (Layout.concat ((s₀.project p).typekit.toList.map
        fun id => typekitLayout w (s₀.typekit id))) s₀
      (p.generateTypekit (some w) renderer) fun out t =>
        List.Forall₂ (fun id f =>
          id.Written p s₀ w renderer (Linked start W (typekitLayout w (s₀.typekit id))) f t)
          (s₀.project p).typekit.toList out.toList := by
  refine .step rfl (.unless fun own => ?_)
  rw [Bool.not_eq_true] at own
  refine .step (ProjectId.typekit_of_main own) ?_
  cases (s₀.project p).typekit with
  | none => exact (gives_pure (P := (· = none)) rfl).delivers.mono (fun _ _ h => h ▸ .nil) s₀
  | some id =>
    change (onStore aside s₀).From ((typekitLayout w (s₀.typekit id)).append {}) s₀ _ _
    rw [Layout.append_empty]
    refine .step rfl
      (Delivers.read (gives_log _ _ _) (fun _ _ => .read (gives_ofExcept _) fun v hv => ?_) s₀)
    refine Delivers.map
      ((delivers_writeTypekit w renderer _ v (Generation.conversions_of_typekitView hv)).mono ?_)
    exact fun out t ⟨paths, text, htext, hold⟩ => .cons ⟨paths, v, text, hv, htext, hold⟩ .nil

/-- The typekit and the components of a project are generated. -/
theorem delivers_generateFiles (aside : W.LinksAside start) (s₀ : Store) (p : ProjectId)
    (w : FileWriter) (renderer : Renderer) :
    (onStore aside s₀).From
      (Layout.concat
        ((s₀.project p).typekit.toList.map (fun id => typekitLayout w (s₀.typekit id)) ++
        (s₀.project p).components.map (·.layout s₀ w))) s₀
      (do
        let typekit ← p.generateTypekit (some w) renderer
        let components ← (s₀.project p).components.mapM fun c => c.generate (some w) renderer
        Work.log .info "taskgen.generation.build"
          s!"generated {components.length} component(s) of project {(s₀.project p).name}"
        return { typekit, components : ProjectFiles })
      fun out t =>
        List.Forall₂ (fun id f =>
          id.Written p s₀ w renderer (Linked start W (typekitLayout w (s₀.typekit id))) f t)
          (s₀.project p).typekit.toList out.typekit.toList ∧
        List.Forall₂ (fun c f => c.Written s₀ w renderer (Linked start W (c.layout s₀ w)) f t)
          (s₀.project p).components out.components := by
  rw [Layout.concat_append]
  refine (delivers_generateTypekit p w renderer).bind ?_ fun typekit t _ => ?_
  · exact fun out => owns_each (fun id f => owns_typekit id p w renderer f) out.toList
  · refine Delivers.bind_gives (Delivers.mapM (fun c _ out => owns_component c w renderer out)
      fun c _ => delivers_generate c w renderer) (fun components => ?_) t
    exact (gives_log _ _ _).bind fun _ _ =>
      gives_pure fun t hcomponents htypekit => ⟨htypekit, hcomponents⟩

end Run

end Componentry
