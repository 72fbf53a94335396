import Componentry.Proofs.Declared

/-!
# Operations that declare

Each operation of a scope, up to the declarations of components, takes steps of declarations only,
whether it gives a value or fails. None fails as a cycle of imports where no import of a typekit is
under way, and none leaves such an import under way. Four effects tell how far an operation goes: it
leaves the imports of typekits as they are, it imports typekits by name, it also imports the
typekits of libraries, or it also declares components.
-/

namespace Componentry

/-- Any number of steps of declarations that leave the components as they are. -/
def DeclaresTypes (s t : Store) : Prop :=
  Declares s t ∧ t.components = s.components

/-- No declaration has to be made. -/
theorem DeclaresTypes.refl (s : Store) : DeclaresTypes s s :=
  ⟨.refl, rfl⟩

/-- Declarations of types follow one another. -/
theorem DeclaresTypes.trans {s t u : Store} (h : DeclaresTypes s t) (h' : DeclaresTypes t u) :
    DeclaresTypes s u :=
  ⟨h.1.trans h'.1, h'.2.trans h.2⟩

/-- One declaration that changes no component is one of types. -/
theorem DeclaresTypes.single {s t : Store} (h : Declared s t) (same : t.components = s.components) :
    DeclaresTypes s t :=
  ⟨.single h, same⟩

namespace Declares

/-- Operations that leave the imports of typekits as they are. -/
def offline : Effect Fault Store where
  holds _ := True
  change s t := DeclaresTypes s t ∧ ∀ p, (t.project p).typekitSlots = (s.project p).typekitSlots ∧
    (t.project p).ownTypekitSlot = (s.project p).ownTypekitSlot
  fault fault := fault.isCycle = false
  refl s := ⟨.refl s, fun _ => ⟨rfl, rfl⟩⟩
  trans h h' := ⟨h.1.trans h'.1, fun p => ⟨(h'.2 p).1.trans (h.2 p).1, (h'.2 p).2.trans (h.2 p).2⟩⟩

/-- Operations that import typekits by name. -/
def importing : Effect Fault Store where
  holds s := ∀ p name, Project.slotOf (s.project p).typekitSlots name ≠ .resolving
  change s t := DeclaresTypes s t ∧ ∀ p, (t.project p).ownTypekitSlot = (s.project p).ownTypekitSlot
  fault fault := fault.isCycle = false
  refl s := ⟨.refl s, fun _ => rfl⟩
  trans h h' := ⟨h.1.trans h'.1, fun p => (h'.2 p).trans (h.2 p)⟩

/-- Operations that also import the typekits of libraries. -/
def typing : Effect Fault Store where
  holds s := importing.holds s ∧ ∀ p, (s.project p).ownTypekitSlot ≠ .resolving
  change := DeclaresTypes
  fault fault := fault.isCycle = false
  refl := .refl
  trans := .trans

/-- Operations that also declare components and their members. -/
def declaring : Effect Fault Store where
  holds := typing.holds
  change := Declares
  fault fault := fault.isCycle = false
  refl _ := .refl
  trans := .trans

end Declares

open Declares

namespace Work

variable {α : Type}

/-- From a settled state, what imports nothing keeps imports settled. -/
theorem importing_of_offline_from {x : Work α} {s : Store} (hs : importing.holds s)
    (h : offline.From s x) :
    importing.From s x := by
  have settled {t : Store} (hst : offline.change s t) : importing.holds t := by
    intro p name
    rw [(hst.2 p).1]
    exact hs p name
  refine Ends.mono h ?_ ?_
  · exact fun a t ⟨_, hst⟩ => ⟨settled hst, hst.1, fun p => (hst.2 p).2⟩
  · exact fun fault t ⟨_, hst, hf⟩ => ⟨settled hst, ⟨hst.1, fun p => (hst.2 p).2⟩, hf⟩

/-- From a settled state, what imports typekits declares types. -/
theorem typing_of_importing_from {x : Work α} {s : Store} (hs : typing.holds s)
    (h : importing.From s x) :
    typing.From s x := by
  have settled {t : Store} (ht : importing.holds t) (hst : importing.change s t) :
      typing.holds t := by
    refine ⟨ht, fun p => ?_⟩
    rw [hst.2 p]
    exact hs.2 p
  refine Ends.mono h ?_ ?_
  · exact fun a t ⟨ht, hst⟩ => ⟨settled ht hst, hst.1⟩
  · exact fun fault t ⟨ht, hst, hf⟩ => ⟨settled ht hst, hst.1, hf⟩

/-- From a settled state, what imports nothing declares types. -/
theorem typing_of_offline_from {x : Work α} {s : Store} (hs : typing.holds s)
    (h : offline.From s x) :
    typing.From s x :=
  typing_of_importing_from hs (importing_of_offline_from hs.1 h)

/-- What imports nothing may be done while typekits are imported. -/
theorem importing_of_offline {x : Work α} (h : offline.Covers x) : importing.Covers x :=
  fun s hs => importing_of_offline_from hs (h s trivial)

/-- What imports typekits may be done while types are declared. -/
theorem typing_of_importing {x : Work α} (h : importing.Covers x) : typing.Covers x :=
  fun s hs => typing_of_importing_from hs (h s hs.1)

/-- What imports nothing may be done while types are declared. -/
theorem typing_of_offline {x : Work α} (h : offline.Covers x) : typing.Covers x :=
  typing_of_importing (importing_of_offline h)

/-- What declares types may be done while a project is declared. -/
theorem declaring_of_typing {x : Work α} (h : typing.Covers x) : declaring.Covers x := by
  refine fun s hs => (h s hs).mono ?_ ?_
  · exact fun a t ⟨ht, hst⟩ => ⟨ht, hst.1⟩
  · exact fun fault t ⟨ht, hst, hf⟩ => ⟨ht, hst.1, hf⟩

/-- A step that leaves the imports of typekits as they are. -/
theorem offline_step {s t : Store} (h : Declared s t) (components : t.components = s.components)
    (slots : ∀ p, (t.project p).typekitSlots = (s.project p).typekitSlots ∧
      (t.project p).ownTypekitSlot = (s.project p).ownTypekitSlot) :
    offline.holds t ∧ offline.change s t :=
  ⟨trivial, .single h components, slots⟩

/-- A step that changes no project. -/
theorem offline_step' {s t : Store} (h : Declared s t) (components : t.components = s.components)
    (same : t.projects = s.projects) : offline.holds t ∧ offline.change s t := by
  refine offline_step h components fun p => ?_
  rw [Store.project, same]
  exact ⟨rfl, rfl⟩

/-- A computation without a state imports nothing if it raises no import cycle. -/
theorem offline_ofExcept {x : Except Fault α} (h : CycleFree x) :
    offline.Covers (Work.ofExcept x) := by
  cases x with
  | ok a => exact Effect.covers_pure a
  | error fault => exact Effect.covers_throw (h fault rfl)

/-- A message in the log imports nothing. -/
theorem offline_log (severity : Severity) (origin text : String) :
    offline.Covers (Work.log severity origin text) :=
  fun _ _ => offline_step' (.log _) rfl rfl

/-- Reading files imports nothing. -/
theorem offline_onFiles {x : Files.Change α} (h : Files.reading.Covers x) :
    offline.Covers (Work.onFiles x) := by
  refine fun s _ => ends_onFiles.2 ((h s.files trivial).mono ?_ ?_)
  · rintro a files ⟨-, rfl⟩
    exact ⟨trivial, offline.refl s⟩
  · rintro fault files ⟨-, rfl, hf⟩
    exact ⟨trivial, offline.refl s, hf⟩

/-- The registry of a project is extended. -/
theorem offline_onRegistry {s : Store} (p : ProjectId) {x : Registry.Extension α}
    (h : Registry.growing.Covers x) :
    offline.From s (Work.onRegistry (s.project p).registry x) := by
  refine ends_onRegistry.2 ((h _ trivial).mono ?_ ?_)
  · exact fun a r ⟨_, grows⟩ => offline_step' (.extend p grows) rfl rfl
  · rintro fault r ⟨-, grows, hf⟩
    exact ⟨trivial, (offline_step' (.extend p grows) rfl rfl).2, hf⟩

/-- A typekit that is not complete is edited. -/
theorem offline_onTypekit {s : Store} {id : TypekitId} (isOpen : (s.typekit id).frozen = false)
    {x : Typekit.Change α} (h : Typekit.editing.Covers x) :
    offline.From s (Work.onTypekit id x) := by
  refine ends_onTypekit.2 ((h (s.typekit id, s.registry (s.typekit id).registry) isOpen).mono ?_ ?_)
  · exact fun a kr ⟨_, edits⟩ => offline_step' (.edit id isOpen edits) rfl rfl
  · rintro fault kr ⟨-, edits, hf⟩
    exact ⟨trivial, (offline_step' (.edit id isOpen edits) rfl rfl).2, hf⟩

end Work

end Componentry
