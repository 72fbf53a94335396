import Componentry.Proofs.DefinitionPermanence

/-!
# Effects of looking types up

Looking a type up imports typekits by name, uses those that an import gives, and notes in a library
whether its typekit was asked for. An effect that allows these steps covers all lookups of types,
whatever they find.
-/

namespace Componentry

open Declares

namespace ProjectId

variable (p : ProjectId)

/-- The state in which the registry of a project is another one. -/
def withTypes (r : Registry) (s : Store) : Store :=
  { s with registries := s.registries.set (s.project p).registry.index r }

/-- The state in which a project uses one more typekit, and its registry is another one. -/
def withUsedTypekit (id : TypekitId) (r : Registry) (s : Store) : Store :=
  { p.withTypes r s with
    projects := s.projects.modify p fun q => { q with usedTypekits := q.usedTypekits ++ [id] }
    log :=
      s.log ++ [⟨.debug, logName, s!"{(s.project p).name}: using typekit {(s.typekit id).name}"⟩] }

/-- A typekit that the scope uses already is left as it is. -/
theorem ends_usingTypekit_of_used {id : TypekitId} {s : Store} {m : ProjectId}
    (scope : s.projects.scope p = m) (used : id ∈ (s.project m).usedTypekits)
    {P : TypekitId → Store → Prop} {F : Fault → Store → Prop} :
    Ends (p.usingTypekit id) s P F ↔ P id s := by
  subst scope
  change Ends (if id ∈ (s.project (s.projects.scope p)).usedTypekits then _ else _) s P F ↔ _
  rw [if_pos used]
  rfl

/-- The scope adds the types of a typekit that it does not use yet, and uses it then. -/
theorem ends_usingTypekit_of_unused {id : TypekitId} {s : Store} {m : ProjectId}
    (scope : s.projects.scope p = m) (unused : id ∉ (s.project m).usedTypekits)
    {P : TypekitId → Store → Prop} {F : Fault → Store → Prop} :
    Ends (p.usingTypekit id) s P F ↔
      Ends (Registry.addAll (s.registry (s.typekit id).registry).types)
        (s.registry (s.project m).registry)
        (fun _ r => P id (m.withUsedTypekit id r s)) fun fault r => F fault (m.withTypes r s) := by
  subst scope
  change Ends (if id ∈ (s.project (s.projects.scope p)).usedTypekits then _ else _) s P F ↔ _
  rw [if_neg unused, ends_bind, Work.ends_onRegistry]
  rfl

end ProjectId

/-- Whether an effect allows the steps of which lookups of types consist. Typekits of a kind may be
used, and imports by name give such typekits. -/
structure Effect.Looks (E : Effect Fault Store) (given : Store → TypekitId → Prop) : Prop where
  faults : ∀ fault, E.fault fault
  log : ∀ severity origin text, E.Covers (Work.log severity origin text)
  asks : ∀ (p : ProjectId) name, E.Covers (p.importedTypekit name)
  imports : ∀ (p : ProjectId) name, E.Ensures (p.importTypekit name) fun id s => given s id
  uses : ∀ (p : ProjectId) {id s}, E.holds s → given s id → E.From s (p.usingTypekit id)
  notes : ∀ (p : ProjectId) slot {s}, E.holds s →
    (∀ id, slot = .resolved (some id) → s.Imported id) →
    E.holds (p.withOwnTypekitSlot slot s) ∧ E.change s (p.withOwnTypekitSlot slot s)

namespace Effect.Looks

variable {E : Effect Fault Store} {given : Store → TypekitId → Prop} (h : E.Looks given)

include h

/-- A computation without a state is within every effect that lookups are in. -/
theorem ofExcept {α : Type} (x : Except Fault α) : E.Covers (Work.ofExcept x) := by
  cases x with
  | ok a => exact Effect.covers_pure a
  | error fault => exact Effect.covers_throw (h.faults fault)

/-- Whether a typekit is in use is found without a change. -/
theorem hasTypekit (p : ProjectId) (name : String) : E.Covers (p.hasTypekit name) :=
  (h.asks p name).bind fun _ => Effect.covers_pure _

/-- A typekit is imported by name and used. -/
theorem usingNamed (p : ProjectId) (name : String) :
    E.Covers (do p.usingTypekit (← p.importTypekit name)) := by
  refine ((h.imports p name).bind (R := fun _ _ => True) fun id s given hs => ?_).covers
  exact (h.uses p hs given).mono (fun _ _ h => ⟨h, trivial⟩) fun _ _ h => h

/-- The typekit that a library brings is imported. -/
theorem importOwnTypekit (p : ProjectId) : E.Covers p.importOwnTypekit := by
  refine Effect.covers_get.bind fun s =>
    Effect.covers_get.bind fun t => (h.hasTypekit _ _).bind fun present => ?_
  exact Effect.Covers.ite (fun _ => Effect.Covers.map (h.usingNamed _ _))
    fun _ => Effect.covers_pure _

/-- The typekit of a library is imported when it is first asked for. -/
theorem typekit_of_imported {p : ProjectId} {s : Store} (imported : (s.project p).isImported = true)
    (hs : E.holds s) (create : Bool) : E.From s (p.typekit create) := by
  refine ends_bind.2 (ends_get.2 ?_)
  rw [if_pos imported]
  have begun : E.holds (p.withOwnTypekitSlot .resolving s) := (h.notes p .resolving hs nofun).1
  have made : p.index < (p.withOwnTypekitSlot .resolving s).projects.items.length :=
    (Projects.length_modify ..).symm ▸ Store.made_of_isImported imported
  refine Slot.from_resolve (Q := fun id? (t : Store) => ∀ id, id? = some id → t.Imported id)
    (fun slot t ht given => ?_) hs (h.importOwnTypekit p _ begun)
    (ProjectId.ends_importOwnTypekit_imported made) (h.faults _)
  exact h.notes p slot ht fun id same => given _ same id rfl

/-- The own typekit is found, after an import if need be. -/
theorem typekit (p : ProjectId) : E.Covers p.typekit := by
  intro s hs
  cases imported : (s.project p).isImported with
  | true => exact h.typekit_of_imported imported hs false
  | false =>
    refine ends_bind.2 (ends_get.2 ?_)
    rw [if_neg (by simp [imported])]
    cases (s.project p).typekit with
    | some id => exact ⟨hs, E.refl s⟩
    | none => exact ⟨hs, E.refl s⟩

/-- Typekits are imported for a missed type. -/
theorem importOnMiss (p : ProjectId) : E.Covers p.importOnMiss := by
  refine Effect.covers_get.bind fun s => Effect.Covers.ite (fun _ => ?_) fun _ => ?_
  · exact (h.typekit p).bind fun _ => Effect.covers_get.bind fun _ => Effect.covers_pure _
  · refine (Effect.covers_forM fun library _ => ?_).bind fun _ =>
      Effect.covers_get.bind fun _ => Effect.covers_pure _
    exact (h.typekit library).bind fun _ => Effect.covers_pure _

/-- A type is looked up, whether it is found or not. -/
theorem findType (p : ProjectId) (type : TypeRef) : E.Covers (p.findType type) := by
  cases type with
  | given t => exact Effect.covers_pure t
  | named name =>
    refine Effect.covers_get.bind fun s => ?_
    split
    · exact Effect.covers_pure _
    · refine (h.importOnMiss p).bind fun found =>
        Effect.Covers.ite (fun _ => ?_) fun _ => Effect.covers_throw (h.faults _)
      exact (h.log _ _ _).bind fun _ => Effect.covers_get.bind fun t => h.ofExcept _

end Effect.Looks

end Componentry
