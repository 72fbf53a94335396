import Componentry.Proofs.Ends

/-!
# Resolving a slot

How the resolution of an import ends is told by the state of its slot: a value that is there is
given, an import that is under way fails as a cycle, and any other is loaded between two writes of
the slot. Slots by name are read where they were written last.
-/

namespace Componentry

namespace Slot

variable {σ α : Type} {read : σ → Slot α} {write : Slot α → σ → σ} {name : String}
  {load : EStateM Fault σ α} {s : σ} {P : α → σ → Prop} {F : Fault → σ → Prop}

/-- How the resolution of an import ends, by the state of its slot. -/
theorem ends_resolve : Ends (resolve read write name load) s P F ↔
    match read s with
    | .resolved value => P value s
    | .resolving => F (.importCycle name) s
    | .unresolved =>
      Ends load (write .resolving s) (fun value t => P value (write (.resolved value) t))
        fun fault t => F fault (write .unresolved t) := by
  unfold resolve
  simp only [ends_bind, ends_get]
  cases read s <;> simp

/-- A slot that is resolved gives its value. -/
theorem ends_resolve_of_resolved {value : α} (hs : read s = .resolved value) (h : P value s) :
    Ends (resolve read write name load) s P F := by
  rw [ends_resolve, hs]
  exact h

/-- A slot under resolution raises a cycle. -/
theorem ends_resolve_of_resolving (hs : read s = .resolving) (h : F (.importCycle name) s) :
    Ends (resolve read write name load) s P F := by
  rw [ends_resolve, hs]
  exact h

/-- The load runs while the slot is resolving; then the slot holds the value, or is unresolved
again. -/
theorem ends_resolve_of_unresolved (hs : read s = .unresolved)
    (h : Ends load (write .resolving s) (fun value t => P value (write (.resolved value) t))
      fun fault t => F fault (write .unresolved t)) :
    Ends (resolve read write name load) s P F := by
  rw [ends_resolve, hs]
  exact h

/-- A slot is resolved within an effect if the load is, and the writes of the values that the load
gives. -/
theorem from_resolve {E : Effect Fault σ} {Q : α → σ → Prop}
    (hwrite : ∀ slot s, E.holds s → (∀ value, slot = .resolved value → Q value s) →
      E.holds (write slot s) ∧ E.change s (write slot s))
    {s : σ} (hs : E.holds s) (hload : E.From (write .resolving s) load)
    (gives : Ends load (write .resolving s) Q fun _ _ => True)
    (hcycle : E.fault (.importCycle name)) :
    E.From s (resolve read write name load) := by
  cases hslot : read s with
  | resolved value => exact ends_resolve_of_resolved hslot ⟨hs, E.refl s⟩
  | resolving => exact ends_resolve_of_resolving hslot ⟨hs, E.refl s, hcycle⟩
  | unresolved =>
    obtain ⟨-, start⟩ := hwrite .resolving s hs nofun
    refine ends_resolve_of_unresolved hslot ((hload.and gives).mono ?_ ?_)
    · rintro value t ⟨⟨ht, hst⟩, given⟩
      obtain ⟨hfinish, finish⟩ := hwrite (.resolved value) t ht fun _ same => by
        cases same; exact given
      exact ⟨hfinish, E.trans start (E.trans hst finish)⟩
    · rintro fault t ⟨⟨ht, hst, hf⟩, -⟩
      obtain ⟨hfinish, finish⟩ := hwrite .unresolved t ht nofun
      exact ⟨hfinish, E.trans start (E.trans hst finish), hf⟩

/-- A slot is resolved within an effect if its writes and the load are. -/
theorem covers_resolve {E : Effect Fault σ}
    (hwrite : ∀ slot s, E.holds s → E.holds (write slot s) ∧ E.change s (write slot s))
    (hload : E.Covers load) (hcycle : E.fault (.importCycle name)) :
    E.Covers (resolve read write name load) := fun s hs =>
  from_resolve (Q := fun _ _ => True) (fun slot s hs _ => hwrite slot s hs) hs
    (hload _ (hwrite .resolving s hs).1)
    ((ends_trivial _ _).mono (fun _ _ _ => trivial) fun _ _ _ => trivial) hcycle

end Slot

namespace Project

variable {α : Type}

/-- A slot is read as it was written last; the others stay as they are. -/
theorem slotOf_setSlot (slots : List (String × Slot α)) (name name' : String) (slot : Slot α) :
    slotOf (setSlot slots name slot) name' = if name' = name then slot else slotOf slots name' := by
  have lookup_cons (n : String) (slot : Slot α) (rest : List (String × Slot α)) :
      slotOf ((n, slot) :: rest) name' = if name' = n then slot else slotOf rest name' := by
    by_cases h : name' = n
    · simp [slotOf, h]
    · rw [if_neg h, slotOf, List.lookup_cons, beq_false_of_ne h]
      rfl
  induction slots with
  | nil => exact lookup_cons name slot []
  | cons entry rest ih =>
    obtain ⟨n, slot'⟩ := entry
    unfold setSlot
    by_cases hn : n = name
    · subst hn
      rw [if_pos rfl, lookup_cons, lookup_cons]
      by_cases h : name' = n
      · rw [if_pos h, if_pos h]
      · rw [if_neg h, if_neg h, if_neg h]
    · rw [if_neg hn, lookup_cons, ih, lookup_cons]
      by_cases h : name' = n
      · subst h
        rw [if_pos rfl, if_neg hn, if_pos rfl]
      · rw [if_neg h, if_neg h]

end Project

end Componentry
