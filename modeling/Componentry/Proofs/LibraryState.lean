import Componentry.Proofs.Declared

/-!
# The libraries of a scope

What matters of a scope when libraries import each other: the slots of its imports by name, the
libraries that are used in it, which projects are loaded libraries, and which library imports which.
Imports are under way exactly for the names on a stack, and every loaded library is used after those
that it imports. So among the loaded libraries there is no cycle of imports.
-/

namespace Componentry

/-- How far the imports of libraries into a scope have come. -/
structure LibraryState where
  slot : String → Slot ProjectId
  used : List ProjectId
  /-- Whether a project is the loaded library of a name. -/
  loaded : String → ProjectId → Prop
  /-- Whether the first library imports the second one. -/
  imports : String → String → Prop

namespace LibraryState

/-- The imports of the names on the stack are under way, and every other one is either complete or
not begun. -/
structure Sound (v : LibraryState) (stack : List String) : Prop where
  underWay : ∀ name, v.slot name = .resolving ↔ name ∈ stack
  loaded : ∀ name l, v.slot name = .resolved l ↔ v.loaded name l
  used : ∀ l, l ∈ v.used ↔ ∃ name, v.slot name = .resolved l
  nodup : v.used.Nodup
  ordered : ∀ name l other, v.slot name = .resolved l → v.imports name other →
    ∃ l', v.slot other = .resolved l' ∧ v.used.idxOf l' < v.used.idxOf l

/-- The state in which the import of a name is under way. -/
def begin (v : LibraryState) (name : String) : LibraryState :=
  { v with slot := Function.update v.slot name .resolving }

/-- The state in which the import of a name is given up. -/
def abandon (v : LibraryState) (name : String) : LibraryState :=
  { v with slot := Function.update v.slot name .unresolved }

/-- The state in which the import of a name is complete, and the library is used. -/
def finish (v : LibraryState) (name : String) (l : ProjectId) : LibraryState :=
  { v with
    slot := Function.update v.slot name (.resolved l)
    used := v.used ++ [l]
    loaded := fun n q => v.loaded n q ∨ (n = name ∧ q = l) }

variable {v : LibraryState} {stack : List String} {name : String}

/-- A slot that is not resolved may be written without a change to what is loaded. -/
private theorem resolved_update_iff {slot : Slot ProjectId} (idle : ∀ l, v.slot name ≠ .resolved l)
    (idle' : ∀ l, slot ≠ .resolved l) (n : String) (l : ProjectId) :
    Function.update v.slot name slot n = .resolved l ↔ v.slot n = .resolved l := by
  by_cases hn : n = name
  · subst hn
    rw [Function.update_self]
    exact iff_of_false (idle' l) (idle l)
  · rw [Function.update_of_ne hn]

/-- Writing a slot that is not resolved keeps the loaded libraries in order. -/
private theorem Sound.update {slot : Slot ProjectId} {stack' : List String} (h : v.Sound stack)
    (idle : ∀ l, v.slot name ≠ .resolved l) (idle' : ∀ l, slot ≠ .resolved l)
    (underWay : ∀ n, Function.update v.slot name slot n = .resolving ↔ n ∈ stack') :
    Sound { v with slot := Function.update v.slot name slot } stack' := by
  refine ⟨underWay, fun n l => ?_, fun l => ?_, h.nodup, fun n l other hn himports => ?_⟩
  · exact (resolved_update_iff idle idle' n l).trans (h.loaded n l)
  · simp only [resolved_update_iff idle idle']
    exact h.used l
  · obtain ⟨l', hl', before⟩ :=
      h.ordered n l other ((resolved_update_iff idle idle' n l).1 hn) himports
    exact ⟨l', (resolved_update_iff idle idle' other l').2 hl', before⟩

/-- A load begins for a library that was not asked for. -/
theorem Sound.begin (h : v.Sound stack) (hslot : v.slot name = .unresolved) :
    (v.begin name).Sound (name :: stack) := by
  refine h.update (by simp [hslot]) (by simp) fun n => ?_
  rw [List.mem_cons]
  by_cases hn : n = name
  · subst hn
    rw [Function.update_self]
    exact iff_of_true rfl (.inl rfl)
  · rw [Function.update_of_ne hn, h.underWay]
    exact (or_iff_right hn).symm

/-- A load is given up, and its library can be asked for again. -/
theorem Sound.abandon (h : v.Sound (name :: stack)) (hname : name ∉ stack) :
    (v.abandon name).Sound stack := by
  have resolving : v.slot name = .resolving := (h.underWay name).2 List.mem_cons_self
  refine h.update (by simp [resolving]) (by simp) fun n => ?_
  by_cases hn : n = name
  · subst hn
    rw [Function.update_self]
    exact iff_of_false (by simp) hname
  · rw [Function.update_of_ne hn, h.underWay, List.mem_cons]
    exact or_iff_right hn

/-- A library is complete when those that it imports are. -/
theorem Sound.finish (h : v.Sound (name :: stack)) (hname : name ∉ stack) {l : ProjectId}
    (fresh : ∀ n, ¬v.loaded n l)
    (imported : ∀ other, v.imports name other → ∃ l', v.slot other = .resolved l') :
    (v.finish name l).Sound stack := by
  have resolving : v.slot name = .resolving := (h.underWay name).2 List.mem_cons_self
  have unused : l ∉ v.used :=
    fun hl => (h.used l).1 hl |>.elim fun n hn => fresh n ((h.loaded n l).1 hn)
  have slot_finish (n : String) (q : ProjectId) :
      (v.finish name l).slot n = .resolved q ↔ v.slot n = .resolved q ∨ (n = name ∧ q = l) := by
    change Function.update v.slot name (.resolved l) n = .resolved q ↔ _
    by_cases hn : n = name
    · subst hn
      rw [Function.update_self, resolving]
      simp [eq_comm]
    · simp [hn]
  have index_of_used (q : ProjectId) (hq : q ∈ v.used) : (v.used ++ [l]).idxOf q = v.used.idxOf q :=
    List.idxOf_append_of_mem hq
  have index_last : (v.used ++ [l]).idxOf l = v.used.length := by
    rw [List.idxOf_append_of_notMem unused]
    simp
  refine ⟨fun n => ?_, fun n q => ?_, fun q => ?_, ?_, fun n q other hn himports => ?_⟩
  · change Function.update v.slot name (.resolved l) n = .resolving ↔ _
    by_cases hn : n = name
    · subst hn
      rw [Function.update_self]
      exact iff_of_false (by simp) hname
    · rw [Function.update_of_ne hn, h.underWay, List.mem_cons]
      exact or_iff_right hn
  · rw [slot_finish, h.loaded]
    rfl
  · simp only [slot_finish]
    change q ∈ v.used ++ [l] ↔ _
    rw [List.mem_append, List.mem_singleton, h.used]
    constructor
    · rintro (⟨n, hn⟩ | rfl)
      · exact ⟨n, .inl hn⟩
      · exact ⟨name, .inr ⟨rfl, rfl⟩⟩
    · rintro ⟨n, hn | ⟨rfl, rfl⟩⟩
      · exact .inl ⟨n, hn⟩
      · exact .inr rfl
  · change (v.used ++ [l]).Nodup
    exact List.nodup_append.2
      ⟨h.nodup, by simp, by simpa using fun q hq => ne_of_mem_of_not_mem hq unused⟩
  · change ∃ l', (v.finish name l).slot other = .resolved l' ∧
      (v.used ++ [l]).idxOf l' < (v.used ++ [l]).idxOf q
    rcases (slot_finish n q).1 hn with hn | ⟨rfl, rfl⟩
    · obtain ⟨l', hl', before⟩ := h.ordered n q other hn himports
      refine ⟨l', (slot_finish other l').2 (.inl hl'), ?_⟩
      rw [index_of_used l' ((h.used l').2 ⟨other, hl'⟩), index_of_used q ((h.used q).2 ⟨n, hn⟩)]
      exact before
    · obtain ⟨l', hl'⟩ := imported other himports
      have hused : l' ∈ v.used := (h.used l').2 ⟨other, hl'⟩
      refine ⟨l', (slot_finish other l').2 (.inl hl'), ?_⟩
      rw [index_of_used l' hused, index_last]
      exact List.idxOf_lt_length_of_mem hused

/-- What a complete library imports, directly or through others, is complete and was used before
it. -/
theorem Sound.ordered_trans (h : v.Sound stack) {other : String} {l : ProjectId}
    (hname : v.slot name = .resolved l) (himports : Relation.TransGen v.imports name other) :
    ∃ l', v.slot other = .resolved l' ∧ v.used.idxOf l' < v.used.idxOf l := by
  induction himports with
  | single himports => exact h.ordered name l _ hname himports
  | tail _ himports ih =>
    obtain ⟨l₁, hl₁, before₁⟩ := ih
    obtain ⟨l₂, hl₂, before₂⟩ := h.ordered _ l₁ _ hl₁ himports
    exact ⟨l₂, hl₂, Nat.lt_trans before₂ before₁⟩

/-- Everything that is reachable from a complete library is complete. -/
theorem Sound.resolved_of_reachable (h : v.Sound stack) {other : String} {l : ProjectId}
    (hname : v.slot name = .resolved l) (hreach : Relation.ReflTransGen v.imports name other) :
    ∃ l', v.slot other = .resolved l' := by
  rcases Relation.reflTransGen_iff_eq_or_transGen.1 hreach with rfl | himports
  · exact ⟨l, hname⟩
  · obtain ⟨l', hl', -⟩ := h.ordered_trans hname himports
    exact ⟨l', hl'⟩

/-- A complete library is on no cycle of imports. -/
theorem Sound.acyclic (h : v.Sound stack) {l : ProjectId} (hname : v.slot name = .resolved l) :
    ¬Relation.TransGen v.imports name name := by
  intro hcycle
  obtain ⟨l', hl', before⟩ := h.ordered_trans hname hcycle
  rw [hname] at hl'
  cases hl'
  exact Nat.lt_irrefl _ before

end LibraryState

end Componentry
