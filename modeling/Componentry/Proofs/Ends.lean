import Componentry.Store

/-!
# How operations end

An operation on a state gives a value or fails, and leaves a state behind either way. `Ends` says
what holds of both endings. Its rules take an operation apart along the way it is written, so that
what holds of an operation is shown from what holds of its parts.

An effect bounds what operations may do: an invariant of the state, how the state may change, and
the faults that may arise. An operation that is made of operations within an effect is within it.
-/

namespace Componentry

variable {ε σ α β : Type}

/-- If the operation gives a value, `P` holds of the value and the state; if it fails, `F` holds of
the fault and the state. -/
def Ends (x : EStateM ε σ α) (s : σ) (P : α → σ → Prop) (F : ε → σ → Prop) : Prop :=
  match x s with
  | .ok a t => P a t
  | .error e t => F e t

section Rules

variable {x : EStateM ε σ α} {s : σ} {P : α → σ → Prop} {F : ε → σ → Prop}

/-- The endings of an operation may be weakened. -/
theorem Ends.mono {P' : α → σ → Prop} {F' : ε → σ → Prop} (h : Ends x s P F)
    (hP : ∀ a t, P a t → P' a t) (hF : ∀ e t, F e t → F' e t) : Ends x s P' F' := by
  unfold Ends at h ⊢
  cases hx : x s with
  | ok a t => rw [hx] at h; exact hP a t h
  | error e t => rw [hx] at h; exact hF e t h

/-- Two descriptions of the endings hold together. -/
theorem Ends.and {P' : α → σ → Prop} {F' : ε → σ → Prop} (h : Ends x s P F) (h' : Ends x s P' F') :
    Ends x s (fun a t => P a t ∧ P' a t) (fun e t => F e t ∧ F' e t) := by
  unfold Ends at h h' ⊢
  cases hx : x s with
  | ok a t => rw [hx] at h h'; exact ⟨h, h'⟩
  | error e t => rw [hx] at h h'; exact ⟨h, h'⟩

/-- What holds of the ending with a value. -/
theorem Ends.of_ok {a : α} {t : σ} (h : Ends x s P F) (hx : x s = .ok a t) : P a t := by
  unfold Ends at h
  rw [hx] at h
  exact h

/-- What holds of the ending with a fault. -/
theorem Ends.of_error {e : ε} {t : σ} (h : Ends x s P F) (hx : x s = .error e t) : F e t := by
  unfold Ends at h
  rw [hx] at h
  exact h

/-- How an operation ends follows from the value that it gives. -/
theorem ends_of_eq_ok {a : α} {t : σ} (hx : x s = .ok a t) (h : P a t) : Ends x s P F := by
  unfold Ends
  rw [hx]
  exact h

/-- An operation that gives a value is followed by the next one. -/
theorem bind_of_ok {f : α → EStateM ε σ β} {a : α} {t : σ} (hx : x s = .ok a t) :
    (x >>= f) s = f a t := by
  change EStateM.bind x f s = f a t
  rw [EStateM.bind, hx]

/-- An operation that does not fail gives a value. -/
theorem Ends.exists_ok (h : Ends x s P fun _ _ => False) : ∃ a t, x s = .ok a t ∧ P a t := by
  unfold Ends at h
  cases hx : x s with
  | ok a t => rw [hx] at h; exact ⟨a, t, rfl, h⟩
  | error e t => rw [hx] at h; exact h.elim

/-- An operation that gives no value fails. -/
theorem Ends.exists_error (h : Ends x s (fun _ _ => False) F) :
    ∃ e t, x s = .error e t ∧ F e t := by
  unfold Ends at h
  cases hx : x s with
  | ok a t => rw [hx] at h; exact h.elim
  | error e t => rw [hx] at h; exact ⟨e, t, rfl, h⟩

/-- How an operation ends is found by running it. -/
instance [∀ a t, Decidable (P a t)] [∀ e t, Decidable (F e t)] : Decidable (Ends x s P F) :=
  match h : x s with
  | .ok a t => decidable_of_iff (P a t) (by simp only [Ends, h])
  | .error e t => decidable_of_iff (F e t) (by simp only [Ends, h])

/-- The endings of an operation, each by an equation. -/
theorem ends_iff :
    Ends x s P F ↔ (∀ a t, x s = .ok a t → P a t) ∧ ∀ e t, x s = .error e t → F e t := by
  refine ⟨fun h => ⟨fun a t => h.of_ok, fun e t => h.of_error⟩, fun ⟨hP, hF⟩ => ?_⟩
  unfold Ends
  cases hx : x s with
  | ok a t => exact hP a t hx
  | error e t => exact hF e t hx

/-- Every operation ends somehow. -/
theorem ends_trivial (x : EStateM ε σ α) (s : σ) : Ends x s (fun _ _ => True) fun _ _ => True :=
  ends_iff.2 ⟨fun _ _ _ => trivial, fun _ _ _ => trivial⟩

/-- A value is given in the state as it is. -/
@[simp] theorem ends_pure {a : α} : Ends (pure a : EStateM ε σ α) s P F ↔ P a s := Iff.rfl

/-- A fault is raised in the state as it is. -/
@[simp] theorem ends_throw {e : ε} : Ends (throw e : EStateM ε σ α) s P F ↔ F e s := Iff.rfl

/-- The second operation starts where the first one gives a value. -/
@[simp] theorem ends_bind {f : α → EStateM ε σ β} {Q : β → σ → Prop} :
    Ends (x >>= f) s Q F ↔ Ends x s (fun a t => Ends (f a) t Q F) F := by
  simp only [Ends, bind, EStateM.bind]
  cases x s <;> rfl

/-- A result may be put through a function. -/
@[simp] theorem ends_map {f : α → β} {Q : β → σ → Prop} :
    Ends (f <$> x) s Q F ↔ Ends x s (fun a t => Q (f a) t) F := by
  simp only [Ends, Functor.map, EStateM.map]
  cases x s <;> rfl

/-- The handler starts where the operation fails. -/
@[simp] theorem ends_tryCatch {handle : ε → EStateM ε σ α} :
    Ends (tryCatch x handle) s P F ↔ Ends x s P fun e t => Ends (handle e) t P F := by
  have outcome : (tryCatch x handle : EStateM ε σ α) s = EStateM.tryCatch x handle s := rfl
  rw [Ends, Ends, outcome]
  delta EStateM.tryCatch
  cases x s <;> rfl

/-- The state is read as it is. -/
@[simp] theorem ends_get {P : σ → σ → Prop} : Ends (get : EStateM ε σ σ) s P F ↔ P s s := Iff.rfl

/-- The state is the one that is set. -/
@[simp] theorem ends_set {t : σ} {P : PUnit → σ → Prop} :
    Ends (set t : EStateM ε σ PUnit) s P F ↔ P ⟨⟩ t := Iff.rfl

/-- The state is changed by a function. -/
@[simp] theorem ends_modify {f : σ → σ} {P : PUnit → σ → Prop} :
    Ends (modify f : EStateM ε σ PUnit) s P F ↔ P ⟨⟩ (f s) := Iff.rfl

/-- An operation that is chosen by a test ends as the chosen one does. -/
theorem ends_ite {c : Prop} [Decidable c] {y : EStateM ε σ α} :
    Ends (if c then x else y) s P F ↔ (c → Ends x s P F) ∧ (¬c → Ends y s P F) := by
  by_cases h : c <;> simp [h]

/-- An operation whose test fails ends as the other one does. -/
theorem ends_ite_of_not {c : Prop} [Decidable c] {y : EStateM ε σ α} (h : ¬c) (hy : Ends y s P F) :
    Ends (if c then x else y) s P F := by
  rwa [if_neg h]

end Rules

namespace Work

variable {s : Store} {P : α → Store → Prop} {F : Fault → Store → Prop}

/-- A computation without a state leaves it as it is. -/
theorem ends_ofExcept {x : Except Fault α} :
    Ends (ofExcept x) s P F ↔ (∀ a, x = .ok a → P a s) ∧ ∀ fault, x = .error fault → F fault s := by
  cases x with
  | ok a => simp [ofExcept]
  | error fault => simp [ofExcept]

/-- An operation on the files changes the files only. -/
theorem ends_onFiles {x : Files.Change α} :
    Ends (onFiles x) s P F ↔ Ends x s.files (fun a files => P a { s with files })
      fun fault files => F fault { s with files } := by
  simp only [Ends, onFiles]
  cases x s.files <;> rfl

/-- An operation on a registry changes that registry only. -/
theorem ends_onRegistry {id : RegistryId} {x : Registry.Extension α} :
    Ends (onRegistry id x) s P F ↔
      Ends x (s.registry id) (fun a r => P a { s with registries := s.registries.set id.index r })
        fun fault r => F fault { s with registries := s.registries.set id.index r } := by
  simp only [Ends, onRegistry]
  cases x (s.registry id) <;> rfl

/-- An operation on a typekit changes that typekit and its registry only. -/
theorem ends_onTypekit {id : TypekitId} {x : Typekit.Change α} :
    Ends (onTypekit id x) s P F ↔
      Ends x (s.typekit id, s.registry (s.typekit id).registry)
        (fun a kr => P a { s with
          typekits := s.typekits.set id.index kr.1
          registries := s.registries.set (s.typekit id).registry.index kr.2 })
        fun fault kr => F fault { s with
          typekits := s.typekits.set id.index kr.1
          registries := s.registries.set (s.typekit id).registry.index kr.2 } := by
  simp only [Ends, onTypekit]
  cases x (s.typekit id, s.registry (s.typekit id).registry) <;> rfl

/-- A registry is added behind all others. -/
theorem ends_newRegistry {r : Registry} {P : RegistryId → Store → Prop} :
    Ends (newRegistry r) s P F ↔
      P ⟨s.registries.length⟩ { s with registries := s.registries ++ [r] } := Iff.rfl

/-- A typekit is added behind all others. -/
theorem ends_newTypekit {k : Typekit} {P : TypekitId → Store → Prop} :
    Ends (newTypekit k) s P F ↔
      P ⟨s.typekits.length⟩ { s with typekits := s.typekits ++ [k] } := Iff.rfl

end Work

/-- What operations may do. -/
structure Effect (ε σ : Type) where
  /-- What holds of the state before and after an operation. -/
  holds : σ → Prop
  /-- How the state after an operation may differ from that before it. -/
  change : σ → σ → Prop
  /-- The faults that may arise. -/
  fault : ε → Prop
  refl : ∀ s, change s s
  trans : ∀ {s t u}, change s t → change t u → change s u

namespace Effect

variable (E : Effect ε σ)

/-- An operation stays within the effect when it starts in one state. -/
def From (s : σ) (x : EStateM ε σ α) : Prop :=
  Ends x s (fun _ t => E.holds t ∧ E.change s t) fun e t => E.holds t ∧ E.change s t ∧ E.fault e

/-- An operation stays within the effect wherever it starts. -/
def Covers (x : EStateM ε σ α) : Prop :=
  ∀ s, E.holds s → E.From s x

/-- An operation stays within the effect wherever it starts, and what it gives has a property. -/
def Ensures (x : EStateM ε σ α) (Q : α → σ → Prop) : Prop :=
  ∀ s, E.holds s → Ends x s (fun a t => (E.holds t ∧ E.change s t) ∧ Q a t)
    fun e t => E.holds t ∧ E.change s t ∧ E.fault e

variable {E} {x y : EStateM ε σ α} {s : σ}

/-- A value changes nothing. -/
theorem covers_pure (a : α) : E.Covers (pure a : EStateM ε σ α) :=
  fun s hs => ⟨hs, E.refl s⟩

/-- A fault that may occur changes nothing. -/
theorem covers_throw {e : ε} (he : E.fault e) : E.Covers (throw e : EStateM ε σ α) :=
  fun s hs => ⟨hs, E.refl s, he⟩

/-- What follows a fault does not matter. -/
theorem covers_throw_bind {e : ε} (he : E.fault e) (f : β → EStateM ε σ α) :
    E.Covers (throw e >>= f) :=
  fun s hs => ⟨hs, E.refl s, he⟩

/-- The state is read without a change. -/
theorem covers_get : E.Covers (get : EStateM ε σ σ) :=
  fun s hs => ⟨hs, E.refl s⟩

/-- An operation that starts after others within the effect. -/
theorem From.after {t : σ} (h : E.From t x) (hst : E.change s t) :
    Ends x t (fun _ u => E.holds u ∧ E.change s u) fun e u =>
      E.holds u ∧ E.change s u ∧ E.fault e :=
  Ends.mono h (fun _ _ ⟨hu, htu⟩ => ⟨hu, E.trans hst htu⟩) fun _ _ ⟨hu, htu, he⟩ =>
    ⟨hu, E.trans hst htu, he⟩

/-- After a first operation within the effect, the second one may start from any state that it
leaves. -/
theorem From.bind {f : α → EStateM ε σ β} (hx : E.From s x)
    (hf : ∀ a t, E.holds t → E.change s t → E.From t (f a)) : E.From s (x >>= f) := by
  refine ends_bind.2 (Ends.mono hx ?_ fun e t h => h)
  rintro a t ⟨ht, hst⟩
  exact (hf a t ht hst).after hst

/-- What holds of the endings may be shown from the states that a first operation within the effect
leaves. -/
theorem From.ends_bind {f : α → EStateM ε σ β} {P : β → σ → Prop} {F : ε → σ → Prop}
    (hx : E.From s x) (hF : ∀ e t, E.holds t → E.change s t → E.fault e → F e t)
    (hf : ∀ a t, E.holds t → E.change s t → Ends (f a) t P F) : Ends (x >>= f) s P F :=
  Componentry.ends_bind.2 (Ends.mono hx (fun a t h => hf a t h.1 h.2)
    fun e t h => hF e t h.1 h.2.1 h.2.2)

/-- Two computations, one after the other, are within an effect if both are. -/
theorem Covers.bind {f : α → EStateM ε σ β} (hx : E.Covers x) (hf : ∀ a, E.Covers (f a)) :
    E.Covers (x >>= f) :=
  fun s hs => (hx s hs).bind fun a t ht _ => hf a t ht

/-- A computation within an effect is so whatever else it ensures. -/
theorem Ensures.covers {Q : α → σ → Prop} (hx : E.Ensures x Q) : E.Covers x :=
  fun s hs => (hx s hs).mono (fun _ _ h => h.1) fun _ _ h => h

/-- A computation within an effect ensures nothing else. -/
theorem Covers.ensures (hx : E.Covers x) : E.Ensures x fun _ _ => True :=
  fun s hs => Ends.mono (hx s hs) (fun _ _ h => ⟨h, trivial⟩) fun _ _ h => h

/-- The second operation may rely on the value that the first one gives. -/
theorem Ensures.covers_bind {Q : α → σ → Prop} {f : α → EStateM ε σ β} (hx : E.Ensures x Q)
    (hf : ∀ a s, Q a s → E.Covers (f a)) : E.Covers (x >>= f) := by
  intro s hs
  refine ends_bind.2 ((hx s hs).mono ?_ fun _ _ h => h)
  intro a t ⟨⟨ht, hst⟩, ha⟩
  exact (hf a t ha t ht).after hst

/-- The second operation may rely on what the first one gives. -/
theorem Ensures.bind {Q : α → σ → Prop} {R : β → σ → Prop} {f : α → EStateM ε σ β}
    (hx : E.Ensures x Q)
    (hf : ∀ a s, Q a s → E.holds s → Ends (f a) s (fun b t => (E.holds t ∧ E.change s t) ∧ R b t)
        fun e t => E.holds t ∧ E.change s t ∧ E.fault e) : E.Ensures (x >>= f) R := by
  intro s hs
  refine ends_bind.2 ((hx s hs).mono ?_ fun _ _ h => h)
  intro a t ⟨⟨ht, hst⟩, ha⟩
  refine (hf a t ha ht).mono ?_ ?_
  · exact fun b u ⟨⟨hu, htu⟩, hb⟩ => ⟨⟨hu, E.trans hst htu⟩, hb⟩
  · exact fun e u ⟨hu, htu, he⟩ => ⟨hu, E.trans hst htu, he⟩

/-- An operation that reads the state it starts in. -/
theorem covers_get_bind {f : σ → EStateM ε σ α} (hf : ∀ s, E.holds s → E.From s (f s)) :
    E.Covers (get >>= f) :=
  fun s hs => ends_bind.2 (hf s hs)

/-- A result may be put through a function. -/
theorem Covers.map {f : α → β} (hx : E.Covers x) : E.Covers (f <$> x) :=
  fun s hs => ends_map.2 (hx s hs)

/-- A computation of two cases is within an effect if both are. -/
theorem Covers.ite {c : Prop} [Decidable c] (hx : c → E.Covers x) (hy : ¬c → E.Covers y) :
    E.Covers (if c then x else y) :=
  fun s hs => ends_ite.2 ⟨fun h => hx h s hs, fun h => hy h s hs⟩

/-- The handler sees only faults of the effect. -/
theorem Covers.tryCatch {handle : ε → EStateM ε σ α} (hx : E.Covers x)
    (hh : ∀ e, E.fault e → E.Covers (handle e)) : E.Covers (tryCatch x handle) := by
  intro s hs
  refine ends_tryCatch.2 (Ends.mono (hx s hs) (fun a t h => h) ?_)
  rintro e t ⟨ht, hst, he⟩
  exact From.after (hh e he t ht) hst

/-- A computation for each item of a list is within an effect if each is. -/
theorem covers_forM {f : α → EStateM ε σ PUnit} {as : List α} (hf : ∀ a ∈ as, E.Covers (f a)) :
    E.Covers (as.forM f) := by
  induction as with
  | nil => exact covers_pure _
  | cons a as ih =>
    exact (hf a List.mem_cons_self).bind fun _ => ih fun b hb => hf b (List.mem_cons_of_mem a hb)

/-- What each of several operations brings about, and none takes back, holds after all of them. -/
theorem ends_forM {f : α → EStateM ε σ PUnit} {Q : α → σ → Prop}
    (keeps : ∀ a s t, E.change s t → Q a s → Q a t) {as : List α}
    (hf : ∀ a ∈ as, ∀ s, E.holds s → Ends (f a) s (fun _ t => E.holds t ∧ E.change s t ∧ Q a t)
      fun e t => E.holds t ∧ E.change s t ∧ E.fault e)
    (hs : E.holds s) :
    Ends (as.forM f) s (fun _ t => E.holds t ∧ E.change s t ∧ ∀ a ∈ as, Q a t)
      fun e t => E.holds t ∧ E.change s t ∧ E.fault e := by
  induction as generalizing s with
  | nil => exact ⟨hs, E.refl s, by simp⟩
  | cons a as ih =>
    refine ends_bind.2 (Ends.mono (hf a List.mem_cons_self s hs) ?_ fun _ _ h => h)
    rintro - t ⟨ht, hst, ha⟩
    refine (ih (fun b hb => hf b (List.mem_cons_of_mem a hb)) ht).mono ?_ ?_
    · rintro - u ⟨hu, htu, has⟩
      refine ⟨hu, E.trans hst htu, fun b hb => ?_⟩
      rcases List.mem_cons.1 hb with rfl | hb
      · exact keeps b t u htu ha
      · exact has b hb
    · exact fun e u ⟨hu, htu, he⟩ => ⟨hu, E.trans hst htu, he⟩

/-- A list of results is computed within an effect if each of them is. -/
theorem covers_mapM {f : α → EStateM ε σ β} {as : List α} (hf : ∀ a ∈ as, E.Covers (f a)) :
    E.Covers (as.mapM f) := by
  induction as with
  | nil => exact covers_pure _
  | cons a as ih =>
    rw [List.mapM_cons]
    refine (hf a List.mem_cons_self).bind fun b => ?_
    exact (ih fun c hc => hf c (List.mem_cons_of_mem a hc)).bind fun bs => covers_pure _

end Effect

end Componentry
