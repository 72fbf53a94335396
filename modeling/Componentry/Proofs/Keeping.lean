import Componentry.Proofs.Declaring

/-!
# Invariants that a failure may break

An operation that is made of several steps may leave an invariant broken when it fails between two
of them. What such an operation does is told for the endings after which a run goes on: it gave a
value, or it failed in a way that its caller turns into another computation. The rules are those of
effects.
-/

namespace Componentry

variable {ε σ α β : Type}

/-- Whether an operation keeps an invariant, and what it gives has a property. If it fails in a
recoverable way, the invariant holds as well. -/
def Keeps (I : σ → Prop) (recoverable : ε → Prop) (x : EStateM ε σ α) (Q : α → σ → Prop) : Prop :=
  ∀ s, I s → Ends x s (fun a t => I t ∧ Q a t) fun fault t => recoverable fault → I t

section Rules

variable {I : σ → Prop} {R : ε → Prop} {x y : EStateM ε σ α} {Q : α → σ → Prop}

/-- What is shown of a value may be weakened, and fewer faults may be looked at. -/
theorem Keeps.mono {Q' : α → σ → Prop} {R' : ε → Prop} (h : Keeps I R x Q)
    (hQ : ∀ a s, I s → Q a s → Q' a s) (hR : ∀ e, R' e → R e) : Keeps I R' x Q' :=
  fun s hs => (h s hs).mono (fun a t ⟨ht, ha⟩ => ⟨ht, hQ a t ht ha⟩) fun e _ h he => h (hR e he)

/-- A value keeps the invariant. -/
theorem keeps_pure {a : α} (h : ∀ s, I s → Q a s) : Keeps I R (pure a : EStateM ε σ α) Q :=
  fun s hs => ⟨hs, h s hs⟩

/-- A fault keeps the invariant, as the state is what it was. -/
theorem keeps_throw (e : ε) : Keeps I R (throw e : EStateM ε σ α) Q :=
  fun _ hs _ => hs

/-- The state is read, and is what was read. -/
theorem keeps_get : Keeps I R (get : EStateM ε σ σ) fun a s => a = s :=
  fun _ hs => ⟨hs, rfl⟩

/-- A change keeps the invariant if the function does. -/
theorem keeps_modify {f : σ → σ} (h : ∀ s, I s → I (f s)) :
    Keeps I R (modify f : EStateM ε σ PUnit) fun _ _ => True :=
  fun s hs => ⟨h s hs, trivial⟩

/-- The second operation may rely on what the first one gives. -/
theorem Keeps.bind_of {f : α → EStateM ε σ β} {P : β → σ → Prop} (hx : Keeps I R x Q)
    (hf : ∀ a s, I s → Q a s → Ends (f a) s (fun b t => I t ∧ P b t) fun fault t => R fault → I t) :
    Keeps I R (x >>= f) P :=
  fun s hs => ends_bind.2 ((hx s hs).mono (fun a t ⟨ht, ha⟩ => hf a t ht ha) fun _ _ h => h)

/-- Two computations, one after the other, keep the invariant if both do. -/
theorem Keeps.bind {f : α → EStateM ε σ β} {P : β → σ → Prop} (hx : Keeps I R x Q)
    (hf : ∀ a, Keeps I R (f a) P) :
    Keeps I R (x >>= f) P :=
  hx.bind_of fun a s hs _ => hf a s hs

/-- A result may be put through a function. -/
theorem Keeps.map {f : α → β} {P : β → σ → Prop} (hx : Keeps I R x Q)
    (h : ∀ a s, Q a s → P (f a) s) :
    Keeps I R (f <$> x) P :=
  fun s hs => ends_map.2 ((hx s hs).mono (fun a t ⟨ht, ha⟩ => ⟨ht, h a t ha⟩) fun _ _ h => h)

/-- A computation of two cases keeps the invariant if both do. -/
theorem Keeps.ite {c : Prop} [Decidable c] (hx : c → Keeps I R x Q) (hy : ¬c → Keeps I R y Q) :
    Keeps I R (if c then x else y) Q :=
  fun s hs => ends_ite.2 ⟨fun h => hx h s hs, fun h => hy h s hs⟩

/-- A computation for each item of a list keeps the invariant if each does. -/
theorem keeps_forM {f : α → EStateM ε σ PUnit} {as : List α}
    (h : ∀ a ∈ as, Keeps I R (f a) fun _ _ => True) :
    Keeps I R (as.forM f) fun _ _ => True := by
  induction as with
  | nil => exact keeps_pure fun _ _ => trivial
  | cons a as ih =>
    exact (h a List.mem_cons_self).bind fun _ => ih fun b hb => h b (List.mem_cons_of_mem a hb)

/-- What each of the operations gives has a property with what it was made for. -/
theorem keeps_mapM {f : α → EStateM ε σ β} {as : List α} {P : α → β → Prop}
    (h : ∀ a ∈ as, Keeps I R (f a) fun b _ => P a b) :
    Keeps I R (as.mapM f) fun bs _ => List.Forall₂ P as bs := by
  induction as with
  | nil => exact keeps_pure fun _ _ => .nil
  | cons a as ih =>
    rw [List.mapM_cons]
    refine (h a List.mem_cons_self).bind_of fun b s hs hb => ?_
    have rest : Keeps I R (as.mapM f) fun bs _ => List.Forall₂ P as bs :=
      ih fun c hc => h c (List.mem_cons_of_mem a hc)
    exact (rest.bind_of fun bs t ht hbs => ends_pure.2 ⟨ht, .cons hb hbs⟩) s hs

/-- A computation without a state keeps the invariant. -/
theorem Work.keeps_ofExcept {I : Store → Prop} {R : Fault → Prop} {x : Except Fault α}
    {P : α → Prop} (h : ∀ a, x = .ok a → P a) : Keeps I R (Work.ofExcept x) fun a _ => P a :=
  fun _ hs => Work.ends_ofExcept.2 ⟨fun a ha => ⟨hs, h a ha⟩, fun _ _ _ => hs⟩

/-- The handler starts after the faults that it turns into something else. -/
theorem Keeps.tryCatch {R' : ε → Prop} {handle : ε → EStateM ε σ α} (hx : Keeps I R' x Q)
    (hh : ∀ e, R' e → Keeps I R (handle e) Q) (hr : ∀ e, ¬R' e → handle e = throw e)
    (recovered : ∀ e, R e → R' e) :
    Keeps I R (tryCatch x handle) Q := by
  intro s hs
  refine ends_tryCatch.2 ((hx s hs).mono (fun _ _ h => h) fun e t h => ?_)
  by_cases he : R' e
  · exact hh e he t (h he)
  · rw [hr e he]
    exact fun hR => absurd (recovered e hR) he

end Rules

open Declares

/-- Whether no import of a typekit is under way, and the components have a property. -/
def Store.SettledWith (P : Components → Prop) (s : Store) : Prop :=
  declaring.holds s ∧ P s.components

/-- Lookups of types leave all components as they are. -/
theorem Work.keeps_of_typing {R : Fault → Prop} {x : Work α} (hx : typing.Covers x)
    (P : Components → Prop) :
    Keeps (Store.SettledWith P) R x fun _ _ => True := by
  rintro s ⟨settled, hP⟩
  refine (hx s settled).mono ?_ ?_
  · exact fun _ t ⟨ht, hst⟩ => ⟨⟨ht, hst.2 ▸ hP⟩, trivial⟩
  · exact fun _ t ⟨ht, hst, _⟩ _ => ⟨ht, hst.2 ▸ hP⟩

end Componentry
