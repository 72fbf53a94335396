import Componentry.Proofs.GeneratedFiles

/-!
# Files that stay as they are written

One layout is beside another one if what it lists leaves the files and links of the other one alone,
and makes nothing at the places of its user files. If the paths of a layout are separate, its parts
are beside each other, so what is shown of an operation on one part still holds after an operation
on another part.
-/

namespace Componentry

open Files (Path Place Plan Tree reading)

namespace Files.Tree

/-- Two paths that are led to different places. -/
def Differ (t : Tree) (p q : Path) : Prop :=
  ∀ x, t.reach p = some x → t.reach q ≠ some x

/-- A path whose place is not on the way of another one. -/
def Avoids (t : Tree) (p q : Path) : Prop :=
  ∀ x, t.reach p = some x → x ∉ t.wayOf q

/-- A text that is found under a path. -/
def Has (t : Tree) (p : Path) (text : String) : Prop :=
  ∃ f, t.Holds p f text.toUTF8

/-- Paths that differ do so in either order. -/
theorem Differ.symm {t : Tree} {p q : Path} (h : t.Differ p q) : t.Differ q p :=
  fun x hq hp => h x hp hq

end Files.Tree

namespace Generation.Layout

/-- The files of which a generation tells. -/
def reported (L : Layout) : List Path :=
  L.automatic ++ L.user

/-- A layout of which another one leaves the files and links alone, and the places of the user files
empty. -/
structure Beside (L M : Layout) (t : Tree) : Prop where
  files : ∀ p ∈ L.reported, ∀ q ∈ M.plan.files, t.Differ p q
  links : ∀ l ∈ L.links, ∀ m ∈ M.links, ∀ x, t.reachLink l = some x → t.reachLink m ≠ some x
  user : ∀ u ∈ L.user, ∀ q ∈ M.plan.paths, t.Avoids u q

/-- A layout whose files and links are at different places, and whose user files are on the way of
no other path. -/
structure Separate (L : Layout) (t : Tree) : Prop where
  reported : L.reported.Pairwise t.Differ
  templates : ∀ p ∈ L.reported, ∀ q ∈ L.templates, t.Differ p q
  user : L.user.Pairwise fun u v => t.Avoids u v ∧ t.Avoids v u
  others : ∀ u ∈ L.user, ∀ q ∈ L.automatic ++ L.templates ++ L.directories, t.Avoids u q
  links : L.links.Pairwise fun l m => ∀ x, t.reachLink l = some x → t.reachLink m ≠ some x

/-- There is nothing at the places to which the user files are led at the start. -/
def Vacant (L : Layout) (start t : Tree) : Prop :=
  ∀ u ∈ L.user, ∀ x, start.reach u = some x → t.get? x = none

variable {L M : Layout} {start t : Tree}

/-- The files of a layout are those that are reported, and the templates. -/
theorem mem_files {p : Path} : p ∈ L.plan.files ↔ p ∈ L.reported ∨ p ∈ L.templates := by
  simp only [plan, reported, List.mem_append]
  tauto

/-- The paths of a layout are those of the user, and all others. -/
theorem mem_paths {p : Path} :
    p ∈ L.plan.paths ↔ p ∈ L.automatic ++ L.templates ++ L.directories ∨ p ∈ L.user := by
  simp only [Plan.paths, plan, List.mem_append]
  tauto

/-- The reported files of two layouts, up to their order. -/
theorem reported_append (L M : Layout) : (L.append M).reported.Perm (L.reported ++ M.reported) := by
  change ((L.automatic ++ M.automatic) ++ (L.user ++ M.user)).Perm
    ((L.automatic ++ L.user) ++ (M.automatic ++ M.user))
  simp only [List.append_assoc]
  refine List.Perm.append_left _ ?_
  simp only [← List.append_assoc]
  exact List.Perm.append_right _ List.perm_append_comm

/-- What stands beside a layout of two parts stands beside the first. -/
theorem Beside.left {N : Layout} (h : (L.append M).Beside N t) : L.Beside N t where
  files p hp := h.files p ((reported_append L M).mem_iff.2 (List.mem_append_left _ hp))
  links l hl := h.links l (List.mem_append_left _ hl)
  user u hu := h.user u (List.mem_append_left _ hu)

/-- What stands beside a layout of two parts stands beside the second. -/
theorem Beside.right {N : Layout} (h : (L.append M).Beside N t) : M.Beside N t where
  files p hp := h.files p ((reported_append L M).mem_iff.2 (List.mem_append_right _ hp))
  links l hl := h.links l (List.mem_append_right _ hl)
  user u hu := h.user u (List.mem_append_right _ hu)

/-- The first part is within the plan of both. -/
theorem left_within (L M : Layout) : L.plan.Within (L.append M).plan where
  files p hp := by
    simp only [plan, append, List.mem_append] at hp ⊢
    tauto
  directories := List.subset_append_left _ _
  links := List.subset_append_left _ _

/-- The second part is within the plan of both. -/
theorem right_within (L M : Layout) : M.plan.Within (L.append M).plan where
  files p hp := by
    simp only [plan, append, List.mem_append] at hp ⊢
    tauto
  directories := List.subset_append_right _ _
  links := List.subset_append_right _ _

/-- Nothing is added by an empty layout. -/
theorem append_empty (L : Layout) : L.append {} = L := by
  simp only [append, List.append_nil]

/-- Layouts are added in one order, whichever are added first. -/
theorem append_assoc (L M N : Layout) : (L.append M).append N = L.append (M.append N) := by
  simp only [append, List.append_assoc]

/-- Layouts of two lists are those of the first, then those of the second. -/
theorem concat_append (Ls Ms : List Layout) :
    concat (Ls ++ Ms) = (concat Ls).append (concat Ms) := by
  induction Ls with
  | nil => rfl
  | cons L Ls ih =>
    change L.append (concat (Ls ++ Ms)) = (L.append (concat Ls)).append (concat Ms)
    rw [ih, append_assoc]

/-- The reported files of several layouts, up to their order. -/
theorem reported_concat (Ls : List Layout) : (concat Ls).reported.Perm (Ls.flatMap reported) := by
  induction Ls with
  | nil => exact .refl _
  | cons L Ls ih => exact (reported_append L (concat Ls)).trans (ih.append_left _)

/-- The parts of a layout are separate if the layout is, and each is beside the other one. -/
theorem Separate.of_append (h : (L.append M).Separate t) :
    (L.Separate t ∧ M.Separate t) ∧ L.Beside M t ∧ M.Beside L t := by
  have symm (p q : Path) : t.Differ p q → t.Differ q p := Tree.Differ.symm
  obtain ⟨reportedL, reportedM, reported⟩ :=
    List.pairwise_append.1 (((reported_append L M).pairwise_iff (symm _ _)).1 h.reported)
  obtain ⟨userL, userM, user⟩ := List.pairwise_append.1 h.user
  obtain ⟨linksL, linksM, links⟩ := List.pairwise_append.1 h.links
  have templates (p : Path) (hp : p ∈ L.reported ∨ p ∈ M.reported) (q : Path)
      (hq : q ∈ L.templates ∨ q ∈ M.templates) :
      t.Differ p q :=
    h.templates p ((reported_append L M).mem_iff.2 (List.mem_append.2 hp)) q (List.mem_append.2 hq)
  have others (u : Path) (hu : u ∈ L.user ∨ u ∈ M.user) (q : Path)
      (hq : q ∈ L.automatic ++ L.templates ++ L.directories ∨
          q ∈ M.automatic ++ M.templates ++ M.directories) :
      t.Avoids u q := by
    refine h.others u (List.mem_append.2 hu) q ?_
    simp only [append, List.mem_append] at hq ⊢
    tauto
  refine ⟨⟨⟨reportedL, ?_, userL, ?_, linksL⟩, ⟨reportedM, ?_, userM, ?_, linksM⟩⟩, ⟨?_, links, ?_⟩,
    ⟨?_, ?_, ?_⟩⟩
  · exact fun p hp q hq => templates p (.inl hp) q (.inl hq)
  · exact fun u hu q hq => others u (.inl hu) q (.inl hq)
  · exact fun p hp q hq => templates p (.inr hp) q (.inr hq)
  · exact fun u hu q hq => others u (.inr hu) q (.inr hq)
  · intro p hp q hq
    rcases mem_files.1 hq with hq | hq
    · exact reported p hp q hq
    · exact templates p (.inl hp) q (.inr hq)
  · intro u hu q hq
    rcases mem_paths.1 hq with hq | hq
    · exact others u (.inl hu) q (.inr hq)
    · exact (user u hu q hq).1
  · intro p hp q hq
    rcases mem_files.1 hq with hq | hq
    · exact (reported q hq p hp).symm
    · exact templates p (.inr hp) q (.inl hq)
  · exact fun l hl m hm x hx hm' => links m hm l hl x hm' hx
  · intro u hu q hq
    rcases mem_paths.1 hq with hq | hq
    · exact others u (.inr hu) q (.inl hq)
    · exact (user q hq u hu).2

end Generation.Layout

open Generation (Layout)

/-- A run of operations: the tree in which it starts, all that it may change, and what holds of its
states. -/
structure Run (σ : Type) where
  start : Tree
  plan : Plan
  aside : plan.LinksAside start
  files : σ → Tree
  holds : σ → Prop
  frame : ∀ s, holds s → plan.Frame start start (files s)

namespace Run

variable {σ ε α β γ : Type} {R : Run σ} {L M : Layout} {s : σ}

/-- A layout within the plan of a run, with separate paths. -/
structure Fits (R : Run σ) (L : Layout) : Prop where
  separate : L.Separate R.start
  within : L.plan.Within R.plan

/-- What fits both parts fits the first. -/
theorem Fits.left (h : R.Fits (L.append M)) : R.Fits L :=
  ⟨h.separate.of_append.1.1, (Layout.left_within L M).trans h.within⟩

/-- What fits both parts fits the second. -/
theorem Fits.right (h : R.Fits (L.append M)) : R.Fits M :=
  ⟨h.separate.of_append.1.2, (Layout.right_within L M).trans h.within⟩

/-- A link of a layout that leads to where a header is at the start. -/
structure Linked (start : Tree) (W : Plan) (L : Layout) (t : Tree) (target l : Path) : Prop where
  own : l ∈ L.links
  within : l ∈ W.links
  clear : W.Clears start target
  leads : ∃ x f, t.placeOfLink l = .ok x ∧ t.get? x = some (.link ⟨"/", f⟩) ∧
    start.reach target = some f

/-- A link that is made by a part is made by the whole. -/
theorem Linked.mono {start t : Tree} {W : Plan} {l target : Path} (h : Linked start W L t target l)
    (part : L.links ⊆ M.links) : Linked start W M t target l :=
  ⟨part h.own, h.within, h.clear, h.leads⟩

/-- What holds of a tree as long as nothing else changes than what layouts beside a layout list. -/
def Owns (R : Run σ) (L : Layout) (Q : Tree → Prop) : Prop :=
  ∀ M t t', R.Fits L → R.Fits M → L.Beside M R.start → R.plan.Frame R.start R.start t →
    M.plan.Frame R.start t t' → Q t → Q t'

/-- From a state, an operation writes what a layout lists, the user files where there are none. If
it gives a value, `Q` holds of the value and the tree. -/
def From (R : Run σ) (L : Layout) (s : σ) (x : EStateM ε σ α) (Q : α → Tree → Prop) : Prop :=
  R.Fits L → R.holds s → L.Vacant R.start (R.files s) →
    Ends x s (fun a t => R.holds t ∧ L.plan.Frame R.start (R.files s) (R.files t) ∧ Q a (R.files t))
      fun _ _ => True

/-- From each state, an operation writes what a layout lists. -/
def Delivers (R : Run σ) (L : Layout) (x : EStateM ε σ α) (Q : α → Tree → Prop) : Prop :=
  ∀ s, R.From L s x Q

/-- An operation that leaves the files alone gives a value with a property, if it gives one. -/
def Gives (R : Run σ) (x : EStateM ε σ α) (P : α → Prop) : Prop :=
  ∀ s, R.holds s → Ends x s (fun a t => R.holds t ∧ R.files t = R.files s ∧ P a) fun _ _ => True

section Owned

/-- What each part of a layout keeps, the layout keeps. -/
theorem owns_each {K : γ → Layout} {S : γ → β → Tree → Prop} {as : List γ}
    (owned : ∀ a b, R.Owns (K a) (S a b)) (bs : List β) :
    R.Owns (Layout.concat (as.map K)) fun t => List.Forall₂ (fun a b => S a b t) as bs := by
  induction as generalizing bs with
  | nil => exact fun _ _ _ _ _ _ _ _ h => List.forall₂_nil_left_iff.1 h ▸ .nil
  | cons a as ih =>
    rintro M t t' fits fits' beside sofar change (_ | ⟨hb, hbs⟩)
    have kept := ih _ M t t' fits.right fits' beside.right sofar change hbs
    exact .cons (owned a _ M t t' fits.left fits' beside.left sofar change hb) kept

/-- A path that a run writes is clear of the links of the run. -/
theorem Fits.clears (fits : R.Fits L) {p : Path} (hp : p ∈ L.plan.paths) :
    R.plan.Clears R.start p :=
  R.aside.paths p (fits.within.paths hp)

/-- What does not depend on files stays true. -/
theorem owns_const (Q : Prop) : R.Owns L fun _ => Q :=
  fun _ _ _ _ _ _ _ _ h => h

/-- A file of a layout stays as it is. -/
theorem owns_has {p : Path} (hp : p ∈ L.reported) (text : String) :
    R.Owns L fun t => t.Has p text := by
  rintro M t t' fits fits' beside sofar change ⟨f, here⟩
  have clear : R.plan.Clears R.start p :=
    fits.clears (List.mem_append_left _ (Layout.mem_files.2 (.inl hp)))
  refine ⟨f, change.holds_of_away sofar fits'.within clear
    (fun q hq => beside.files p hp q hq f ?_) here⟩
  rw [← (sofar.reach clear).1]
  exact Tree.reach_of_place here.place

/-- A link of a layout stays as it is. -/
theorem owns_linked (target l : Path) : R.Owns L fun t => Linked R.start R.plan L t target l := by
  rintro M t t' fits fits' beside sofar change ⟨own, within, clear, x, f, hx, here, leads⟩
  have clears := R.aside.parents l within
  have notDirectory : t.get? x ≠ some .directory := by simp [here]
  have reaches : R.start.reachLink l = some x := by
    rw [← sofar.reachLink clears]
    exact Tree.reachLink_of_placeOfLink hx notDirectory
  have stays : t'.get? x = some (.link ⟨"/", f⟩) := by
    refine change.entry_of_not_file ?_ here (by simp)
    rintro ⟨m, hm, reaches'⟩
    exact beside.links l own m hm x reaches reaches'
  refine ⟨own, within, clear, x, f, ?_, stays, leads⟩
  refine Tree.placeOfLink_mono hx notDirectory (stays.trans here.symm) fun y hy e notFile he => ?_
  refine change.entry_of_not_file ?_ he notFile
  rintro ⟨m, hm, reaches'⟩
  rw [(sofar.reach clears).2] at hy
  exact clears y hy ⟨m, fits'.within.links hm, reaches'⟩

/-- The places of the user files of a layout stay empty. -/
theorem owns_vacant (L : Layout) : R.Owns L (L.Vacant R.start) := by
  intro M t t' fits fits' beside sofar change vacant u hu x hx
  have here := vacant u hu x hx
  have notRoot : x ≠ [] := by
    rintro rfl
    cases here
  have onWay : x ∈ R.start.wayOf u := Tree.mem_wayOf_of_reach hx notRoot
  have clear : R.plan.Clears R.start u := fits.clears (Layout.mem_paths.2 (.inr hu))
  rw [change.other x ?_ fun q hq => beside.user u hu q hq x hx, here]
  rintro ⟨m, hm, reaches⟩
  exact clear x onWay ⟨m, fits'.within.links hm, reaches⟩

end Owned

section Rules

variable {x : EStateM ε σ α} {f : α → EStateM ε σ β} {Q : α → Tree → Prop} {S : β → Tree → Prop}
  {P : α → Prop}

/-- What a delivery shows may be weakened. -/
theorem Delivers.mono {Q' : α → Tree → Prop} (h : R.Delivers L x Q) (imp : ∀ a t, Q a t → Q' a t) :
    R.Delivers L x Q' := by
  intro s fits hs vacant
  exact (h s fits hs vacant).mono (fun a t ⟨ht, change, ha⟩ => ⟨ht, change, imp a _ ha⟩)
    fun _ _ h => h

/-- What is delivered may be shown for layouts that fit only. -/
theorem Delivers.of_fits (h : R.Fits L → R.Delivers L x Q) : R.Delivers L x Q :=
  fun s fits => h fits s fits

/-- Two operations on parts of a layout: what is shown of the first one still holds after the second
one. -/
theorem From.bind (hx : R.From L s x Q) (owned : ∀ a, R.Owns L (Q a))
    (hf : ∀ a t, Q a (R.files t) → R.From M t (f a) fun b u => Q a u → S b u) :
    R.From (L.append M) s (x >>= f) S := by
  intro fits hs vacant
  obtain ⟨beside, beside'⟩ := fits.separate.of_append.2
  have vacantL : L.Vacant R.start (R.files s) := fun u hu => vacant u (List.mem_append_left _ hu)
  have vacantM : M.Vacant R.start (R.files s) := fun u hu => vacant u (List.mem_append_right _ hu)
  refine ends_bind.2 ((hx fits.left hs vacantL).mono ?_ fun _ _ h => h)
  intro a t ⟨ht, change, ha⟩
  have vacantM' := owns_vacant M L _ _ fits.right fits.left beside' (R.frame s hs) change vacantM
  refine (hf a t ha fits.right ht vacantM').mono ?_ fun _ _ h => h
  intro b u ⟨hu, change', hb⟩
  have kept := owned a M _ _ fits.left fits.right beside (R.frame t ht) change' ha
  exact ⟨hu, (change.mono (Layout.left_within L M)).trans (change'.mono (Layout.right_within L M)),
    hb kept⟩

/-- A delivery after another one delivers both layouts, and what the first showed stays true. -/
theorem Delivers.bind (hx : R.Delivers L x Q) (owned : ∀ a, R.Owns L (Q a))
    (hf : ∀ a t, Q a t → R.Delivers M (f a) fun b u => Q a u → S b u) :
    R.Delivers (L.append M) (x >>= f) S :=
  fun s => (hx s).bind owned fun a t ha => hf a _ ha t

/-- An operation that starts by looking. -/
theorem From.read (hx : R.Gives x P)
    (hf : ∀ a t, x s = .ok a t → P a → R.holds t → R.From L t (f a) S) :
    R.From L s (x >>= f) S := by
  intro fits hs vacant
  refine ends_bind.2 (ends_iff.2 ⟨fun a t hat => ?_, fun _ _ _ => trivial⟩)
  obtain ⟨ht, same, ha⟩ := (hx s hs).of_ok hat
  have h := hf a t hat ha ht fits ht
  rw [same] at h
  exact h vacant

/-- A delivery may depend on what is read before it. -/
theorem Delivers.read (hx : R.Gives x P) (hf : ∀ a, P a → R.Delivers L (f a) S) :
    R.Delivers L (x >>= f) S :=
  fun _ => .read hx fun a t _ ha _ => hf a ha t

/-- An operation that starts with one that is known to leave the state as it is. -/
theorem From.step {a : α} (hx : x s = .ok a s) (h : R.From L s (f a) S) :
    R.From L s (x >>= f) S := by
  intro fits hs vacant
  refine ends_bind.2 ?_
  unfold Ends
  rw [hx]
  exact h fits hs vacant

/-- Where an operation fails, nothing is to be shown. -/
theorem From.unless {c : Prop} [Decidable c] {e : ε} {f : γ → EStateM ε σ α}
    (h : ¬c → R.From L s x Q) :
    R.From L s (if c then throw e >>= f else x) Q :=
  fun fits hs vacant => ends_ite.2 ⟨fun _ => trivial, fun hc => h hc fits hs vacant⟩

/-- An operation that ends by looking. -/
theorem Delivers.bind_gives (hx : R.Delivers L x Q)
    (hf : ∀ a, R.Gives (f a) fun b => ∀ t, Q a t → S b t) :
    R.Delivers L (x >>= f) S := by
  intro s fits hs vacant
  refine ends_bind.2 ((hx s fits hs vacant).mono ?_ fun _ _ h => h)
  intro a t ⟨ht, change, ha⟩
  refine (hf a t ht).mono ?_ fun _ _ h => h
  intro b u ⟨hu, same, hb⟩
  rw [same]
  exact ⟨hu, change, hb _ ha⟩

/-- What a delivery gives may be put through a function. -/
theorem Delivers.map {f : α → β} (h : R.Delivers L x fun a t => S (f a) t) :
    R.Delivers L (f <$> x) S :=
  fun s fits hs vacant => ends_map.2 (h s fits hs vacant)

/-- A value is given without a change. -/
theorem gives_pure {a : α} (ha : P a) : R.Gives (pure a : EStateM ε σ α) P :=
  fun _ hs => ⟨hs, rfl, ha⟩

/-- What is given by one reading may be given to the next. -/
theorem Gives.bind {P' : β → Prop} (hx : R.Gives x P) (hf : ∀ a, P a → R.Gives (f a) P') :
    R.Gives (x >>= f) P' := by
  intro s hs
  refine ends_bind.2 ((hx s hs).mono ?_ fun _ _ h => h)
  intro a t ⟨ht, same, ha⟩
  rw [← same]
  exact hf a ha t ht

/-- An operation that leaves the files alone delivers what it gives. -/
theorem Gives.delivers (h : R.Gives x P) : R.Delivers {} x fun a _ => P a := by
  intro s _ hs _
  refine (h s hs).mono ?_ fun _ _ h => h
  intro a t ⟨ht, same, ha⟩
  rw [same]
  exact ⟨ht, .refl _ _ _, ha⟩

/-- Operations on the parts of a layout, one after the other. -/
theorem Delivers.mapM {K : γ → Layout} {f : γ → EStateM ε σ β} {S : γ → β → Tree → Prop}
    {as : List γ} (owned : ∀ a ∈ as, ∀ b, R.Owns (K a) (S a b))
    (hf : ∀ a ∈ as, R.Delivers (K a) (f a) (S a)) :
    R.Delivers (Layout.concat (as.map K)) (as.mapM f) fun bs t =>
      List.Forall₂ (fun a b => S a b t) as bs := by
  induction as with
  | nil => exact (gives_pure (P := (· = [])) rfl).delivers.mono fun _ _ h => h ▸ .nil
  | cons a as ih =>
    rw [List.mapM_cons]
    have rest := ih (fun c hc => owned c (List.mem_cons_of_mem a hc)) fun c hc =>
      hf c (List.mem_cons_of_mem a hc)
    refine (hf a List.mem_cons_self).bind (owned a List.mem_cons_self) fun b _ _ => ?_
    exact rest.bind_gives fun bs => gives_pure fun t hbs hb => .cons hb hbs

end Rules

end Run

end Componentry
