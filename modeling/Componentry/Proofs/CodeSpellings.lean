import Componentry.Proofs.AgreeingTypes
import Componentry.Proofs.NameSpellings

/-!
# Spellings of names in code

The spelling of a type name in generated code drops the slashes in front of qualified names, writes
the others as double colons, and sets blanks inside the brackets and behind the commas. All of this
is undone by the normal form, provided that no colon is lost among the double ones and that each
slash that was dropped is put back, which is so where a name begins behind it. So the spelling leads
back to the type, and no two types share it.
-/

namespace Componentry.Typename

open Componentry.Text

/-- Whether each slash at the start of a qualified name is followed by a character that such a name
may begin with. The first argument tells that a qualified name may begin with the characters. -/
def RootsNamed (opening : Bool) (cs : List Char) : Prop :=
  ∀ before after, cs = before ++ '/' :: after → (before = [] → opening = true) →
    (∀ c ∈ before.getLast?, opensName c = true) → ∃ c ∈ after.head?, isNameStart c = true

/-- Whether the spelling of a canonical name in code leads back to it. -/
structure Spellable (cs : List Char) : Prop where
  noColon : ':' ∉ cs
  roots : RootsNamed true cs

/-- No slash has to be followed where there is no character. -/
theorem rootsNamed_nil (opening : Bool) : RootsNamed opening [] := by
  intro before after split
  simp at split

/-- Whether names begin behind the slashes is found from the first character and the others. -/
theorem rootsNamed_cons {opening : Bool} {c : Char} {cs : List Char} :
    RootsNamed opening (c :: cs) ↔
    (opening = true → c = '/' → ∃ d ∈ cs.head?, isNameStart d = true) ∧
    RootsNamed (opensName c) cs := by
  constructor
  · intro h
    refine ⟨fun opens slash => h [] cs (by rw [slash, List.nil_append]) (fun _ => opens)
      (by simp), ?_⟩
    intro before after split first last
    apply h (c :: before) after (by rw [split, List.cons_append]) (by simp)
    cases before with
    | nil => simpa using first rfl
    | cons b before => simpa [List.getLast?_cons_cons] using last
  · intro h before after split first last
    cases before with
    | nil =>
      obtain ⟨rfl, rfl⟩ := List.cons.inj split
      exact h.1 (first rfl) rfl
    | cons b before =>
      obtain ⟨rfl, rfl⟩ := List.cons.inj split
      apply h.2 before after rfl
      · rintro rfl
        simpa using last
      · cases before with
        | nil => simp
        | cons b before => simpa [List.getLast?_cons_cons] using last

/-- Whether names begin behind the slashes is found character by character. -/
theorem rootsNamed_cons_iff_any {opening : Bool} {c : Char} {cs : List Char} :
    RootsNamed opening (c :: cs) ↔
    ((opening && c == '/') = true → cs.head?.any isNameStart = true) ∧
    RootsNamed (opensName c) cs := by
  simp [rootsNamed_cons, Option.any_eq_true]

/-- Whether names begin behind the slashes can be decided. -/
instance RootsNamed.decidable :
    (opening : Bool) → (cs : List Char) → Decidable (RootsNamed opening cs)
  | opening, [] => .isTrue (rootsNamed_nil opening)
  | _, c :: cs =>
    have := RootsNamed.decidable (opensName c) cs
    decidable_of_iff _ rootsNamed_cons_iff_any.symm

/-- Whether a canonical name can be spelled in code can be decided. -/
instance (cs : List Char) : Decidable (Spellable cs) :=
  decidable_of_iff (':' ∉ cs ∧ RootsNamed true cs)
    ⟨fun h => ⟨h.1, h.2⟩, fun h => ⟨h.noColon, h.roots⟩⟩

section Roots

/-- A character that a name may begin with separates nothing. -/
theorem notSeparator_of_isNameStart {c : Char} (h : isNameStart c = true) :
    isBlank c = false ∧ isDelimiter c = false ∧ c ≠ ':' := by
  change ((decide (65 ≤ c.val ∧ c.val ≤ 90) || decide (97 ≤ c.val) && decide (c.val ≤ 122)) || c ==
    '_') = true at h
  simp only [Bool.or_eq_true, Bool.and_eq_true, decide_eq_true_eq, beq_iff_eq,
    UInt32.le_iff_toNat_le] at h
  change ((65 ≤ c.toNat ∧ c.toNat ≤ 90) ∨ (97 ≤ c.toNat ∧ c.toNat ≤ 122)) ∨ c = '_' at h
  rcases h with letter | rfl
  · have notBlank : isBlank c = false := by
      simp only [isBlank, Bool.or_eq_false_iff, Bool.and_eq_false_iff, decide_eq_false_iff_not,
        beq_eq_false_iff_ne]
      omega
    have notDelimiter : c ≠ '<' ∧ c ≠ '>' ∧ c ≠ ',' ∧ c ≠ ':' := by
      refine ⟨?_, ?_, ?_, ?_⟩
      all_goals
        rintro rfl
        revert letter
        decide
    exact ⟨notBlank, by simp [isDelimiter, notDelimiter], notDelimiter.2.2.2⟩
  · decide

/-- The slashes that were dropped are put back. -/
theorem rooted_unrooted {opening : Bool} {cs : List Char} (pairs : cs.IsChain CanonicalPair)
    (start : opening = true → ∀ c ∈ cs.head?, isNameStart c = false)
    (roots : RootsNamed opening cs) :
    rooted opening (unrooted opening cs) = cs := by
  induction cs generalizing opening with
  | nil => rfl
  | cons c rest ih =>
    obtain ⟨first, others⟩ := List.isChain_cons.1 pairs
    obtain ⟨named, roots⟩ := rootsNamed_cons.1 roots
    have behind := ih others (fun opens d hd => (first d hd).2 opens) roots
    rw [unrooted]
    split
    · rename_i dropped
      obtain ⟨opens, rfl⟩ : opening = true ∧ c = '/' := by simpa using dropped
      obtain ⟨d, hd, begins⟩ := named opens rfl
      obtain ⟨tail, rfl⟩ := List.head?_eq_some_iff.1 hd
      have noRoot : opensName '/' = false := by decide
      rw [noRoot] at behind
      simp [unrooted, rooted, opens, begins] at behind ⊢
      exact behind
    · rename_i kept
      have notStart : ¬((opening && isNameStart c) = true) := by
        intro both
        obtain ⟨opens, begins⟩ : opening = true ∧ isNameStart c = true := by simpa using both
        simp [start opens c rfl] at begins
      rw [rooted, if_neg notStart, behind]

/-- Slashes that are put in front of names leave all other characters in their order. -/
theorem sublist_rooted (opening : Bool) (cs : List Char) : cs.Sublist (rooted opening cs) := by
  fun_induction rooted opening cs with
  | case1 => exact .slnil
  | case2 opening c rest begins ih => exact (ih.cons_cons c).cons '/'
  | case3 opening c rest continues ih => exact ih.cons_cons c

/-- A slash in front of a name hides nothing from the neighbours. -/
theorem compactPair_of_isNameStart (b : Char) {c : Char} (h : isNameStart c = true) :
    CompactPair b c := by
  obtain ⟨notBlank, notDelimiter, notColon⟩ := notSeparator_of_isNameStart h
  exact ⟨⟨fun _ => notColon, fun _ => notDelimiter⟩, fun _ => notBlank⟩

/-- Characters are compact if they are so with slashes in front of the names. -/
theorem compact_of_rooted {opening : Bool} {cs : List Char}
    (h : (rooted opening cs).IsChain CompactPair) :
    cs.IsChain CompactPair := by
  induction cs generalizing opening with
  | nil => exact .nil
  | cons c rest ih =>
    have chain : (c :: rooted (opensName c) rest).IsChain CompactPair := by
      rw [rooted] at h
      split at h
      · exact (List.isChain_cons.1 h).2
      · exact h
    obtain ⟨first, others⟩ := List.isChain_cons.1 chain
    refine (ih others).cons fun d hd => ?_
    obtain ⟨tail, rfl⟩ := List.head?_eq_some_iff.1 hd
    by_cases begins : (opensName c && isNameStart d) = true
    · exact compactPair_of_isNameStart c (Bool.and_eq_true_iff.1 begins).2
    · exact first d (by rw [rooted, if_neg begins]; rfl)

/-- Characters are trimmed if they are so with slashes in front of the names. -/
theorem trimmed_of_rooted {opening : Bool} {cs : List Char} (h : Trimmed (rooted opening cs)) :
    Trimmed cs := by
  obtain ⟨first, last⟩ := h
  rw [getLast?_rooted] at last
  refine ⟨fun c hc => ?_, last⟩
  obtain ⟨rest, rfl⟩ := List.head?_eq_some_iff.1 hc
  by_cases begins : (opening && isNameStart c) = true
  · exact (notSeparator_of_isNameStart (Bool.and_eq_true_iff.1 begins).2).1
  · exact first c (by rw [rooted, if_neg begins]; rfl)

end Roots

section Code

variable {cs : List Char}

/-- Each slash becomes a double colon. -/
def colons (c : Char) : List Char :=
  if c = '/' then [':', ':'] else [c]

/-- Double colons for slashes become the slashes again. -/
theorem slashes_colons (h : ':' ∉ cs) : slashes (cs.flatMap colons) = cs := by
  induction cs with
  | nil => rfl
  | cons c rest ih =>
    simp only [List.mem_cons, not_or] at h
    rw [List.flatMap_cons, colons]
    split
    · rename_i slash
      rw [List.cons_append, List.cons_append, List.nil_append, slashes, ih h.2, slash]
    · rw [List.cons_append, List.nil_append, slashes_cons (Ne.symm h.1), ih h.2]

/-- Double colons for slashes leave no blank at an end. -/
theorem trimmed_colons (h : Trimmed cs) : Trimmed (cs.flatMap colons) := by
  constructor
  · intro c hc
    cases cs with
    | nil => simp at hc
    | cons d rest =>
      rw [List.flatMap_cons, colons] at hc
      split at hc
      · obtain rfl : ':' = c := by simpa using hc
        decide
      · obtain rfl : d = c := by simpa using hc
        exact h.1 d rfl
  · intro c hc
    rcases List.eq_nil_or_concat' cs with rfl | ⟨front, d, rfl⟩
    · simp at hc
    · rw [List.flatMap_append, List.flatMap_cons, List.flatMap_nil, List.append_nil, colons] at hc
      split at hc
      · obtain rfl : ':' = c := by simpa using hc
        decide
      · obtain rfl : d = c := by simpa using hc
        exact h.2 d (by simp)

/-- Texts that differ only in blanks do so behind one more text. -/
theorem SameUpToBlanks.append_left {ds : List Char} (h : SameUpToBlanks cs ds) (text : List Char) :
    SameUpToBlanks (text ++ cs) (text ++ ds) := by
  induction h with
  | rel _ _ spaced => exact .rel _ _ (spaced.append_left text)
  | refl _ => exact .refl _
  | symm _ _ _ ih => exact .symm _ _ ih
  | trans _ _ _ _ _ first second => exact .trans _ _ _ first second

/-- Apart from the double colons, a spelling in code only has more blanks around its delimiters. -/
theorem sameUpToBlanks_spell (cs : List Char) :
    SameUpToBlanks (cs.flatMap colons) (cs.flatMap spell) := by
  induction cs with
  | nil => exact .refl _
  | cons c rest ih =>
    rw [List.flatMap_cons, List.flatMap_cons]
    apply Relation.EqvGen.trans _ _ _ (ih.append_left (colons c))
    rw [colons, spell]
    split
    · exact .refl _
    · split
      · rename_i opening
        rw [opening]
        exact .rel _ _ (.space_after [] _ rfl)
      · split
        · rename_i closing
          rw [closing]
          exact .rel _ _ (.space_before [] _ rfl)
        · split
          · rename_i comma
            rw [comma]
            exact .rel _ _ (.space_after [] _ rfl)
          · exact .refl _

/-- The spelling in code of compact characters leads back to them, with slashes in front of the
names. -/
theorem normalChars_spell (trimmed : Trimmed cs) (noColon : ':' ∉ cs)
    (compact : cs.IsChain CompactPair) :
    normalChars (cs.flatMap spell) = rooted true cs := by
  have tight := compact.imp fun _ _ pair => pair.1
  rw [← (sameUpToBlanks_spell cs).normalChars_eq, normalChars,
    trim_eq_self_iff.2 (trimmed_colons trimmed), slashes_colons noColon,
    tightenBefore_eq_self tight, tightenAfter_eq_self compact (fun delimited => by cases delimited)]

/-- A spellable canonical name is got back from its spelling in code. -/
theorem normalChars_of_spellable (canonical : Canonical cs) (spellable : Spellable cs) :
    normalChars ((unrooted true cs).flatMap spell) = cs := by
  have back : rooted true (unrooted true cs) = cs :=
    rooted_unrooted canonical.pairs (fun _ => canonical.start) spellable.roots
  have compact : (rooted true (unrooted true cs)).IsChain CompactPair := by
    rw [back]
    exact canonical.pairs.imp fun _ _ pair => pair.1
  have noColon : ':' ∉ unrooted true cs := by
    intro mem
    have mem' := (sublist_rooted true _).subset mem
    rw [back] at mem'
    exact spellable.noColon mem'
  have trimmed : Trimmed (unrooted true cs) := trimmed_of_rooted (back.symm ▸ canonical.trimmed)
  rw [normalChars_spell trimmed noColon (compact_of_rooted compact), back]

/-- In code, a bracket that closes never follows another one directly. -/
theorem separated_spell (cs : List Char) :
    (cs.flatMap spell).IsChain (fun a b => a = '>' → b ≠ '>') := by
  have head (rest : List Char) : ∀ c ∈ (rest.flatMap spell).head?, c ≠ '>' := by
    intro c hc
    cases rest with
    | nil => simp at hc
    | cons d rest =>
      rw [List.flatMap_cons, spell] at hc
      grind
  induction cs with
  | nil => exact .nil
  | cons c rest ih =>
    have behind (a : Char) : (a :: rest.flatMap spell).IsChain (fun a b => a = '>' → b ≠ '>') :=
      ih.cons fun d hd _ => head rest d hd
    rw [List.flatMap_cons, spell]
    split
    · exact (behind ':').cons (by simp)
    · split
      · exact (behind ' ').cons (by simp)
      · split
        · exact (behind '>').cons (by simp)
        · split
          · exact (behind ' ').cons (by simp)
          · exact behind c

end Code

/-- The spelling in code of a name whose canonical form has no colon, and a name behind each slash
that begins one, has the same canonical form. So it leads to the same type in every registry and
from every project, canonical names of this kind are spelled in code in different ways, and with
them the types of a registry; and in no spelling do two closing brackets meet. -/
theorem cxxName_faithful :
    (∀ name, Spellable (normalize name).toList → normalize (cxxName name) = normalize name ∧
      (∀ r : Registry, r.get (cxxName name) = r.get name) ∧
      ∀ p : ProjectId, p.findType (.named (cxxName name)) = p.findType (.named name)) ∧
    (∀ m n, Canonical m.toList → Spellable m.toList → Canonical n.toList → Spellable n.toList →
      cxxName m = cxxName n → m = n) ∧
    (∀ r : Registry, ∀ t ∈ r.types, ∀ u ∈ r.types, Canonical t.name.toList →
      Spellable t.name.toList →
      Canonical u.name.toList → Spellable u.name.toList → t.cxxName = u.cxxName → t = u) ∧
    ∀ name, ¬['>', '>'] <:+: (cxxName name).toList := by
  have back (name : String) (h : Spellable (normalize name).toList) :
      normalize (cxxName name) = normalize name := by
    rw [normalize, String.toList_ofList] at h
    rw [cxxName, normalize, normalize, String.toList_ofList,
      normalChars_of_spellable (canonical_normalChars _) h]
  have injective (m n : String) (hm : Canonical m.toList) (hm' : Spellable m.toList)
      (hn : Canonical n.toList)
      (hn' : Spellable n.toList) (same : cxxName m = cxxName n) : m = n := by
    have fixed_m := normalize_eq_self_iff.2 hm
    have fixed_n := normalize_eq_self_iff.2 hn
    calc m = normalize (cxxName m) := by rw [back m (by rwa [fixed_m]), fixed_m]
      _ = normalize (cxxName n) := by rw [same]
      _ = n := by rw [back n (by rwa [fixed_n]), fixed_n]
  refine ⟨fun name h => ?_, injective, fun r t ht u hu hct hst hcu hsu same => ?_,
    fun name meets => ?_⟩
  · have same := back name h
    exact ⟨same, Registry.get_congr same, ProjectId.findType_congr same⟩
  · exact r.agree t ht u hu (injective _ _ hct hst hcu hsu same)
  · obtain ⟨before, after, split⟩ := meets
    rw [cxxName, String.toList_ofList] at split
    have apart := split.symm ▸ separated_spell (unrooted true (normalChars name.toList))
    simp [List.isChain_append] at apart

/-- A template that holds a number and a template, whose spelling in code has all that is undone;
and the standard types, no two of which have one spelling. -/
theorem cxxName_faithful_template :
    Spellable (normalize "/std/map</base/Pair<3,/_t>,/T</int>/Ref>").toList ∧
      cxxName "/std/map</base/Pair<3,/_t>,/T</int>/Ref>" =
        "std::map< base::Pair< 3, _t >, T< int >::Ref >" ∧
      normalize "std::map< base::Pair< 3, _t >, T< int >::Ref >" =
        "/std/map</base/Pair<3,/_t>,/T</int>/Ref>" ∧
      ∀ t ∈ Registry.standard.types, ∀ u ∈ Registry.standard.types, t.cxxName = u.cxxName →
        t = u := by
  obtain ⟨back, -, separate, -⟩ := cxxName_faithful
  have spellable : Spellable (normalize "/std/map</base/Pair<3,/_t>,/T</int>/Ref>").toList := by
    decide +kernel
  have spelled : cxxName "/std/map</base/Pair<3,/_t>,/T</int>/Ref>" =
      "std::map< base::Pair< 3, _t >, T< int >::Ref >" := by
    decide +kernel
  have same := (back _ spellable).1
  rw [spelled] at same
  refine ⟨spellable, spelled, same.trans (by decide +kernel), fun t ht u hu => ?_⟩
  have plain : ∀ t ∈ Registry.standard.types, normalize t.name = t.name ∧
      Spellable t.name.toList := by
    decide +kernel
  exact separate _ t ht u hu (normalize_eq_self_iff.1 (plain t ht).1) (plain t ht).2
    (normalize_eq_self_iff.1 (plain u hu).1) (plain u hu).2

end Componentry.Typename
