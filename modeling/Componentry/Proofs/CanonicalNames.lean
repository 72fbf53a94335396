import Componentry.Proofs.TypelistLines
import Componentry.Typename
import Mathlib.Data.List.Chain

/-!
# Canonical names of types

Which characters may stand next to each other in a canonical name, and that the canonical form of a
name has no others. So the canonical form of a canonical name is the name itself.
-/

namespace Componentry.Typename

open Componentry.Text

/-- Whether two characters may stand next to each other where double colons have become slashes. -/
def SlashedPair (a b : Char) : Prop :=
  a = ':' → b ≠ ':'

/-- Whether, also, no blank stands in front of a delimiter. -/
def TightPair (a b : Char) : Prop :=
  SlashedPair a b ∧ (isBlank a = true → isDelimiter b = false)

/-- Whether, also, no blank follows a delimiter. -/
def CompactPair (a b : Char) : Prop :=
  TightPair a b ∧ (isDelimiter a = true → isBlank b = false)

/-- Whether, also, each qualified name begins with a slash. -/
def CanonicalPair (a b : Char) : Prop :=
  CompactPair a b ∧ (opensName a = true → isNameStart b = false)

/-- Whether characters are those of a canonical name. -/
structure Canonical (cs : List Char) : Prop where
  trimmed : Trimmed cs
  pairs : cs.IsChain CanonicalPair
  start : ∀ c ∈ cs.head?, isNameStart c = false

/-- The delimiters are the brackets and the comma. -/
theorem isDelimiter_cases {c : Char} (h : isDelimiter c = true) : c = '<' ∨ c = '>' ∨ c = ',' := by
  simpa [isDelimiter, or_assoc] using h

/-- A delimiter is not a blank. -/
theorem isBlank_of_isDelimiter {c : Char} (h : isDelimiter c = true) : isBlank c = false := by
  rcases isDelimiter_cases h with rfl | rfl | rfl <;> decide

/-- A delimiter is not a colon. -/
theorem ne_colon_of_isDelimiter {c : Char} (h : isDelimiter c = true) : c ≠ ':' := by
  rcases isDelimiter_cases h with rfl | rfl | rfl <;> decide

section Slashes

/-- The first character is kept, or becomes a slash. -/
theorem head?_slashes (cs : List Char) : ∀ c ∈ (slashes cs).head?, c = '/' ∨ c ∈ cs.head? := by
  fun_cases slashes cs <;> simp

/-- The last character is kept, or becomes a slash. -/
theorem getLast?_slashes (cs : List Char) :
    (slashes cs).getLast? = cs.getLast? ∨ (slashes cs).getLast? = some '/' := by
  fun_induction slashes cs with
  | case1 rest ih =>
    rw [List.getLast?_cons, List.getLast?_cons, List.getLast?_cons]
    cases rest with
    | nil => exact .inr rfl
    | cons d ds => rcases ih with same | slash <;> simp_all [List.getLast?_cons]
  | case2 c rest _ ih =>
    rw [List.getLast?_cons, List.getLast?_cons]
    cases rest with
    | nil => exact .inl rfl
    | cons d ds => rcases ih with same | slash <;> simp_all [List.getLast?_cons]
  | case3 => exact .inl rfl

/-- No blank comes to stand at an end. -/
theorem trimmed_slashes {cs : List Char} (h : Trimmed cs) : Trimmed (slashes cs) := by
  refine ⟨fun c hc => ?_, fun c hc => ?_⟩
  · rcases head?_slashes cs c hc with rfl | first
    · decide
    · exact h.1 c first
  · rcases getLast?_slashes cs with same | slash
    · exact h.2 c (same ▸ hc)
    · rw [slash] at hc
      cases hc
      decide

/-- No two colons stand next to each other any more. -/
theorem pairs_slashes (cs : List Char) : (slashes cs).IsChain SlashedPair := by
  fun_induction slashes cs with
  | case1 rest ih => exact ih.cons fun c _ h => absurd h (by decide)
  | case2 c rest single ih =>
    refine ih.cons fun d hd hc same => ?_
    rcases head?_slashes rest d hd with slash | first
    · rw [same] at slash
      exact absurd slash (by decide)
    · cases rest with
      | nil => cases first
      | cons e es =>
        cases first
        exact single es hc (by rw [same])
  | case3 => exact .nil

/-- Characters without two colons in a row are left as they are. -/
theorem slashes_eq_self {cs : List Char} (h : cs.IsChain SlashedPair) : slashes cs = cs := by
  fun_induction slashes cs with
  | case1 rest ih => exact absurd rfl ((List.isChain_cons_cons.1 h).1 rfl)
  | case2 c rest _ ih => rw [ih (List.isChain_cons.1 h).2]
  | case3 => rfl

end Slashes

section TightenBefore

/-- The first character is kept unless it was a blank before a delimiter. -/
theorem head?_tightenBefore (cs : List Char) :
    ∀ c ∈ (tightenBefore cs).head?, c ∈ cs.head? ∨ isDelimiter c = true := by
  fun_cases tightenBefore cs <;> simp_all

/-- The last character is kept. -/
theorem getLast?_tightenBefore (cs : List Char) : (tightenBefore cs).getLast? = cs.getLast? := by
  fun_induction tightenBefore cs with
  | case1 => rfl
  | case2 c rest none ih =>
    cases rest with
    | nil => rfl
    | cons d ds => simp [none, List.getLast?_cons] at ih
  | case3 c rest next after found skipped ih =>
    rw [found] at ih
    cases rest with
    | nil => simp at ih
    | cons d ds => rw [ih, List.getLast?_cons_cons]
  | case4 c rest next after found kept ih =>
    rw [found] at ih
    rw [List.getLast?_cons_cons, ih]
    cases rest with
    | nil => simp at ih
    | cons d ds => rw [List.getLast?_cons_cons]

/-- No blank comes to stand at an end. -/
theorem trimmed_tightenBefore {cs : List Char} (h : Trimmed cs) : Trimmed (tightenBefore cs) := by
  refine ⟨fun c hc => ?_, by rw [getLast?_tightenBefore]; exact h.2⟩
  rcases head?_tightenBefore cs c hc with first | delimiter
  · exact h.1 c first
  · exact isBlank_of_isDelimiter delimiter

/-- No blank stands before a delimiter any more. -/
theorem pairs_tightenBefore {cs : List Char} (h : cs.IsChain SlashedPair) :
    (tightenBefore cs).IsChain TightPair := by
  induction cs with
  | nil => exact .nil
  | cons c rest ih =>
    obtain ⟨first, others⟩ := List.isChain_cons.1 h
    have tight := ih others
    have heads := head?_tightenBefore rest
    rw [tightenBefore]
    cases hrest : tightenBefore rest with
    | nil => exact .singleton c
    | cons next after =>
      rw [hrest] at tight heads
      simp only
      split
      · exact tight
      · rename_i apart
        refine tight.cons fun d hd => ?_
        obtain rfl : next = d := by simpa using hd
        refine ⟨?_, by simpa using apart⟩
        rcases heads next rfl with hnext | delimiter
        · exact first next hnext
        · exact fun _ => ne_colon_of_isDelimiter delimiter

/-- Characters without a blank before a delimiter are left as they are. -/
theorem tightenBefore_eq_self {cs : List Char} (h : cs.IsChain TightPair) :
    tightenBefore cs = cs := by
  induction cs with
  | nil => rfl
  | cons c rest ih =>
    obtain ⟨first, others⟩ := List.isChain_cons.1 h
    rw [tightenBefore, ih others]
    cases rest with
    | nil => rfl
    | cons next after =>
      have apart := (first next rfl).2
      simp only
      rw [if_neg (by simpa using apart)]

end TightenBefore

section TightenAfter

/-- The first character is kept, or is the first that is no blank after a delimiter. -/
theorem head?_tightenAfter (delimited : Bool) (cs : List Char) :
    ∀ c ∈ (tightenAfter delimited cs).head?,
    (delimited = true → isBlank c = false) ∧ (delimited = false → c ∈ cs.head?) := by
  fun_induction tightenAfter delimited cs <;> simp_all

/-- The last character is kept if it is no blank. -/
theorem getLast?_tightenAfter {delimited : Bool} {cs : List Char}
    (h : ∀ c ∈ cs.getLast?, isBlank c = false) :
    (tightenAfter delimited cs).getLast? = cs.getLast? := by
  fun_induction tightenAfter delimited cs with
  | case1 => rfl
  | case2 delimited c rest skipped ih =>
    cases rest with
    | nil => simp_all
    | cons d ds => rw [ih (by simpa using h), List.getLast?_cons_cons]
  | case3 delimited c rest kept ih =>
    cases rest with
    | nil => rfl
    | cons d ds =>
      rw [List.getLast?_cons, ih (by simpa using h), List.getLast?_cons_cons, List.getLast?_cons]
      rfl

/-- No blank comes to stand at an end. -/
theorem trimmed_tightenAfter {cs : List Char} (h : Trimmed cs) :
    Trimmed (tightenAfter false cs) := by
  refine ⟨fun c hc => h.1 c ((head?_tightenAfter false cs c hc).2 rfl), ?_⟩
  rw [getLast?_tightenAfter h.2]
  exact h.2

/-- No blank follows a delimiter any more. -/
theorem pairs_tightenAfter (delimited : Bool) {cs : List Char} (h : cs.IsChain TightPair) :
    (tightenAfter delimited cs).IsChain CompactPair := by
  induction cs generalizing delimited with
  | nil => exact .nil
  | cons c rest ih =>
    obtain ⟨first, others⟩ := List.isChain_cons.1 h
    rw [tightenAfter]
    split
    · exact ih true others
    · refine (ih (isDelimiter c) others).cons fun d hd => ?_
      have head := head?_tightenAfter (isDelimiter c) rest d hd
      cases hc : isDelimiter c with
      | true =>
        have notBlank := isBlank_of_isDelimiter hc
        refine ⟨⟨fun colon => absurd colon (ne_colon_of_isDelimiter hc), fun blank => ?_⟩, head.1⟩
        rw [notBlank] at blank
        cases blank
      | false =>
        exact ⟨first d (head.2 hc), fun delimiter => by rw [hc] at delimiter; cases delimiter⟩

/-- Characters without a blank after a delimiter are left as they are. -/
theorem tightenAfter_eq_self {delimited : Bool} {cs : List Char} (h : cs.IsChain CompactPair)
    (start : delimited = true → ∀ c ∈ cs.head?, isBlank c = false) :
    tightenAfter delimited cs = cs := by
  induction cs generalizing delimited with
  | nil => rfl
  | cons c rest ih =>
    obtain ⟨first, others⟩ := List.isChain_cons.1 h
    have kept : ¬((delimited && isBlank c) = true) := by
      rw [Bool.and_eq_true]
      exact fun ⟨hd, blank⟩ => by simp [start hd c rfl] at blank
    rw [tightenAfter, if_neg kept, ih others fun delimiter d hd => (first d hd).2 delimiter]

end TightenAfter

section Rooted

/-- The first character is kept unless a slash is put before it. -/
theorem head?_rooted (opening : Bool) (cs : List Char) : ∀ c ∈ (rooted opening cs).head?,
    (opening = true → isNameStart c = false) ∧ (c = '/' ∨ c ∈ cs.head?) := by
  have slash : isNameStart '/' = false := by decide
  fun_cases rooted opening cs <;> simp_all

/-- The last character is kept. -/
theorem getLast?_rooted (opening : Bool) (cs : List Char) :
    (rooted opening cs).getLast? = cs.getLast? := by
  fun_induction rooted opening cs with
  | case1 => rfl
  | case2 opening c rest begins ih =>
    rw [List.getLast?_cons_cons, List.getLast?_cons, ih, List.getLast?_cons]
  | case3 opening c rest continues ih => rw [List.getLast?_cons, ih, List.getLast?_cons]

/-- No blank comes to stand at an end. -/
theorem trimmed_rooted (opening : Bool) {cs : List Char} (h : Trimmed cs) :
    Trimmed (rooted opening cs) := by
  refine ⟨fun c hc => ?_, by rw [getLast?_rooted]; exact h.2⟩
  rcases (head?_rooted opening cs c hc).2 with rfl | first
  · decide
  · exact h.1 c first

/-- Any character may follow a slash. -/
theorem canonicalPair_slash (c : Char) : CanonicalPair '/' c := by
  have colon : '/' ≠ ':' := by decide
  have blank : isBlank '/' = false := by decide
  have delimiter : isDelimiter '/' = false := by decide
  have opens : opensName '/' = false := by decide
  simp [CanonicalPair, CompactPair, TightPair, SlashedPair, colon, blank, delimiter, opens]

/-- A slash may follow every character. -/
theorem canonicalPair_before_slash (c : Char) : CanonicalPair c '/' := by
  have blank : isBlank '/' = false := by decide
  have delimiter : isDelimiter '/' = false := by decide
  have start : isNameStart '/' = false := by decide
  simp [CanonicalPair, CompactPair, TightPair, SlashedPair, blank, delimiter, start]

/-- Each qualified name begins with a slash afterwards. -/
theorem pairs_rooted (opening : Bool) {cs : List Char} (h : cs.IsChain CompactPair) :
    (rooted opening cs).IsChain CanonicalPair := by
  induction cs generalizing opening with
  | nil => exact .nil
  | cons c rest ih =>
    obtain ⟨first, others⟩ := List.isChain_cons.1 h
    have continued : (c :: rooted (opensName c) rest).IsChain CanonicalPair := by
      refine (ih (opensName c) others).cons fun d hd => ?_
      obtain ⟨notStart, slash | next⟩ := head?_rooted (opensName c) rest d hd
      · rw [slash]
        exact canonicalPair_before_slash c
      · exact ⟨first d next, notStart⟩
    rw [rooted]
    split
    · exact continued.cons fun d _ => canonicalPair_slash d
    · exact continued

/-- Characters whose names begin with slashes are left as they are. -/
theorem rooted_eq_self {opening : Bool} {cs : List Char} (h : cs.IsChain CanonicalPair)
    (start : opening = true → ∀ c ∈ cs.head?, isNameStart c = false) : rooted opening cs = cs := by
  induction cs generalizing opening with
  | nil => rfl
  | cons c rest ih =>
    obtain ⟨first, others⟩ := List.isChain_cons.1 h
    have kept : ¬((opening && isNameStart c) = true) := by
      rw [Bool.and_eq_true]
      exact fun ⟨ho, begins⟩ => by simp [start ho c rfl] at begins
    rw [rooted, if_neg kept, ih others fun opens d hd => (first d hd).2 opens]

end Rooted

/-- The canonical form of a name is canonical. -/
theorem canonical_normalChars (cs : List Char) : Canonical (normalChars cs) where
  trimmed := trimmed_rooted true
    (trimmed_tightenAfter (trimmed_tightenBefore (trimmed_slashes (trimmed_trim cs))))
  pairs :=
    pairs_rooted true (pairs_tightenAfter false (pairs_tightenBefore (pairs_slashes (trim cs))))
  start c hc := (head?_rooted true _ c hc).1 rfl

/-- A canonical name is its own canonical form. -/
theorem normalChars_eq_self {cs : List Char} (h : Canonical cs) : normalChars cs = cs := by
  have compact := h.pairs.imp fun _ _ pair => pair.1
  have tight := compact.imp fun _ _ pair => pair.1
  rw [normalChars, trim_eq_self_iff.2 h.trimmed, slashes_eq_self (tight.imp fun _ _ pair => pair.1),
    tightenBefore_eq_self tight, tightenAfter_eq_self compact (fun delimited => by cases delimited),
    rooted_eq_self h.pairs fun _ => h.start]

/-- The canonical form is its own canonical form. -/
@[simp] theorem normalize_normalize (name : String) :
    normalize (normalize name) = normalize name := by
  rw [normalize, normalize, String.toList_ofList, normalChars_eq_self (canonical_normalChars _)]

end Componentry.Typename
