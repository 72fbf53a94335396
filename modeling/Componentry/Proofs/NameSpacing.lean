import Componentry.Proofs.CanonicalNames
import Mathlib.Logic.Relation

/-!
# Blanks in names of types

Blanks around the delimiters of a name do not count: names that differ in them only have the same
canonical form. Each pass of the normal form either keeps such a difference between two names, as
trimming and the replacement of double colons do, or removes it, as the two passes over the
delimiters do together.
-/

namespace Componentry.Typename

open Componentry.Text

/-- Whether the second text is the first one with blanks put around one of its delimiters. -/
inductive Spaced : List Char → List Char → Prop where
  | around {front back : List Char} {d : Char} (before after : List Char)
      (delimiter : isDelimiter d = true)
      (blankFront : ∀ c ∈ front, isBlank c = true) (blankBack : ∀ c ∈ back, isBlank c = true) :
      Spaced (before ++ d :: after) (before ++ (front ++ d :: (back ++ after)))

/-- Whether two texts differ only in the blanks around their delimiters. -/
def SameUpToBlanks : List Char → List Char → Prop :=
  Relation.EqvGen Spaced

namespace Spaced

variable {cs ds : List Char}

section Space

variable {d : Char}

/-- A space is a blank. -/
theorem isBlank_of_mem_space : ∀ c ∈ [' '], isBlank c = true := by
  intro c hc
  rw [List.mem_singleton.1 hc]
  rfl

/-- A space is put before a delimiter. -/
theorem space_before (before after : List Char) (delimiter : isDelimiter d = true) :
    Spaced (before ++ d :: after) (before ++ ' ' :: d :: after) :=
  @around [' '] [] d before after delimiter isBlank_of_mem_space nofun

/-- A space is put behind a delimiter. -/
theorem space_after (before after : List Char) (delimiter : isDelimiter d = true) :
    Spaced (before ++ d :: after) (before ++ d :: ' ' :: after) :=
  @around [] [' '] d before after delimiter nofun isBlank_of_mem_space

end Space

/-- Blanks may be put in behind one more text. -/
theorem append_left (h : Spaced cs ds) (text : List Char) : Spaced (text ++ cs) (text ++ ds) := by
  obtain ⟨before, after, delimiter, blankFront, blankBack⟩ := h
  simpa using Spaced.around (text ++ before) after delimiter blankFront blankBack

/-- Blanks may be put in from either end. -/
theorem reverse (h : Spaced cs ds) : Spaced cs.reverse ds.reverse := by
  obtain ⟨before, after, delimiter, blankFront, blankBack⟩ := h
  simpa using Spaced.around after.reverse before.reverse delimiter
    (fun c hc => blankBack c (List.mem_reverse.1 hc))
    (fun c hc => blankFront c (List.mem_reverse.1 hc))

/-- If the delimiter comes first among the characters that are kept, the blanks in front of it
go. -/
theorem dropWhile_isBlank (h : Spaced cs ds) :
    Spaced (cs.dropWhile isBlank) (ds.dropWhile isBlank) := by
  obtain ⟨before, after, delimiter, blankFront, blankBack⟩ := h
  have notBlank := isBlank_of_isDelimiter delimiter
  simp only [List.dropWhile_append, List.dropWhile_append_of_pos blankFront, List.dropWhile_cons,
    notBlank, Bool.false_eq_true, if_false]
  split
  · exact @Spaced.around [] _ _ [] after delimiter (by simp) blankBack
  · exact Spaced.around _ after delimiter blankFront blankBack

/-- Blanks may be put in before or after trimming. -/
theorem trim (h : Spaced cs ds) : Spaced (trim cs) (trim ds) :=
  h.dropWhile_isBlank.reverse.dropWhile_isBlank.reverse

end Spaced

section Slashes

variable {c : Char} {cs ds : List Char}

/-- A character other than a colon is left as it is. -/
theorem slashes_cons (h : c ≠ ':') : slashes (c :: cs) = c :: slashes cs := by
  rw [slashes]
  intro rest start
  exact absurd start h

/-- What does not begin with a colon is read by itself. -/
theorem slashes_append (h : ∀ d ∈ ds.head?, d ≠ ':') :
    slashes (cs ++ ds) = slashes cs ++ slashes ds := by
  fun_induction slashes cs with
  | case1 rest ih => simp [slashes, ih]
  | case2 c rest single ih =>
    rw [List.cons_append, slashes, ih, List.cons_append]
    intro rest' colon next
    cases rest with
    | nil => exact h ':' (by simp [show ds = ':' :: rest' from next]) rfl
    | cons e es =>
      obtain rfl : e = ':' := (List.cons.inj next).1
      exact single es colon rfl
  | case3 => rfl

/-- Characters without a colon are left as they are. -/
theorem slashes_append_of_notMem (h : ':' ∉ cs) : slashes (cs ++ ds) = cs ++ slashes ds := by
  induction cs with
  | nil => rfl
  | cons c cs ih =>
    simp only [List.mem_cons, not_or] at h
    rw [List.cons_append, slashes_cons (Ne.symm h.1), ih h.2, List.cons_append]

/-- There is no colon among blanks. -/
theorem colon_notMem_of_isBlank (h : ∀ c ∈ cs, isBlank c = true) : ':' ∉ cs := by
  intro mem
  exact absurd (h ':' mem) (by decide)

/-- The replacement of double colons does not see blanks and delimiters. -/
theorem Spaced.slashes (h : Spaced cs ds) : Spaced (slashes cs) (slashes ds) := by
  obtain @⟨front, back, d, before, after, delimiter, blankFront, blankBack⟩ := h
  have notColon := ne_colon_of_isDelimiter delimiter
  have first : Typename.slashes (before ++ d :: after) =
      Typename.slashes before ++ d :: Typename.slashes after := by
    rw [slashes_append (by simpa using notColon), slashes_cons notColon]
  have second : Typename.slashes (before ++ (front ++ d :: (back ++ after))) =
      Typename.slashes before ++ (front ++ d :: (back ++ Typename.slashes after)) := by
    rw [slashes_append, slashes_append_of_notMem (colon_notMem_of_isBlank blankFront),
      slashes_cons notColon, slashes_append_of_notMem (colon_notMem_of_isBlank blankBack)]
    intro c hc
    cases front with
    | nil =>
      obtain rfl : d = c := by simpa using hc
      exact notColon
    | cons b front =>
      obtain rfl : b = c := by simpa using hc
      rintro rfl
      exact absurd (blankFront ':' List.mem_cons_self) (by decide)
  rw [first, second]
  exact Spaced.around _ _ delimiter blankFront blankBack

end Slashes

section Tighten

variable {d : Char} {cs ds : List Char}

/-- A delimiter is kept where blanks before delimiters go. -/
theorem tightenBefore_delimiter (delimiter : isDelimiter d = true) :
    tightenBefore (d :: cs) = d :: tightenBefore cs := by
  rw [tightenBefore]
  cases tightenBefore cs with
  | nil => rfl
  | cons next after => simp [isBlank_of_isDelimiter delimiter]

/-- Blanks in front of a delimiter go. -/
theorem tightenBefore_blanks {front : List Char} (delimiter : isDelimiter d = true)
    (blank : ∀ c ∈ front, isBlank c = true) :
    tightenBefore (front ++ d :: cs) = d :: tightenBefore cs := by
  induction front with
  | nil => exact tightenBefore_delimiter delimiter
  | cons b front ih =>
    have rest := ih fun c hc => blank c (List.mem_cons_of_mem b hc)
    simp [tightenBefore, rest, blank b List.mem_cons_self, delimiter]

/-- What stands before a delimiter is left with the same characters, whatever stands behind it. -/
theorem exists_tightenBefore (d : Char) (before : List Char) :
    ∃ text, ∀ rest tight, tightenBefore rest = d :: tight →
      tightenBefore (before ++ rest) = text ++ d :: tight := by
  induction before with
  | nil => exact ⟨[], fun rest tight start => start⟩
  | cons c before ih =>
    obtain ⟨text, htext⟩ := ih
    cases text with
    | nil =>
      refine ⟨if isBlank c && isDelimiter d then [] else [c], fun rest tight start => ?_⟩
      rw [List.cons_append, tightenBefore, htext rest tight start]
      simp only [List.nil_append]
      split <;> rfl
    | cons first text =>
      refine ⟨if isBlank c && isDelimiter first then first :: text else c :: first :: text,
        fun rest tight start => ?_⟩
      rw [List.cons_append, tightenBefore, htext rest tight start]
      simp only [List.cons_append]
      split <;> rfl

/-- What stands behind a delimiter loses its blanks by itself. -/
theorem tightenAfter_append (delimiter : isDelimiter d = true) (delimited : Bool)
    (text tight : List Char) :
    tightenAfter delimited (text ++ d :: tight) =
      tightenAfter delimited text ++ d :: tightenAfter true tight := by
  induction text generalizing delimited with
  | nil => simp [tightenAfter, isBlank_of_isDelimiter delimiter, delimiter]
  | cons c text ih =>
    simp only [List.cons_append, tightenAfter, ih]
    split <;> rfl

/-- Blanks behind a delimiter go. -/
theorem tightenAfter_blanks {back : List Char} (blank : ∀ c ∈ back, isBlank c = true) :
    tightenAfter true (tightenBefore (back ++ cs)) = tightenAfter true (tightenBefore cs) := by
  induction back with
  | nil => rfl
  | cons b back ih =>
    have isBlank_b := blank b List.mem_cons_self
    have rest := ih fun c hc => blank c (List.mem_cons_of_mem b hc)
    rw [List.cons_append, tightenBefore]
    cases tight : tightenBefore (back ++ cs) with
    | nil => rw [← rest, tight]; simp [tightenAfter, isBlank_b]
    | cons next after =>
      rw [← rest, tight]
      simp only
      split
      · rfl
      · rw [tightenAfter, isBlank_b]
        rfl

/-- The passes over the delimiters remove the blanks around them. -/
theorem Spaced.tighten (h : Spaced cs ds) :
    tightenAfter false (tightenBefore cs) = tightenAfter false (tightenBefore ds) := by
  obtain @⟨front, back, d, before, after, delimiter, blankFront, blankBack⟩ := h
  obtain ⟨text, htext⟩ := exists_tightenBefore d before
  rw [htext _ _ (tightenBefore_delimiter delimiter),
    htext _ _ (tightenBefore_blanks delimiter blankFront), tightenAfter_append delimiter,
    tightenAfter_append delimiter, tightenAfter_blanks blankBack]

end Tighten

/-- Blanks around delimiters do not change the canonical form. -/
theorem Spaced.normalChars_eq {cs ds : List Char} (h : Spaced cs ds) :
    normalChars cs = normalChars ds := by
  rw [normalChars, normalChars, h.trim.slashes.tighten]

/-- Names that differ only in the blanks around their delimiters have the same canonical form. -/
theorem SameUpToBlanks.normalChars_eq {cs ds : List Char} (h : SameUpToBlanks cs ds) :
    normalChars cs = normalChars ds := by
  induction h with
  | rel _ _ spaced => exact spaced.normalChars_eq
  | refl _ => rfl
  | symm _ _ _ ih => exact ih.symm
  | trans _ _ _ _ _ first second => exact first.trans second

end Componentry.Typename
