import Componentry.Typelist
import Mathlib.Data.List.DropRight
import Mathlib.Tactic.IntervalCases

/-!
# Lines of a typelist

What a line of a typelist is read as, told without the scans that the reader makes. A line is
refused if a digit run that starts it, or follows a blank, is followed by blanks and a digit. A line
that ends in blanks and a digit run is cut there into a name and a flag, any other line is a name.
The names that are left by this are legible: such a name is read as it stands, and also with the
flag `0` behind it, unless it is a digit run itself.
-/

namespace Componentry.Text

/-- Whether there is no blank at either end of the characters. -/
def Trimmed (cs : List Char) : Prop :=
  (∀ c ∈ cs.head?, isBlank c = false) ∧ ∀ c ∈ cs.getLast?, isBlank c = false

/-- Digits, and at least one. -/
def IsDigitRun (cs : List Char) : Prop :=
  cs ≠ [] ∧ ∀ c ∈ cs, isDigit c = true

/-- Blanks, and at least one. -/
def IsGap (cs : List Char) : Prop :=
  cs ≠ [] ∧ ∀ c ∈ cs, isBlank c = true

/-- No character separates words and is a digit. -/
theorem isDigit_of_isBlank {c : Char} (h : isBlank c = true) : isDigit c = false := by
  have known : c = Char.ofNat c.toNat := (Char.ofNat_toNat c).symm
  have cases : (9 ≤ c.toNat ∧ c.toNat ≤ 0x0D) ∨ (0x1C ≤ c.toNat ∧ c.toNat ≤ 0x20) ∨ c.toNat = 0x85 ∨
      c.toNat = 0xA0 ∨ c.toNat = 0x1680 ∨ (0x2000 ≤ c.toNat ∧ c.toNat ≤ 0x200A) ∨ c.toNat = 0x2028 ∨
      c.toNat = 0x2029 ∨ c.toNat = 0x202F ∨ c.toNat = 0x205F ∨ c.toNat = 0x3000 := by
    simpa [isBlank, or_assoc] using h
  rw [known]
  generalize c.toNat = n at cases
  rcases cases with ⟨lo, hi⟩ | ⟨lo, hi⟩ | rfl | rfl | rfl | ⟨lo, hi⟩ | rfl | rfl | rfl | rfl | rfl
  · interval_cases n <;> decide
  · interval_cases n <;> decide
  · decide
  · decide
  · decide
  · interval_cases n <;> decide
  all_goals decide

/-- A digit is no blank. -/
theorem isBlank_of_isDigit {c : Char} (h : isDigit c = true) : isBlank c = false := by
  by_contra blank
  rw [isDigit_of_isBlank (by simpa using blank)] at h
  cases h

/-- What is dropped from the front ends before a character that is kept. -/
theorem head?_dropWhile_not (p : Char → Bool) (cs : List Char) :
    ∀ c ∈ (cs.dropWhile p).head?, p c = false := by
  induction cs with
  | nil => simp
  | cons c cs ih =>
    rw [List.dropWhile_cons]
    split
    · exact ih
    · rename_i hc
      simpa using hc

/-- A scan stops right behind the characters that it takes. -/
theorem scan_append (p : Char → Bool) {front rest : List Char} (taken : ∀ c ∈ front, p c = true)
    (stop : ∀ c ∈ rest.head?, p c = false) :
    (front ++ rest).takeWhile p = front ∧ (front ++ rest).dropWhile p = rest := by
  rw [List.takeWhile_append_of_pos taken, List.dropWhile_append_of_pos taken]
  cases rest with
  | nil => simp
  | cons c rest => simp [stop c rfl]

/-- A text ends without a blank once its end is trimmed. -/
theorem getLast?_trimEnd (cs : List Char) : ∀ c ∈ (trimEnd cs).getLast?, isBlank c = false := by
  rw [trimEnd, List.getLast?_reverse]
  exact head?_dropWhile_not isBlank cs.reverse

/-- Trimming leaves no blank at the ends. -/
theorem trimmed_trim (cs : List Char) : Trimmed (trim cs) := by
  refine ⟨fun c hc => ?_, getLast?_trimEnd _⟩
  refine head?_dropWhile_not isBlank cs c ?_
  obtain ⟨rest, hrest⟩ : trim cs <+: cs.dropWhile isBlank := List.rdropWhile_prefix isBlank _
  rw [← hrest, List.head?_append, Option.mem_def.1 hc]
  rfl

/-- Trimming adds no character. -/
theorem mem_of_mem_trim {c : Char} {cs : List Char} (h : c ∈ trim cs) : c ∈ cs :=
  (List.dropWhile_suffix isBlank).subset ((List.rdropWhile_prefix isBlank _).subset h)

/-- Characters without a blank at their ends are left as they are. -/
theorem trim_eq_self_iff {cs : List Char} : trim cs = cs ↔ Trimmed cs := by
  refine ⟨fun h => h ▸ trimmed_trim cs, fun ⟨first, last⟩ => ?_⟩
  have front : cs.dropWhile isBlank = cs := by
    cases cs with
    | nil => rfl
    | cons c cs => simp [first c rfl]
  rw [trim, front]
  exact List.rdropWhile_eq_self_iff.2 fun hne => by
    simp [last _ (List.getLast?_eq_some_getLast hne)]

/-- The pieces of a text do not hold the separator. -/
theorem notMem_of_mem_splitAt {separator : Char} {cs piece : List Char}
    (h : piece ∈ splitAt separator cs) :
    separator ∉ piece := by
  induction cs generalizing piece with
  | nil => simp_all [splitAt]
  | cons c cs ih =>
    unfold splitAt at h
    split at h
    · rcases List.mem_cons.1 h with rfl | h
      · simp
      · exact ih h
    · rename_i hc
      split at h
      · obtain rfl : piece = [c] := by simpa using h
        simpa using Ne.symm hc
      · rename_i first pieces hsplit
        rcases List.mem_cons.1 h with rfl | h
        · simpa using ⟨Ne.symm hc, ih (hsplit ▸ List.mem_cons_self)⟩
        · exact ih (hsplit ▸ List.mem_cons_of_mem _ h)

/-- A text without the separator is one piece. -/
theorem splitAt_of_notMem {separator : Char} {piece : List Char} (h : separator ∉ piece) :
    splitAt separator piece = [piece] := by
  induction piece with
  | nil => rfl
  | cons c piece ih =>
    obtain ⟨hc, hpiece⟩ : separator ≠ c ∧ separator ∉ piece := by simpa using h
    rw [splitAt, if_neg (Ne.symm hc), ih hpiece]

/-- The pieces of a text that holds the separator are those in front of it and those behind it. -/
theorem splitAt_append_cons (separator : Char) (cs rest : List Char) :
    splitAt separator (cs ++ separator :: rest) =
      splitAt separator cs ++ splitAt separator rest := by
  induction cs with
  | nil => simp [splitAt]
  | cons c cs ih =>
    rw [List.cons_append, splitAt, splitAt, ih]
    split
    · rfl
    · have pieces : splitAt separator cs ≠ [] := by
        unfold splitAt
        grind
      obtain ⟨first, more, hsplit⟩ := List.exists_cons_of_ne_nil pieces
      rw [hsplit]
      rfl

/-- A piece that does not hold the separator is cut off at the next one. -/
theorem splitAt_append {separator : Char} {piece : List Char} (h : separator ∉ piece)
    (rest : List Char) :
    splitAt separator (piece ++ separator :: rest) = piece :: splitAt separator rest := by
  rw [splitAt_append_cons, splitAt_of_notMem h, List.singleton_append]

end Componentry.Text

namespace Componentry.Typelist

open Componentry.Text

/-- A digit run, blanks and a digit start the characters. -/
def BeginsPair (cs : List Char) : Prop :=
  ∃ run gap digit after, cs = run ++ gap ++ digit :: after ∧ IsDigitRun run ∧ IsGap gap ∧
    isDigit digit = true

/-- A digit run that starts the characters, or follows a blank, is followed by blanks and a
digit. -/
def Corrupted (cs : List Char) : Prop :=
  ∃ before after, cs = before ++ after ∧ (∀ b ∈ before.getLast?, isBlank b = true) ∧
    BeginsPair after

/-- Blanks and a digit run end the characters. -/
def EndsInFlag (cs : List Char) : Prop :=
  ∃ front gap run, cs = front ++ gap ++ run ∧ IsGap gap ∧ IsDigitRun run

/-- The names that a typelist can hold on a line of their own. -/
structure Legible (cs : List Char) : Prop where
  nonempty : cs ≠ []
  trimmed : trim cs = cs
  oneLine : '\n' ∉ cs
  intact : ¬Corrupted cs
  unflagged : ¬EndsInFlag cs

/-- The two ways to say that characters begin with a pair of digit runs agree. -/
theorem startsDigitPair_iff {cs : List Char} :
    (∃ c ∈ cs.head?, isDigit c = true) ∧ startsDigitPair cs = true ↔ BeginsPair cs := by
  constructor
  · rintro ⟨⟨c, hc, digit⟩, pair⟩
    obtain ⟨rest, rfl⟩ : ∃ rest, cs = c :: rest := List.head?_eq_some_iff.1 hc
    unfold startsDigitPair at pair
    split at pair
    · cases pair
    · rename_i b afterRun hrun
      rw [Bool.and_eq_true] at pair
      obtain ⟨blank, pair⟩ := pair
      split at pair
      · cases pair
      · rename_i d after hgap
        refine ⟨(c :: rest).takeWhile isDigit, b :: afterRun.takeWhile isBlank, d, after, ?_,
          ⟨?_, ?_⟩, ⟨?_, ?_⟩, pair⟩
        · rw [← hgap, List.append_assoc, List.cons_append, List.takeWhile_append_dropWhile, ← hrun,
            List.takeWhile_append_dropWhile]
        · simp [digit]
        · exact fun x hx => List.mem_takeWhile_imp hx
        · simp
        · intro x hx
          rcases List.mem_cons.1 hx with rfl | hx
          · exact blank
          · exact List.mem_takeWhile_imp hx
  · rintro ⟨run, gap, d, after, rfl, ⟨runNe, digits⟩, ⟨gapNe, blanks⟩, digit⟩
    obtain ⟨c, run, rfl⟩ := List.exists_cons_of_ne_nil runNe
    obtain ⟨b, gap, rfl⟩ := List.exists_cons_of_ne_nil gapNe
    have blank : isBlank b = true := blanks b List.mem_cons_self
    have runEnd :
        ((c :: run) ++ (b :: gap ++ d :: after)).dropWhile isDigit = b :: gap ++ d :: after :=
      (scan_append isDigit digits (by simp [isDigit_of_isBlank blank])).2
    have gapEnd : (gap ++ d :: after).dropWhile isBlank = d :: after :=
      (scan_append isBlank (fun x hx => blanks x (List.mem_cons_of_mem _ hx))
        (by simp [isBlank_of_isDigit digit])).2
    refine ⟨⟨c, by simp, digits c List.mem_cons_self⟩, ?_⟩
    rw [startsDigitPair, List.append_assoc, runEnd]
    simp [gapEnd, blank, digit]

/-- The scan of a line finds what it is to refuse. The first argument speaks for what stands before
the characters. -/
theorem corrupt_iff {free : Bool} {cs : List Char} :
    corrupt free cs = true ↔
      ∃ before after, cs = before ++ after ∧ (before = [] → free = true) ∧
        (∀ b ∈ before.getLast?, isBlank b = true) ∧ BeginsPair after := by
  induction cs generalizing free with
  | nil => simp [corrupt, BeginsPair]
  | cons c rest ih =>
    have here : (free && isDigit c && startsDigitPair (c :: rest)) = true ↔
        free = true ∧ BeginsPair (c :: rest) := by
      simp [← startsDigitPair_iff, and_assoc]
    rw [corrupt, Bool.or_eq_true, here, ih]
    constructor
    · rintro (⟨atStart, pair⟩ | ⟨before, after, rfl, atStart, last, pair⟩)
      · exact ⟨[], c :: rest, rfl, fun _ => atStart, by simp, pair⟩
      · refine ⟨c :: before, after, rfl, by simp, ?_, pair⟩
        cases before with
        | nil => simpa using atStart rfl
        | cons b before => simpa [List.getLast?_cons_cons] using last
    · rintro ⟨before, after, split, atStart, last, pair⟩
      cases before with
      | nil => exact .inl ⟨atStart rfl, by simpa [split] using pair⟩
      | cons b before =>
        obtain ⟨rfl, rfl⟩ : c = b ∧ rest = before ++ after := by simpa using split
        refine .inr ⟨before, after, rfl, ?_, ?_, pair⟩
        · rintro rfl
          simpa using last
        · cases before with
          | nil => simp
          | cons b before => simpa [List.getLast?_cons_cons] using last

/-- The check of a line finds exactly the pairs of digit runs at the start of a word. -/
theorem corrupt_true_iff {cs : List Char} : corrupt true cs = true ↔ Corrupted cs := by
  simp [corrupt_iff, Corrupted]

/-- A line that ends in blanks and a digit run is cut into the name and the flag. -/
theorem entry_of_flag {name gap run : List Char} (nonempty : name ≠ [])
    (last : ∀ c ∈ name.getLast?, isBlank c = false) (hgap : IsGap gap) (hrun : IsDigitRun run) :
    entry (name ++ gap ++ run) = (name, some run) := by
  have behind : ∀ c ∈ (gap.reverse ++ name.reverse).head?, isDigit c = false := by
    intro c hc
    rw [List.head?_append_of_ne_nil _ (by simpa using hgap.1)] at hc
    exact isDigit_of_isBlank (hgap.2 c (List.mem_reverse.1 (List.mem_of_mem_head? hc)))
  have digits : ∀ c ∈ run.reverse, isDigit c = true := by simpa using hrun.2
  have blanks : ∀ c ∈ gap.reverse, isBlank c = true := by simpa using hgap.2
  have nameEnd : ∀ c ∈ name.reverse.head?, isBlank c = false := by simpa using last
  have flag := scan_append isDigit digits behind
  have cut := scan_append isBlank blanks nameEnd
  simp [entry, flag.1, flag.2, cut.2, hrun.1, nonempty, hgap.1]

/-- A line that does not end in blanks and a digit run is a name. -/
theorem entry_of_unflagged {line : List Char} (h : ¬EndsInFlag line) :
    entry line = (line, none) := by
  simp only [entry]
  generalize hflag : line.reverse.takeWhile isDigit = flag
  generalize hfront : line.reverse.dropWhile isDigit = front
  refine if_pos (by_contra fun flagged => h ?_)
  simp only [Bool.or_eq_true, List.isEmpty_iff, decide_eq_true_eq, not_or] at flagged
  obtain ⟨⟨hasRun, -⟩, shorter⟩ := flagged
  refine ⟨(front.dropWhile isBlank).reverse, (front.takeWhile isBlank).reverse, flag.reverse, ?_,
    ⟨fun noGap => ?_, ?_⟩, by simpa using hasRun, ?_⟩
  · rw [← List.reverse_append, ← List.reverse_append, List.takeWhile_append_dropWhile, ← hflag,
      ← hfront, List.takeWhile_append_dropWhile, List.reverse_reverse]
  · refine shorter ?_
    conv_rhs => rw [← List.takeWhile_append_dropWhile (p := isBlank) (l := front),
      List.reverse_eq_nil_iff.1 noGap]
    rfl
  · exact fun c hc => List.mem_takeWhile_imp (List.mem_reverse.1 hc)
  · exact fun c hc => List.mem_takeWhile_imp (hflag ▸ List.mem_reverse.1 hc)

/-- The name of a line that ends in a flag is what is left in front of all the blanks. -/
theorem EndsInFlag.exists_name {line : List Char} (h : EndsInFlag line) (trimmed : Trimmed line) :
    ∃ name gap run, line = name ++ gap ++ run ∧ name ≠ [] ∧
      (∀ c ∈ name.getLast?, isBlank c = false) ∧ IsGap gap ∧ IsDigitRun run := by
  obtain ⟨front, gap, run, rfl, ⟨gapNe, blanks⟩, hrun⟩ := h
  refine ⟨trimEnd front, front.rtakeWhile isBlank ++ gap, run, ?_, fun noName => ?_,
    getLast?_trimEnd front, ⟨by simp [gapNe], fun c hc => ?_⟩, hrun⟩
  · rw [← List.append_assoc]
    exact congrArg (· ++ gap ++ run) List.rdropWhile_append_rtakeWhile.symm
  · -- a line without a name would start with a blank
    have front_blank : ∀ c ∈ front, isBlank c = true := List.rdropWhile_eq_nil_iff.1 noName
    obtain ⟨c, rest, hc⟩ :=
      List.exists_cons_of_ne_nil (List.append_ne_nil_of_right_ne_nil front gapNe)
    have first : isBlank c = false := trimmed.1 c (by rw [hc]; rfl)
    rcases List.mem_append.1 (hc ▸ List.mem_cons_self : c ∈ front ++ gap) with mem | mem
    · simp [front_blank c mem] at first
    · simp [blanks c mem] at first
  · rcases List.mem_append.1 hc with hc | hc
    · exact List.mem_rtakeWhile_imp hc
    · exact blanks c hc

/-- How a line is read. If it ends in blanks and a digit run, the digit run is the flag and what
stands in front of all the blanks is the name. Any other line is a name as a whole. -/
inductive Reads : List Char → List Char → Option (List Char) → Prop
  | flagged {name gap run : List Char} (nonempty : name ≠ [])
      (last : ∀ c ∈ name.getLast?, isBlank c = false)
      (hgap : IsGap gap) (hrun : IsDigitRun run) : Reads (name ++ gap ++ run) name (some run)
  | whole {line : List Char} (nonempty : line ≠ []) (unflagged : ¬EndsInFlag line) :
    Reads line line none

/-- Every line that is not blank can be read. -/
theorem exists_reads {line : List Char} (trimmed : Trimmed line) (nonempty : line ≠ []) :
    ∃ name flag, Reads line name flag := by
  by_cases flagged : EndsInFlag line
  · obtain ⟨name, gap, run, rfl, nameNe, last, hgap, hrun⟩ := flagged.exists_name trimmed
    exact ⟨name, some run, .flagged nameNe last hgap hrun⟩
  · exact ⟨line, none, .whole nonempty flagged⟩

/-- A line that gives a name is not empty. -/
theorem Reads.ne_nil {line name : List Char} {flag : Option (List Char)}
    (h : Reads line name flag) : line ≠ [] := by
  cases h with
  | flagged nonempty => simp [nonempty]
  | whole nonempty => exact nonempty

/-- The scan of a line finds the entry as which it is read. -/
theorem Reads.entry_eq {line name : List Char} {flag : Option (List Char)}
    (h : Reads line name flag) :
    entry line = (name, flag) := by
  cases h with
  | flagged nonempty last hgap hrun => exact entry_of_flag nonempty last hgap hrun
  | whole _ unflagged => exact entry_of_unflagged unflagged

/-- Two runs of digits with a gap between them begin a pair. -/
theorem beginsPair_of_runs {run gap next : List Char} (hrun : IsDigitRun run) (hgap : IsGap gap)
    (hnext : IsDigitRun next) : BeginsPair (run ++ gap ++ next) := by
  obtain ⟨digit, after, rfl⟩ := List.exists_cons_of_ne_nil hnext.1
  exact ⟨run, gap, digit, after, rfl, hrun, hgap, hnext.2 digit List.mem_cons_self⟩

/-- Characters that are corrupted stay so with more behind them. -/
theorem Corrupted.append {cs : List Char} (h : Corrupted cs) (more : List Char) :
    Corrupted (cs ++ more) := by
  obtain ⟨before, after, rfl, last, run, gap, digit, rest, rfl, pair⟩ := h
  exact ⟨before, run ++ gap ++ digit :: (rest ++ more),
    by simp, last, run, gap, digit, rest ++ more, rfl, pair⟩

/-- Two flags on one line are refused. -/
theorem EndsInFlag.corrupted_append {cs gap next : List Char} (h : EndsInFlag cs) (hgap : IsGap gap)
    (hnext : IsDigitRun next) : Corrupted (cs ++ gap ++ next) := by
  obtain ⟨front, blanks, run, rfl, hblanks, hrun⟩ := h
  refine ⟨front ++ blanks, run ++ gap ++ next,
    by simp, fun b hb => ?_, beginsPair_of_runs hrun hgap hnext⟩
  rw [List.getLast?_append_of_ne_nil _ hblanks.1] at hb
  exact hblanks.2 b (List.mem_of_getLast? hb)

/-- A name that is left when the flag is cut off a line that is not refused. -/
theorem legible_of_flagged {name gap run : List Char} (trimmed : Trimmed (name ++ gap ++ run))
    (oneLine : '\n' ∉ name ++ gap ++ run) (intact : ¬Corrupted (name ++ gap ++ run))
    (nonempty : name ≠ []) (last : ∀ c ∈ name.getLast?, isBlank c = false) (hgap : IsGap gap)
    (hrun : IsDigitRun run) :
    Legible name ∧ ¬IsDigitRun name where
  left := {
    nonempty
    trimmed :=
      trim_eq_self_iff.2 ⟨by simpa [List.head?_append_of_ne_nil _ nonempty] using trimmed.1, last⟩
    oneLine := fun mem => oneLine (by simp [mem])
    intact := fun h => intact (List.append_assoc name gap run ▸ h.append _)
    unflagged := fun h => intact (h.corrupted_append hgap hrun) }
  right := fun h => intact ⟨[], _, rfl, by simp, beginsPair_of_runs h hgap hrun⟩

/-- The flag of an internal type brings no digit pair onto the line of a legible name that is not a
digit run. -/
theorem Legible.intact_flagged {name : List Char} (h : Legible name) (notRun : ¬IsDigitRun name) :
    ¬Corrupted (name ++ [' ', '0']) := by
  rintro ⟨before, _, split, last, run, gap, digit, rest, rfl, hrun, hgap, hdigit⟩
  have peel {front back : List Char} {c d : Char} (eq : front ++ [c] = back ++ [d]) :
      front = back ∧ c = d := by
    simpa using List.append_inj' eq rfl
  -- the pair is told by what stands behind its digit: nothing, the flag, or the blank and the flag
  rcases List.eq_nil_or_concat' rest with rfl | ⟨rest, c, rfl⟩
  · obtain ⟨gap, b, rfl⟩ := (List.eq_nil_or_concat' gap).resolve_left hgap.1
    have outer : name ++ [' '] ++ ['0'] = before ++ run ++ gap ++ [b] ++ [digit] := by
      simpa using split
    have inner : name = before ++ run ++ gap := (peel (peel outer).1).1
    have noGap : gap = [] := by
      rcases List.eq_nil_or_concat' gap with h | ⟨gap, b', rfl⟩
      · exact h
      · have blank : isBlank b' = true := hgap.2 b' (by simp)
        rw [(trim_eq_self_iff.1 h.trimmed).2 b' (by simp [inner])] at blank
        cases blank
    subst noGap
    rcases List.eq_nil_or_concat' before with rfl | ⟨before, b', rfl⟩
    · exact notRun (by simpa [inner] using hrun)
    · refine h.unflagged ⟨before, [b'], run, by simpa using inner, ⟨by simp, ?_⟩, hrun⟩
      simpa using last
  · rcases List.eq_nil_or_concat' rest with rfl | ⟨rest, c', rfl⟩
    · have outer : name ++ [' '] ++ ['0'] = before ++ run ++ gap ++ [digit] ++ [c] := by
        simpa using split
      obtain rfl : ' ' = digit := (peel (peel outer).1).2
      cases hdigit
    · have outer :
          name ++ [' '] ++ ['0'] = before ++ (run ++ gap ++ digit :: rest) ++ [c'] ++ [c] := by
        simpa using split
      have inner : name = before ++ (run ++ gap ++ digit :: rest) := (peel (peel outer).1).1
      exact h.intact ⟨before, _, inner, last, run, gap, digit, rest, rfl, hrun, hgap, hdigit⟩

/-- A legible name with a flag behind it has no blank at an end. -/
theorem Legible.trim_flagged {name : List Char} (h : Legible name) :
    trim (name ++ [' ', '0']) = name ++ [' ', '0'] := by
  have first := (trim_eq_self_iff.1 h.trimmed).1
  exact trim_eq_self_iff.2 ⟨by rwa [List.head?_append_of_ne_nil _ h.nonempty], by simp [isBlank]⟩

end Componentry.Typelist
