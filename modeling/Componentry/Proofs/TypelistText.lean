import Componentry.Proofs.TypelistLines
import Mathlib.Data.List.Sort

/-!
# Reading typelists back

The writer gives every exported name a line of its own, with the flag `0` for an internal type, and
the reader takes it back exactly if the names are legible and no internal one is a digit run. The
reader itself leaves no other names, so that everything it accepts is read back from what is written
for it.
-/

namespace Componentry

namespace NameSet

/-- Two sets with the same names are one set. -/
theorem ext {s t : NameSet} (h : ∀ x, x ∈ s ↔ x ∈ t) : s = t := by
  have : s.toList = t.toList := s.increasing.eq_of_mem_iff t.increasing h
  cases s
  cases t
  cases this
  rfl

end NameSet

namespace Typelist

open Componentry.Text

/-- A name of which the typelist can tell the reader whether interfaces may use it. -/
def Writable (list : Typelist) (name : String) : Prop :=
  Legible name.toList ∧ (name ∉ list.interface → ¬IsDigitRun name.toList)

/-- The typelist with one more name, which interfaces may use or not. -/
def withName (list : Typelist) (name : String) (visible : Bool) : Typelist :=
  ⟨list.exported.insert name, if visible then list.interface.insert name else list.interface⟩

section Lines

variable {list : Typelist} {line name : List Char} {flag : Option (List Char)}

/-- A blank line adds nothing. -/
theorem addLine_of_blank (blank : trim line = []) : list.addLine line = .ok list := by
  simp [addLine, blank]

/-- A line with a digit pair is refused, in its own words. -/
theorem addLine_of_corrupted (corrupted : Corrupted (trim line)) :
    list.addLine line = .error (.typelistLine (String.ofList (trim line))) := by
  have nonempty : trim line ≠ [] := by
    intro blank
    obtain ⟨before, after, split, -, run, gap, digit, rest, rfl, -⟩ := corrupted
    simp [blank] at split
  simp [addLine, nonempty, corrupt_true_iff.2 corrupted]

/-- Any other line that can be read adds one name, for internal use if its flag is `0`. -/
theorem addLine_of_reads (intact : ¬Corrupted (trim line)) (h : Reads (trim line) name flag) :
    list.addLine line = .ok (list.withName (String.ofList name) (flag ≠ some ['0'])) := by
  have scan : corrupt true (trim line) = false := by simpa using corrupt_true_iff.not.2 intact
  by_cases internal :
    flag = some ['0'] <;> simp [addLine, withName, h.ne_nil, scan, h.entry_eq, internal]

/-- The name as which a line is read is legible, and is no digit run if there is a flag behind
it. -/
theorem legible_of_reads (trimmed : Trimmed line) (oneLine : '\n' ∉ line) (intact : ¬Corrupted line)
    (h : Reads line name flag) : Legible name ∧ (flag ≠ none → ¬IsDigitRun name) := by
  cases h with
  | flagged nonempty last hgap hrun =>
    obtain ⟨legible, notRun⟩ := legible_of_flagged trimmed oneLine intact nonempty last hgap hrun
    exact ⟨legible, fun _ => notRun⟩
  | whole nonempty unflagged =>
    exact ⟨⟨nonempty, trim_eq_self_iff.2 trimmed, oneLine, intact, unflagged⟩,
      fun none => absurd rfl none⟩

/-- What the reader makes of a line: nothing, or one more name that can be written again. -/
theorem withName_of_addLine {list' : Typelist} (oneLine : '\n' ∉ line)
    (h : list.addLine line = .ok list') :
    list' = list ∨ ∃ name visible, list' = list.withName name visible ∧ Legible name.toList ∧
      (visible = false → ¬IsDigitRun name.toList) := by
  have trimmed : Trimmed (trim line) := trimmed_trim line
  by_cases blank : trim line = []
  · rw [addLine_of_blank blank] at h
    exact .inl (Except.ok.inj h).symm
  by_cases corrupted : Corrupted (trim line)
  · rw [addLine_of_corrupted corrupted] at h
    cases h
  · obtain ⟨name, flag, reads⟩ := exists_reads trimmed blank
    rw [addLine_of_reads corrupted reads] at h
    obtain ⟨legible, internal⟩ :=
      legible_of_reads trimmed (fun mem => oneLine (mem_of_mem_trim mem)) corrupted reads
    refine .inr ⟨_, _, (Except.ok.inj h).symm, by simpa using legible, fun hidden => ?_⟩
    obtain rfl : flag = some ['0'] := by simpa using hidden
    simpa using internal nofun

end Lines

/-- A name stays writable when another one is added. -/
theorem Writable.withName {list : Typelist} {added name : String} {visible : Bool}
    (h : list.Writable name) :
    (list.withName added visible).Writable name := by
  refine ⟨h.1, fun internal => h.2 fun mem => internal ?_⟩
  cases visible with
  | false => exact mem
  | true => exact NameSet.mem_insert.2 (.inr mem)

/-- All that is known of a typelist that was read. -/
structure Read (list : Typelist) : Prop where
  interface : ∀ n ∈ list.interface, n ∈ list.exported
  writable : ∀ n ∈ list.exported, list.Writable n

/-- The empty typelist can be read. -/
theorem Read.empty : Read empty where
  interface _ mem := absurd mem NameSet.notMem_empty
  writable _ mem := absurd mem NameSet.notMem_empty

/-- A typelist that was read stays so when a legible name is added. -/
theorem Read.withName {list : Typelist} (h : list.Read) {name : String} {visible : Bool}
    (legible : Legible name.toList) (internal : visible = false → ¬IsDigitRun name.toList) :
    (list.withName name visible).Read where
  interface n mem := by
    refine NameSet.mem_insert.2 ?_
    cases visible with
    | false => exact .inr (h.interface n mem)
    | true => exact (NameSet.mem_insert.1 mem).imp_right (h.interface n)
  writable n mem := by
    rcases NameSet.mem_insert.1 mem with rfl | mem
    · refine ⟨legible, fun notVisible => internal ?_⟩
      cases visible with
      | false => rfl
      | true => exact absurd (NameSet.mem_insert.2 (.inl rfl)) notVisible
    · exact (h.writable n mem).withName

/-- A typelist that was read stays so when lines are added. -/
theorem Read.addLines {list list' : Typelist} {lines : List (List Char)} (h : list.Read)
    (oneLine : ∀ l ∈ lines, '\n' ∉ l) (run : lines.foldlM addLine list = .ok list') :
    list'.Read := by
  induction lines generalizing list with
  | nil => exact Except.ok.inj run ▸ h
  | cons line lines ih =>
    obtain ⟨next, step, rest⟩ :
        ∃ next, list.addLine line = .ok next ∧ lines.foldlM addLine next = .ok list' := by
      rw [List.foldlM_cons] at run
      cases step : list.addLine line with
      | error e => rw [step] at run; cases run
      | ok next => exact ⟨next, rfl, by rwa [step] at run⟩
    have read : next.Read := by
      rcases withName_of_addLine (oneLine line List.mem_cons_self) step with
        rfl | ⟨name, visible, rfl, legible, internal⟩
      · exact h
      · exact h.withName legible internal
    exact ih read (fun l mem => oneLine l (List.mem_cons_of_mem _ mem)) rest

/-- A text leaves nothing in its typelist that cannot be written. -/
theorem read_of_parse {text : String} {list : Typelist} (h : parse text = .ok list) : list.Read :=
  Read.empty.addLines (fun _ mem => notMem_of_mem_splitAt mem) h

/-- The reader takes the line of a writable name back. -/
theorem addLine_line {start list : Typelist} {name : String} (h : list.Writable name) :
    start.addLine (line list.interface name).toList =
      .ok (start.withName name (decide (name ∈ list.interface))) := by
  obtain ⟨legible, internal⟩ := h
  by_cases visible : name ∈ list.interface
  · have scan : corrupt true name.toList = false := by
      simpa using corrupt_true_iff.not.2 legible.intact
    simp [line, visible, addLine, legible.trimmed, legible.nonempty, scan,
      entry_of_unflagged legible.unflagged, withName]
  · have last := (trim_eq_self_iff.1 legible.trimmed).2
    have flagged := legible.trim_flagged
    have scan : corrupt true (name.toList ++ [' ', '0']) = false := by
      simpa using corrupt_true_iff.not.2 (legible.intact_flagged (internal visible))
    have gap : IsGap [' '] := ⟨by simp, List.forall_mem_singleton.2 rfl⟩
    have zero : IsDigitRun ['0'] := ⟨by simp, List.forall_mem_singleton.2 rfl⟩
    have cut : entry (name.toList ++ [' ', '0']) = (name.toList, some ['0']) := by
      simpa using entry_of_flag legible.nonempty last gap zero
    simp [line, visible, addLine, flagged, scan, cut, withName]

/-- The names that come with their lines. -/
theorem addLines_lines (start : Typelist) {list : Typelist} {names : List String}
    (h : ∀ n ∈ names, list.Writable n) :
    ∃ result, (names.map fun n => (line list.interface n).toList).foldlM addLine start =
      .ok result ∧ (∀ x, x ∈ result.exported ↔ x ∈ start.exported ∨ x ∈ names) ∧
        ∀ x, x ∈ result.interface ↔ x ∈ start.interface ∨ x ∈ names ∧ x ∈ list.interface := by
  induction names generalizing start with
  | nil => exact ⟨start, rfl, by simp, by simp⟩
  | cons name names ih =>
    obtain ⟨result, run, exported, interface⟩ :=
      ih (start.withName name (decide (name ∈ list.interface)))
      fun n mem => h n (List.mem_cons_of_mem _ mem)
    refine ⟨result, ?_, fun x => ?_, fun x => ?_⟩
    · rw [List.map_cons, List.foldlM_cons, addLine_line (h name List.mem_cons_self)]
      exact run
    · rw [exported, withName, NameSet.mem_insert, List.mem_cons]
      tauto
    · rw [interface, withName]
      by_cases visible : name ∈ list.interface
      · simp only [visible, decide_true, if_true, NameSet.mem_insert, List.mem_cons]
        grind
      · simp only [visible, decide_false, Bool.false_eq_true, if_false, List.mem_cons]
        grind

/-- Lines that end in breaks are split into the lines and an empty one. -/
theorem splitAt_lines {lines : List (List Char)} (h : ∀ l ∈ lines, '\n' ∉ l) :
    splitAt '\n' (lines.flatMap fun l => l ++ ['\n']) = lines ++ [[]] := by
  induction lines with
  | nil => rfl
  | cons line lines ih =>
    rw [List.flatMap_cons, List.append_assoc, List.singleton_append,
      splitAt_append (h line List.mem_cons_self), ih fun l mem => h l (List.mem_cons_of_mem _ mem),
      List.cons_append]

/-- A typelist that exports its interface types is written name by name. -/
theorem serialize_of_subset {list : Typelist} (h : ∀ n ∈ list.interface, n ∈ list.exported) :
    list.serialize =
      .ok (String.join (list.exported.toList.map fun n => line list.interface n ++ "\n")) :=
  if_pos (NameSet.subset_iff.2 h)

/-- A name that is writable is written on one line. -/
theorem Writable.oneLine {list : Typelist} {name : String} (h : list.Writable name) :
    '\n' ∉ (line list.interface name).toList := by
  by_cases visible : name ∈ list.interface <;> simp [line, visible, h.1.oneLine]

/-- What is written for a typelist of writable names is read as that typelist. -/
theorem parse_of_serialize {list : Typelist} {text : String} (h : list.serialize = .ok text)
    (interface : ∀ n ∈ list.interface, n ∈ list.exported)
    (writable : ∀ n ∈ list.exported, list.Writable n) :
    parse text = .ok list := by
  obtain rfl : text = _ := (Except.ok.inj (serialize_of_subset interface ▸ h)).symm
  obtain ⟨result, run, exported, visible⟩ := addLines_lines empty writable
  obtain rfl : list = result := by
    have same : list.exported = result.exported := NameSet.ext fun x => by simp [exported, empty]
    have sameVisible : list.interface = result.interface := NameSet.ext fun x => by
      simpa [visible, empty] using interface x
    cases list
    cases result
    congr
  have pieces : splitAt '\n'
      (String.join (list.exported.toList.map fun n => line list.interface n ++ "\n")).toList =
      (list.exported.toList.map fun n => (line list.interface n).toList) ++ [[]] := by
    rw [← splitAt_lines, String.toList_join]
    · simp [List.flatMap_map]
    · simpa using fun n mem => (writable n mem).oneLine
  rw [parse, pieces, List.foldlM_append, run]
  rfl

/-- The writer and the reader agree on a typelist exactly if each of its names is legible and no
name that interfaces must not use is a digit run. The reader leaves no other typelist, so what it
accepts is read back from what is written for it. -/
theorem parse_serialize_iff :
    (∀ list : Typelist, (∀ n ∈ list.interface, n ∈ list.exported) →
      ∃ text, list.serialize = .ok text ∧
        (parse text = .ok list ↔ ∀ n ∈ list.exported, list.Writable n)) ∧
      ∀ text list, parse text = .ok list →
        ∃ written, list.serialize = .ok written ∧ parse written = .ok list := by
  constructor
  · intro list interface
    have written := serialize_of_subset interface
    exact ⟨_, written, fun h => (read_of_parse h).writable, parse_of_serialize written interface⟩
  · intro text list h
    have read := read_of_parse h
    have written := serialize_of_subset read.interface
    exact ⟨_, written, parse_of_serialize written read.interface read.writable⟩

/-- A name with blanks and digits among those of an internal type and of one that interfaces may
use. -/
theorem parse_serialize_characters :
    let list : Typelist := ⟨.ofList ["/unsigned char[8]", "/double"], .ofList ["/double"]⟩
    (∀ n ∈ list.interface, n ∈ list.exported) ∧ parse "/double\n/unsigned char[8] 0\n" = .ok list ∧
      (∀ n ∈ list.exported, list.Writable n) ∧ ∃ written, list.serialize = .ok written ∧
      parse written = .ok list := by
  intro list
  have interface : ∀ n ∈ list.interface, n ∈ list.exported := by decide
  have parsed : parse "/double\n/unsigned char[8] 0\n" = .ok list := by rfl
  obtain ⟨text, written, back⟩ := parse_serialize_iff.1 list interface
  obtain ⟨text', written', reread⟩ := parse_serialize_iff.2 _ list parsed
  obtain rfl : text = text' := Except.ok.inj (written.symm.trans written')
  exact ⟨interface, parsed, back.1 reread, text, written, reread⟩

end Typelist

end Componentry
