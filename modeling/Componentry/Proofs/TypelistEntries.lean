import Componentry.Proofs.TypelistText

/-!
# Entries of a typelist

A text is refused as a typelist if one of its lines has a digit pair, and the first such line is
told. Otherwise each line that is not blank is read as one entry: of all the ways to divide it into
a name and a flag, the one with the shortest name. The typelist holds the names of all entries,
whatever their order and number. So the lines of two texts give together what the texts give alone.
-/

namespace Componentry

namespace Typelist

open Componentry.Text

/-- The lines of a text, without the blanks at their ends. -/
def linesOf (text : String) : List (List Char) :=
  (splitAt '\n' text.toList).map trim

/-- The ways to divide a line into a name, which does not start with a blank, and a flag, if there
is one. -/
inductive Divides : List Char → List Char → Option (List Char) → Prop
  | name {name : List Char} (nonempty : name ≠ []) (first : ∀ c ∈ name.head?, isBlank c = false) :
    Divides name name none
  | flagged {name gap run : List Char} (nonempty : name ≠ [])
      (first : ∀ c ∈ name.head?, isBlank c = false)
      (hgap : IsGap gap) (hrun : IsDigitRun run) : Divides (name ++ gap ++ run) name (some run)

/-- The types that two typelists export together. -/
def union (a b : Typelist) : Typelist :=
  ⟨a.exported.union b.exported, a.interface.union b.interface⟩

/-- Whether a typelist is what lines say: none of them has a digit pair, and the names as which they
are read are those of the typelist, where only the flag `0` keeps a name from interfaces. -/
structure DescribedBy (list : Typelist) (lines : List (List Char)) : Prop where
  intact : ∀ line ∈ lines, ¬Corrupted line
  exported : ∀ name, name ∈ list.exported ↔ ∃ line ∈ lines, ∃ flag, Reads line name.toList flag
  interface : ∀ name, name ∈ list.interface ↔
    ∃ line ∈ lines, ∃ flag, Reads line name.toList flag ∧ flag ≠ some ['0']

section Reads

variable {line name : List Char} {flag : Option (List Char)}

/-- A line is read by one of the ways to divide it. -/
theorem Reads.divides (h : Reads line name flag) (trimmed : Trimmed line) :
    Divides line name flag := by
  cases h with
  | flagged nonempty _ hgap hrun =>
    exact .flagged nonempty (by simpa [List.head?_append_of_ne_nil _ nonempty] using trimmed.1)
      hgap hrun
  | whole nonempty => exact .name nonempty trimmed.1

/-- No other way to divide the line has a shorter name. -/
theorem Reads.shortest (h : Reads line name flag) {name' : List Char} {flag' : Option (List Char)}
    (other : Divides line name' flag') : name.length ≤ name'.length := by
  cases other with
  | name =>
    cases h with
    | flagged => simp
    | whole => exact Nat.le_refl _
  | @flagged _ gap' run' _ _ hgap' hrun' =>
    generalize hline : name' ++ gap' ++ run' = line at h
    cases h with
    | whole _ unflagged => exact absurd ⟨name', gap', run', hline.symm, hgap', hrun'⟩ unflagged
    | @flagged _ gap run _ last hgap hrun =>
      by_contra shorter
      -- a shorter name leaves the end of the name, which is no blank, in front of the blanks and
      -- digits of the line
      obtain ⟨rest, rfl, behind⟩ :
          ∃ rest, name = name' ++ rest ∧ gap' ++ run' = rest ++ (gap ++ run) := by
        rw [List.append_assoc, List.append_assoc] at hline
        rcases List.append_eq_append_iff.1 hline with ⟨rest, rfl, behind⟩ | ⟨rest, rfl, -⟩
        · exact ⟨rest, rfl, behind⟩
        · simp at shorter
      have present : rest ≠ [] := by
        rintro rfl
        simp at shorter
      rw [List.getLast?_append_of_ne_nil _ present] at last
      obtain ⟨front, c, rfl⟩ := (List.eq_nil_or_concat' rest).resolve_left present
      have notBlank : isBlank c = false := last c (by simp)
      obtain ⟨b, gap, rfl⟩ := List.exists_cons_of_ne_nil hgap.1
      have blank : isBlank b = true := hgap.2 b List.mem_cons_self
      rcases List.append_eq_append_iff.1 behind with ⟨digits, -, rfl⟩ | ⟨blanks, rfl, -⟩
      · have digit : isDigit b = true := hrun'.2 b (by simp)
        rw [isDigit_of_isBlank blank] at digit
        cases digit
      · rw [hgap'.2 c (by simp)] at notBlank
        cases notBlank

end Reads

section Runs

variable {lines : List (List Char)}

/-- A line without a digit pair adds the name as which it is read, if it is not blank. -/
theorem addLine_step (start : Typelist) {line : List Char} (intact : ¬Corrupted (trim line)) :
    ∃ next, start.addLine line = .ok next ∧
      (∀ name, name ∈ next.exported ↔
        name ∈ start.exported ∨ ∃ flag, Reads (trim line) name.toList flag) ∧
      ∀ name, name ∈ next.interface ↔
        name ∈ start.interface ∨ ∃ flag, Reads (trim line) name.toList flag ∧
          flag ≠ some ['0'] := by
  by_cases blank : trim line = []
  · have unread (name : List Char) (flag : Option (List Char)) : ¬Reads (trim line) name flag :=
      fun h => h.ne_nil blank
    exact ⟨start, addLine_of_blank blank, by simp [unread], by simp [unread]⟩
  · obtain ⟨name, flag, reads⟩ := exists_reads (trimmed_trim line) blank
    have only (other : String) (flag' : Option (List Char)) :
        Reads (trim line) other.toList flag' ↔ other = String.ofList name ∧ flag' = flag := by
      refine ⟨fun h => ?_, ?_⟩
      · obtain ⟨same, rfl⟩ := Prod.mk.inj (h.entry_eq.symm.trans reads.entry_eq)
        exact ⟨by rw [← same, String.ofList_toList], rfl⟩
      · rintro ⟨rfl, rfl⟩
        rwa [String.toList_ofList]
    refine ⟨_, addLine_of_reads intact reads, fun other => ?_, fun other => ?_⟩
    · simp [withName, NameSet.mem_insert, only, or_comm]
    · by_cases internal : flag = some ['0']
      · simp [withName, only, internal]
      · simp [withName, NameSet.mem_insert, only, internal, or_comm]

/-- Lines without a digit pair add the names as which they are read. -/
theorem addLines_intact (start : Typelist) (intact : ∀ line ∈ lines.map trim, ¬Corrupted line) :
    ∃ list, lines.foldlM addLine start = .ok list ∧
      (∀ name, name ∈ list.exported ↔
        name ∈ start.exported ∨ ∃ line ∈ lines.map trim, ∃ flag, Reads line name.toList flag) ∧
      ∀ name, name ∈ list.interface ↔
        name ∈ start.interface ∨ ∃ line ∈ lines.map trim, ∃ flag, Reads line name.toList flag ∧
          flag ≠ some ['0'] := by
  induction lines generalizing start with
  | nil => exact ⟨start, rfl, by simp, by simp⟩
  | cons line lines ih =>
    obtain ⟨next, step, exported, interface⟩ := addLine_step start (intact _ List.mem_cons_self)
    obtain ⟨list, run, exported', interface'⟩ :=
      ih next fun l mem => intact l (List.mem_cons_of_mem _ mem)
    refine ⟨list, ?_, fun name => ?_, fun name => ?_⟩
    · rw [List.foldlM_cons, step]
      exact run
    · simp [exported', exported, or_assoc]
    · simp [interface', interface, or_assoc]

/-- The first line with a digit pair ends the reading. -/
theorem addLines_corrupted (start : Typelist) {before after : List (List Char)} {line : List Char}
    (split : lines.map trim = before ++ line :: after) (intact : ∀ l ∈ before, ¬Corrupted l)
    (corrupted : Corrupted line) :
    lines.foldlM addLine start = .error (.typelistLine (String.ofList line)) := by
  obtain ⟨front, back, rfl, rfl, hback⟩ := List.map_eq_append_iff.1 split
  obtain ⟨raw, rest, rfl, rfl, -⟩ := List.map_eq_cons_iff.1 hback
  obtain ⟨list, run, -⟩ := addLines_intact start intact
  rw [List.foldlM_append, run]
  change (raw :: rest).foldlM addLine list = _
  rw [List.foldlM_cons, addLine_of_corrupted corrupted]
  rfl

/-- Of some lines with digit pairs one comes first. -/
theorem exists_first_corrupted (h : ∃ line ∈ lines, Corrupted line) :
    ∃ before line after, lines = before ++ line :: after ∧ (∀ l ∈ before, ¬Corrupted l) ∧
      Corrupted line := by
  obtain ⟨line, mem, corrupted⟩ := h
  obtain ⟨first, found⟩ := Option.isSome_iff_exists.1
    (List.find?_isSome (p := corrupt true) |>.2 ⟨line, mem, corrupt_true_iff.2 corrupted⟩)
  obtain ⟨here, before, after, rfl, intact⟩ := List.find?_eq_some_iff_append.1 found
  refine ⟨before, first, after, rfl, fun l hl => ?_, corrupt_true_iff.1 here⟩
  exact corrupt_true_iff.not.1 (by simpa using intact l hl)

end Runs

/-- A typelist is told by the lines that describe it. -/
theorem DescribedBy.unique {a b : Typelist} {lines : List (List Char)} (ha : a.DescribedBy lines)
    (hb : b.DescribedBy lines) : a = b := by
  have exported : a.exported = b.exported :=
    NameSet.ext fun name => (ha.exported name).trans (hb.exported name).symm
  have interface : a.interface = b.interface :=
    NameSet.ext fun name => (ha.interface name).trans (hb.interface name).symm
  cases a
  cases b
  congr

section Parse

variable {text : String} {list : Typelist}

/-- A text without corrupted lines is read line by line. -/
theorem exists_parse (intact : ∀ line ∈ linesOf text, ¬Corrupted line) :
    ∃ list, parse text = .ok list ∧ list.DescribedBy (linesOf text) := by
  obtain ⟨list, run, exported, interface⟩ := addLines_intact empty intact
  refine ⟨list, run, intact, fun name => ?_, fun name => ?_⟩
  · exact (exported name).trans (or_iff_right NameSet.notMem_empty)
  · exact (interface name).trans (or_iff_right NameSet.notMem_empty)

/-- A text is refused for its first line with a digit pair, if it has one. -/
theorem parse_eq_error_iff {fault : Fault} :
    parse text = .error fault ↔ ∃ before line after, linesOf text = before ++ line :: after ∧
      (∀ l ∈ before, ¬Corrupted l) ∧ Corrupted line ∧
      fault = .typelistLine (String.ofList line) := by
  constructor
  · intro refused
    obtain ⟨before, line, after, split, intact, corrupted⟩ : ∃ before line after,
        linesOf text = before ++ line :: after ∧ (∀ l ∈ before, ¬Corrupted l) ∧ Corrupted line := by
      refine exists_first_corrupted (by_contra fun none => ?_)
      have intact : ∀ line ∈ linesOf text, ¬Corrupted line := by simpa using none
      obtain ⟨list, read, -⟩ := exists_parse intact
      rw [read] at refused
      cases refused
    refine ⟨before, line, after, split, intact, corrupted, ?_⟩
    exact Except.error.inj (refused.symm.trans (addLines_corrupted empty split intact corrupted))
  · rintro ⟨before, line, after, split, intact, corrupted, rfl⟩
    exact addLines_corrupted empty split intact corrupted

/-- A text is read as the typelist that its lines describe. -/
theorem parse_eq_ok_iff : parse text = .ok list ↔ list.DescribedBy (linesOf text) := by
  constructor
  · intro read
    have intact : ∀ line ∈ linesOf text, ¬Corrupted line := by
      by_contra some
      obtain ⟨before, line, after, split, intact, corrupted⟩ :=
        exists_first_corrupted (by simpa using some)
      have refused := parse_eq_error_iff.2 ⟨before, line, after, split, intact, corrupted, rfl⟩
      rw [read] at refused
      cases refused
    obtain ⟨list', read', h⟩ := exists_parse intact
    rwa [Except.ok.inj (read.symm.trans read')]
  · intro h
    obtain ⟨list', read, h'⟩ := exists_parse h.intact
    rw [read, h'.unique h]

end Parse

/-- The lines of two texts that are joined by a line end are those of the first and those of the
second. -/
theorem linesOf_append (a b : String) : linesOf (a ++ "\n" ++ b) = linesOf a ++ linesOf b := by
  have pieces :
      splitAt '\n' (a ++ "\n" ++ b).toList = splitAt '\n' a.toList ++ splitAt '\n' b.toList := by
    rw [← splitAt_append_cons]
    simp
  rw [linesOf, pieces, List.map_append, linesOf, linesOf]

/-- Two texts that are joined by a line end are read as the union of what each of them is read
as. -/
theorem parse_append {a b : String} {list : Typelist} :
    parse (a ++ "\n" ++ b) = .ok list ↔ ∃ first second, parse a = .ok first ∧ parse b = .ok second ∧
      list = first.union second := by
  have together {first second : Typelist} (ha : first.DescribedBy (linesOf a))
      (hb : second.DescribedBy (linesOf b)) :
      (first.union second).DescribedBy (linesOf (a ++ "\n" ++ b)) := by
    rw [linesOf_append]
    refine ⟨List.forall_mem_append.2 ⟨ha.intact, hb.intact⟩, fun name => ?_, fun name => ?_⟩
    · simp only [union, NameSet.mem_union, ha.exported, hb.exported, List.mem_append, or_and_right,
        exists_or]
    · simp only [union, NameSet.mem_union, ha.interface, hb.interface, List.mem_append,
        or_and_right, exists_or]
  constructor
  · intro read
    have described := parse_eq_ok_iff.1 read
    obtain ⟨intactA, intactB⟩ := List.forall_mem_append.1 (linesOf_append a b ▸ described.intact)
    obtain ⟨first, readA, ha⟩ := exists_parse intactA
    obtain ⟨second, readB, hb⟩ := exists_parse intactB
    exact ⟨first, second, readA, readB, described.unique (together ha hb)⟩
  · rintro ⟨first, second, readA, readB, rfl⟩
    exact parse_eq_ok_iff.2 (together (parse_eq_ok_iff.1 readA) (parse_eq_ok_iff.1 readB))

/-- Only the set of lines matters. -/
theorem DescribedBy.congr {list : Typelist} {lines lines' : List (List Char)}
    (same : ∀ line, line ∈ lines ↔ line ∈ lines') (h : list.DescribedBy lines) :
    list.DescribedBy lines' where
  intact line mem := h.intact line ((same line).2 mem)
  exported name := by simp only [h.exported, same]
  interface name := by simp only [h.interface, same]

/-- A text is refused exactly for its first line with a digit pair. Otherwise its typelist is the
one that its lines describe: each line that is not blank is read in one way, which is that of all
ways to divide it that has the shortest name. So two texts joined by a line end give the union of
what they give alone, or are refused if one of them is, and two texts with the same lines in any
order and number give the same. -/
theorem parse_linewise :
    (∀ text fault, parse text = .error fault ↔
      ∃ before line after, linesOf text = before ++ line :: after ∧
      (∀ l ∈ before, ¬Corrupted l) ∧ Corrupted line ∧ fault = .typelistLine (String.ofList line)) ∧
    (∀ text list, parse text = .ok list ↔ list.DescribedBy (linesOf text)) ∧
    (∀ text, ∀ line ∈ linesOf text, line ≠ [] → ∃ name flag,
      (∀ name' flag', Reads line name' flag' ↔ name' = name ∧ flag' = flag) ∧
      Divides line name flag ∧
        ∀ name' flag', Divides line name' flag' → name.length ≤ name'.length) ∧
    (∀ a b list, parse (a ++ "\n" ++ b) = .ok list ↔
      ∃ first second, parse a = .ok first ∧ parse b = .ok second ∧ list = first.union second) ∧
    ∀ a b, (∀ line, line ∈ linesOf a ↔ line ∈ linesOf b) → ∀ list, parse a = .ok list ↔
      parse b = .ok list := by
  refine ⟨fun _ _ => parse_eq_error_iff, fun _ _ => parse_eq_ok_iff,
    fun text line mem nonempty => ?_, fun _ _ _ => parse_append, fun a b same list => ?_⟩
  · obtain ⟨raw, -, rfl⟩ := List.mem_map.1 mem
    have trimmed : Trimmed (trim raw) := trimmed_trim raw
    obtain ⟨name, flag, reads⟩ := exists_reads trimmed nonempty
    refine ⟨name, flag, fun name' flag' => ⟨fun h => ?_, ?_⟩, reads.divides trimmed,
      fun _ _ => reads.shortest⟩
    · exact Prod.mk.inj (h.entry_eq.symm.trans reads.entry_eq)
    · rintro ⟨rfl, rfl⟩
      exact reads
  · rw [parse_eq_ok_iff, parse_eq_ok_iff]
    exact ⟨.congr same, .congr fun line => (same line).symm⟩

/-- Two texts with entries in another order, other blanks and an entry that is repeated. -/
theorem parse_linewise_repeated :
    let line := ['/', 'c', 'h', 'a', 'r', '[', '8', ']', ' ', '0']
    let first := "/double\n/char[8] 0"
    let second := "/char[8] 0\n\n /double\t1 \n/double"
    let list : Typelist := ⟨.ofList ["/double", "/char[8]"], .ofList ["/double"]⟩
    line ∈ linesOf first ∧ line ≠ [] ∧
      (∃ name flag, Reads line name flag ∧ Divides line name flag) ∧
    (∀ line, line ∈ linesOf (first ++ "\n" ++ second) ↔ line ∈ linesOf (second ++ "\n" ++ first)) ∧
    parse (first ++ "\n" ++ second) = .ok list ∧ parse (second ++ "\n" ++ first) = .ok list := by
  intro line first second list
  have present : line ∈ linesOf first := by decide +kernel
  have nonempty : line ≠ [] := by decide
  obtain ⟨name, flag, reads, divides, -⟩ := parse_linewise.2.2.1 first line present nonempty
  have same (line : List Char) : line ∈ linesOf (first ++ "\n" ++ second) ↔
      line ∈ linesOf (second ++ "\n" ++ first) := by
    simp only [linesOf_append, List.mem_append, or_comm]
  have readFirst : parse first = .ok list := by decide +kernel
  have readSecond : parse second = .ok list := by decide +kernel
  have joined : parse (first ++ "\n" ++ second) = .ok list :=
    (parse_linewise.2.2.2.1 first second list).2
      ⟨list, list, readFirst, readSecond, by decide +kernel⟩
  exact ⟨present, nonempty, ⟨name, flag, (reads name flag).2 ⟨rfl, rfl⟩, divides⟩, same, joined,
    (parse_linewise.2.2.2.2 _ _ same list).1 joined⟩

end Typelist

end Componentry
