import Componentry.Proofs.Ancestry
import Componentry.Proofs.Deliveries
import Componentry.Proofs.KeptTemplates
import Componentry.Proofs.TypelistLines

/-!
# Constructors in user files that are kept

A user file is kept as it was first written, with a constructor that takes a state if the initial
state of the component could be chosen at that time. When the initial state is fixed later, a check
reads the file and looks in each line for the class name in front of a bracket. In the line of the
constructor it is found if it stands at the edge of a word there, which it does exactly if it begins
with a character of a word. This leaves out names that begin with another character, such as a sign
that may begin the name of a class nevertheless.
-/

namespace Componentry

open Files (Path Tree Change)

namespace Text

/-- Whether a text begins with a character of a word. -/
def beginsWord (cs : List Char) : Bool :=
  cs.head?.any isWord

/-- A scan up to a character stops where it stands first. -/
theorem scan_bne {c : Char} {front : List Char} (absent : c ∉ front) (rest : List Char) :
    (front ++ c :: rest).takeWhile (· != c) = front ∧
      (front ++ c :: rest).dropWhile (· != c) = c :: rest := by
  refine scan_append _ (fun d mem => ?_) (by simp)
  rw [bne_iff_ne]
  rintro rfl
  exact absent mem

/-- A character other than a carriage return is kept. -/
theorem unifyNewlines_cons {c : Char} (other : c ≠ '\r') (rest : List Char) :
    unifyNewlines (c :: rest) = c :: unifyNewlines rest := by
  rw [unifyNewlines.eq_def]
  split
  · rename_i same
    cases same
  · rename_i same
    exact absurd (List.cons.inj same).1 other
  · rename_i same
    exact absurd (List.cons.inj same).1 other
  · rename_i same
    rw [(List.cons.inj same).1, (List.cons.inj same).2]

/-- A text without carriage returns stays as it is at the front of another one. -/
theorem unifyNewlines_append {cs : List Char} (free : '\r' ∉ cs) (rest : List Char) :
    unifyNewlines (cs ++ rest) = cs ++ unifyNewlines rest := by
  induction cs with
  | nil => rfl
  | cons c cs ih =>
    rw [List.mem_cons, not_or] at free
    rw [List.cons_append, unifyNewlines_cons (Ne.symm free.1), ih free.2, List.cons_append]

/-- What follows a line end is unified on its own. -/
theorem exists_unifyNewlines_append (cs rest : List Char) :
    ∃ front, unifyNewlines (cs ++ '\n' :: rest) = front ++ '\n' :: unifyNewlines rest := by
  fun_induction unifyNewlines cs with
  | case1 => exact ⟨[], unifyNewlines_cons (by decide) rest⟩
  | case2 cs ih =>
    obtain ⟨front, ih⟩ := ih
    exact ⟨'\n' :: front,
      by rw [List.cons_append, List.cons_append, unifyNewlines, ih, List.cons_append]⟩
  | case3 cs notNewline ih =>
    cases cs with
    -- The carriage return is one line end with the line feed.
    | nil => exact ⟨[], by rw [List.singleton_append, unifyNewlines, List.nil_append]⟩
    | cons c cs =>
      obtain ⟨front, ih⟩ := ih
      refine ⟨'\n' :: front, ?_⟩
      rw [List.cons_append, unifyNewlines, ih, List.cons_append]
      intro rest same
      exact notNewline cs (by rw [(List.cons.inj same).1])
  | case4 c cs _ notReturn ih =>
    obtain ⟨front, ih⟩ := ih
    exact ⟨c :: front, by rw [List.cons_append, unifyNewlines_cons notReturn, ih, List.cons_append]⟩

/-- A character ends the line or belongs to it. -/
theorem linesFrom_cons {c : Char} (other : c ≠ '\r') (current rest : List Char) :
    linesFrom current (c :: rest) =
      if isLineBoundary c then current.reverse :: linesFrom [] rest
        else linesFrom (c :: current) rest := by
  rw [linesFrom.eq_def]
  split
  · rename_i same
    cases same
  · rename_i same
    exact absurd (List.cons.inj same).1 other
  · rename_i same
    rw [(List.cons.inj same).1, (List.cons.inj same).2]

/-- A line is read up to its end. -/
theorem linesFrom_append {cs : List Char} (plain : cs.any isLineBoundary = false)
    (current rest : List Char) :
    linesFrom current (cs ++ '\n' :: rest) = (current.reverse ++ cs) :: linesFrom [] rest := by
  induction cs generalizing current with
  | nil => rw [List.nil_append, linesFrom_cons (by decide), if_pos (by decide), List.append_nil]
  | cons c cs ih =>
    rw [List.any_cons, Bool.or_eq_false_iff] at plain
    have other : c ≠ '\r' := by
      rintro rfl
      exact absurd plain.1 (by decide)
    rw [List.cons_append, linesFrom_cons other, plain.1, if_neg (by simp), ih plain.2,
      List.reverse_cons, List.append_assoc, List.singleton_append]

/-- What follows a line end is read on its own. -/
theorem exists_linesFrom_append {cs : List Char} (free : '\r' ∉ cs) (current rest : List Char) :
    ∃ front, linesFrom current (cs ++ '\n' :: rest) = front ++ linesFrom [] rest := by
  induction cs generalizing current with
  | nil =>
    exact ⟨[current.reverse],
      by rw [List.nil_append, linesFrom_cons (by decide), if_pos (by decide)]; rfl⟩
  | cons c cs ih =>
    rw [List.mem_cons, not_or] at free
    rw [List.cons_append, linesFrom_cons (Ne.symm free.1)]
    split
    · obtain ⟨front, ih⟩ := ih free.2 []
      exact ⟨current.reverse :: front, by rw [ih, List.cons_append]⟩
    · exact ih free.2 (c :: current)

/-- Every line that is written to a file is read from it, if no line end stands in it, whatever
stands in the others. -/
theorem mem_lines_ofLines {written : List String} {line : String} (mem : line ∈ written)
    (plain : line.toList.any isLineBoundary = false) :
    line ∈ lines (unified (Generation.ofLines written)) := by
  have text (l : String) (ls : List String) :
      (Generation.ofLines (l :: ls)).toList =
        l.toList ++ '\n' :: (Generation.ofLines ls).toList := by
    simp [Generation.ofLines]
  suffices read : line.toList ∈ linesFrom [] (unifyNewlines (Generation.ofLines written).toList) by
    rw [lines, unified, String.toList_ofList]
    exact List.mem_map.2 ⟨_, read, String.ofList_toList⟩
  have free : '\r' ∉ line.toList := fun mem => List.any_eq_false.1 plain '\r' mem (by decide)
  induction written with
  | nil => cases mem
  | cons l ls ih =>
    rw [text]
    rcases List.mem_cons.1 mem with rfl | mem
    · rw [unifyNewlines_append free, unifyNewlines_cons (by decide), linesFrom_append plain]
      exact List.mem_cons_self
    -- The first line may hold line ends and end in a carriage return; what is read from it comes
    -- before the others.
    · obtain ⟨front, unify⟩ := exists_unifyNewlines_append l.toList (Generation.ofLines ls).toList
      have kept : '\r' ∉ front := by
        intro mem
        have := notMem_unifyNewlines (l.toList ++ '\n' :: (Generation.ofLines ls).toList)
        rw [unify] at this
        exact this (List.mem_append_left _ mem)
      obtain ⟨before, read⟩ :=
        exists_linesFrom_append kept [] (unifyNewlines (Generation.ofLines ls).toList)
      rw [unify, read]
      exact List.mem_append_right _ (ih mem)

end Text

namespace Validation

variable {name cs front rest arguments : List Char} {c : Char} {inWord : Bool}

/-- The first bracket of a text stands behind the name that is called at its start. -/
theorem not_calls_of_ne (free : '(' ∉ name) (absent : '(' ∉ front) (other : front ≠ name) :
    ¬name ++ ['('] <+: front ++ '(' :: rest := by
  rintro ⟨after, same⟩
  rw [List.append_assoc, List.singleton_append] at same
  have first := (Text.scan_bne absent rest).1
  rw [← same, (Text.scan_bne free after).1] at first
  exact other first.symm

/-- A call that does not begin at a character is looked for behind it. -/
theorem callArguments?_cons {call : List Char} (elsewhere : ¬call <+: c :: rest) :
    callArguments? call inWord (c :: rest) = callArguments? call (Text.isWord c) rest := by
  have other : call.isPrefixOf (c :: rest) = false := by
    rw [Bool.eq_false_iff, ne_eq, List.isPrefixOf_iff_prefix]
    exact elsewhere
  simp [callArguments?, other]

/-- Without brackets nothing is called. -/
theorem callArguments?_of_notMem (absent : '(' ∉ cs) :
    callArguments? (name ++ ['(']) inWord cs = none := by
  induction cs generalizing inWord with
  | nil => rfl
  | cons c cs ih =>
    rw [callArguments?_cons fun called => absent (called.subset (by simp))]
    exact ih fun mem => absent (List.mem_cons_of_mem c mem)

/-- A name is not called where the only bracket is too close for it. -/
theorem callArguments?_of_short (free : '(' ∉ name) (absent : '(' ∉ front)
    (short : front.length < name.length) (last : '(' ∉ rest) :
    callArguments? (name ++ ['(']) inWord (front ++ '(' :: rest) = none := by
  have differ {front : List Char} (short : front.length < name.length) : front ≠ name := by
    rintro rfl
    exact Nat.lt_irrefl _ short
  have elsewhere : ¬name ++ ['('] <+: front ++ '(' :: rest :=
    not_calls_of_ne free absent (differ short)
  induction front generalizing inWord with
  | nil =>
    rw [List.nil_append, callArguments?_cons elsewhere]
    exact callArguments?_of_notMem last
  | cons c front ih =>
    have absent : '(' ∉ front := fun mem => absent (List.mem_cons_of_mem c mem)
    have short : front.length < name.length := Nat.lt_of_succ_lt short
    rw [List.cons_append] at elsewhere ⊢
    rw [callArguments?_cons elsewhere]
    exact ih absent short (not_calls_of_ne free absent (differ short))

/-- A name in front of the first bracket is looked for where it begins. -/
theorem callArguments?_append (free : '(' ∉ name) (absent : '(' ∉ front) (other : c ≠ '(') :
    callArguments? (name ++ ['(']) inWord (front ++ c :: (name ++ '(' :: rest)) =
      callArguments? (name ++ ['(']) (Text.isWord c) (name ++ '(' :: rest) := by
  have ahead {front : List Char} (absent : '(' ∉ front) :
      ¬name ++ ['('] <+: front ++ c :: (name ++ '(' :: rest) := by
    have parts : front ++ c :: (name ++ '(' :: rest) = (front ++ c :: name) ++ '(' :: rest := by
      simp
    rw [parts]
    refine not_calls_of_ne free (by simp [absent, free, Ne.symm other]) fun same => ?_
    have lengths := congrArg List.length same
    rw [List.length_append, List.length_cons] at lengths
    omega
  induction front generalizing inWord with
  | nil => exact callArguments?_cons (ahead absent)
  | cons d front ih =>
    have elsewhere := ahead absent
    rw [List.cons_append] at elsewhere ⊢
    rw [callArguments?_cons elsewhere]
    exact ih fun mem => absent (List.mem_cons_of_mem d mem)

/-- Arguments without a closing bracket behind them are those before the last one. -/
theorem beforeLastBracket?_append (last : ')' ∉ rest) :
    beforeLastBracket? (arguments ++ ')' :: rest) = some arguments := by
  have turned : (arguments ++ ')' :: rest).reverse = rest.reverse ++ ')' :: arguments.reverse := by
    simp
  have absent : ')' ∉ rest.reverse := fun mem => last (List.mem_reverse.1 mem)
  rw [beforeLastBracket?, turned, (Text.scan_bne absent _).2]
  exact congrArg some arguments.reverse_reverse

/-- Behind an edge, a name is called if it begins with a character of a word. -/
theorem callArguments?_of_beginsWord (begins : Text.beginsWord name = true) (last : ')' ∉ rest) :
    callArguments? (name ++ ['(']) false (name ++ '(' :: (arguments ++ ')' :: rest)) =
      some arguments := by
  obtain ⟨c, word, rfl⟩ : ∃ c word, name = c :: word := by
    cases name with
    | nil => cases begins
    | cons c word => exact ⟨c, word, rfl⟩
  have isWord : Text.isWord c = true := begins
  simp [callArguments?, isWord, beforeLastBracket?_append last]

/-- Behind an edge, a name is not called if it begins with another character, or is empty. -/
theorem callArguments?_of_not_beginsWord (begins : Text.beginsWord name = false) (free : '(' ∉ name)
    (last : '(' ∉ rest) : callArguments? (name ++ ['(']) false (name ++ '(' :: rest) = none := by
  have edge (c : Char) (rest call : List Char) (noWord : Text.isWord c = false) :
      callArguments? call false (c :: rest) = callArguments? call false rest := by
    simp [callArguments?, noWord]
  cases name with
  | nil => exact (edge '(' rest _ (by decide)).trans (callArguments?_of_notMem last)
  | cons c word =>
    rw [List.cons_append, List.cons_append, edge _ _ _ begins, ← List.cons_append]
    exact callArguments?_of_short free (fun mem => free (List.mem_cons_of_mem c mem))
      (Nat.lt_succ_self _) last

/-- A text occurs in one that it is a part of. -/
theorem occursIn_append (part before after : List Char) :
    occursIn part (before ++ part ++ after) = true := by
  induction before with
  | nil =>
    cases part with
    | nil => cases after <;> simp [occursIn]
    | cons c part => simp [occursIn]
  | cons c before ih =>
    rw [List.cons_append, List.cons_append, occursIn, ih, Bool.or_true]

/-- A line in which a class name stands in front of the first bracket and behind what belongs to no
word, with a state among the arguments in the brackets. -/
structure StateLine (className line : String) where
  before : List Char
  edge : Char
  passed : List Char
  more : List Char
  after : List Char
  parts : line.toList = before ++ edge ::
    (className.toList ++ '(' :: (passed ++ "TaskCore::TaskState".toList ++ more ++ ')' :: after))
  front : '(' ∉ before ∧ edge ≠ '(' ∧ Text.isWord edge = false
  back : '(' ∉ more ++ after ∧ ')' ∉ after

namespace StateLine

variable {className line : String} (l : StateLine className line)
include l

/-- The state is found if the class name begins with a character of a word. -/
theorem takesState_of_beginsWord (free : '(' ∉ className.toList)
    (begins : Text.beginsWord className.toList = true) :
    takesState className line = true := by
  obtain ⟨absent, other, noWord⟩ := l.front
  rw [takesState, l.parts, callArguments?_append free absent other, noWord,
    callArguments?_of_beginsWord begins l.back.2]
  exact occursIn_append _ l.passed l.more

/-- The state is found exactly if the class name begins with a character of a word, where no more
brackets are opened. -/
theorem takesState_iff (free : '(' ∉ className.toList) (once : '(' ∉ l.passed) :
    takesState className line = true ↔ Text.beginsWord className.toList = true := by
  refine ⟨fun takes => ?_, l.takesState_of_beginsWord free⟩
  -- Behind the edge the name is no word, and no other bracket follows behind which it could be
  -- called.
  by_contra begins
  rw [Bool.not_eq_true] at begins
  obtain ⟨absent, other, noWord⟩ := l.front
  have rest : '(' ∉ l.passed ++ "TaskCore::TaskState".toList ++ l.more ++ ')' :: l.after := by
    have back := l.back.1
    simp only [List.mem_append, List.mem_cons, not_or] at back ⊢
    exact ⟨⟨⟨once, by decide⟩, back.1⟩, by decide, back.2⟩
  rw [takesState, l.parts, callArguments?_append free absent other, noWord,
    callArguments?_of_not_beginsWord begins free rest] at takes
  cases takes

/-- The state is found in a file to which the line is written, whatever else is. -/
theorem any_takesState (free : '(' ∉ className.toList)
    (begins : Text.beginsWord className.toList = true)
    (plain : line.toList.any Text.isLineBoundary = false) {written : List String}
    (mem : line ∈ written) :
    (Text.lines (Text.unified (Generation.ofLines written))).any (takesState className) = true :=
  List.any_eq_true.2 ⟨line, Text.mem_lines_ofLines mem plain,
    l.takesState_of_beginsWord free begins⟩

end StateLine

end Validation

namespace Generation.ComponentView

variable (v : ComponentView)

/-- The line of the header that declares the constructor of the user class. -/
def declarationLine : String :=
  v.userConstructor.declaration v.basename (some v.name)

/-- The line of the source file that opens the definition of the constructor of the user class. -/
def definitionLine : String :=
  s!"{v.basename}::{v.basename}({v.userConstructor.parameters})"

/-- The header of the user holds the line that declares the constructor. -/
theorem exists_userHeader_eq :
    ∃ written, (Page.userHeader v).text = ofLines written ∧ v.declarationLine ∈ written := by
  refine ⟨_, v.spellsConstructors.userHeader, List.mem_append_right _ ?_⟩
  exact List.mem_cons_of_mem _ (List.mem_cons_of_mem _ List.mem_cons_self)

/-- The source of the user holds the line that defines the constructor. -/
theorem exists_userSource_eq :
    ∃ written, (Page.userSource v).text = ofLines written ∧ v.definitionLine ∈ written := by
  refine ⟨_, v.spellsConstructors.userSource, ?_⟩
  exact List.mem_append_left _
    (List.mem_append_left _ (List.mem_append_left _ (List.mem_append_right _ List.mem_cons_self)))

variable {v}

/-- The line of the header has a state where the initial state can be chosen. -/
def stateOfDeclaration (unfixed : v.isFixedInitialState = false) :
    Validation.StateLine v.basename v.declarationLine where
  before := "       ".toList
  edge := ' '
  passed := "std::string const& name = \"".toList ++ v.name.toList ++ "\", ".toList
  more := " initial_state = Stopped".toList
  after := [';']
  parts := by simp [declarationLine, userConstructor, unfixed, Constructor.declaration, toString]
  front := by decide
  back := by decide

/-- The line of the source file has a state where the initial state can be chosen. -/
def stateOfDefinition (unfixed : v.isFixedInitialState = false) (free : '(' ∉ v.basename.toList) :
    Validation.StateLine v.basename v.definitionLine where
  before := v.basename.toList ++ [':']
  edge := ':'
  passed := "std::string const& name, ".toList
  more := " initial_state".toList
  after := []
  parts := by simp [definitionLine, userConstructor, unfixed, Constructor.parameters, toString]
  front := ⟨by simp [free], by decide⟩
  back := by decide

/-- The line that declares the constructor has no break in it if the names have none. -/
theorem plain_declarationLine (unfixed : v.isFixedInitialState = false)
    (basename : v.basename.toList.any Text.isLineBoundary = false)
    (name : v.name.toList.any Text.isLineBoundary = false) :
    v.declarationLine.toList.any Text.isLineBoundary = false := by
  have parts : v.declarationLine.toList = "        ".toList ++ v.basename.toList ++
      "(std::string const& name = \"".toList ++ v.name.toList ++
      "\", TaskCore::TaskState initial_state = Stopped);".toList := by
    simp [declarationLine, userConstructor, unfixed, Constructor.declaration, toString]
  rw [parts, List.any_append, List.any_append, List.any_append, List.any_append, basename, name]
  decide

/-- The line that defines the constructor has no break in it if the names have none. -/
theorem plain_definitionLine (unfixed : v.isFixedInitialState = false)
    (basename : v.basename.toList.any Text.isLineBoundary = false) :
    v.definitionLine.toList.any Text.isLineBoundary = false := by
  have parts : v.definitionLine.toList = v.basename.toList ++ "::".toList ++ v.basename.toList ++
      "(std::string const& name, TaskCore::TaskState initial_state)".toList := by
    simp [definitionLine, userConstructor, unfixed, Constructor.parameters, toString]
  rw [parts, List.any_append, List.any_append, List.any_append, basename]
  decide

end Generation.ComponentView

namespace Validation

variable {s : Store} {c : ComponentId} {path : Path} {text : String}

/-- The check of a file that has a text. -/
theorem constructorWarnings_of_has (has : s.files.Has path text) : constructorWarnings c path s =
    .ok (if s.lineage.isFixedInitialState c &&
      (Text.lines (Text.unified text)).any (takesState (s.interface c).basename)
      then [stateWarning (s.interface c).basename path] else []) s := by
  obtain ⟨f, holds⟩ := has
  have room : s.files.Opens path f := .found holds.noNul holds.place (by simp [holds.entry])
  have onFiles {α : Type} {x : Change α} {a : α} (run : x s.files = .ok a s.files) :
      Work.onFiles x s = .ok a s := by
    rw [Work.onFiles, run]
  have isFile : Change.isFile path s.files = .ok true s.files := by
    rw [Change.isFile_of_opens room, holds.entry]; rfl
  rw [constructorWarnings, bind_of_ok (by rfl)]
  cases fixed : s.lineage.isFixedInitialState c with
  | false => rfl
  | true =>
    rw [if_neg (by simp), bind_of_ok (onFiles isFile), if_neg (by simp),
      bind_of_ok (onFiles (Change.readText_of_opens room holds.entry)), Bool.true_and]
    rfl

end Validation

/-- Whether the components that are declared in a state are declared in another one under the same
names. -/
structure Store.NamesKept (s t : Store) : Prop where
  made : s.components.items.length ≤ t.components.items.length
  names : ∀ c : ComponentId, c.index < s.components.items.length →
    (t.interface c).name = (s.interface c).name

namespace Store.NamesKept

variable {s t u : Store}

/-- Names are kept where components are. -/
theorem of_components (same : t.components = s.components) : s.NamesKept t where
  made := Nat.le_of_eq (congrArg (·.items.length) same.symm)
  names c _ := by rw [Store.interface, Store.component, same]; rfl

/-- Names that are kept twice are kept. -/
theorem trans (h : s.NamesKept t) (h' : t.NamesKept u) : s.NamesKept u where
  made := h.made.trans h'.made
  names c made := (h'.names c (made.trans_le h.made)).trans (h.names c made)

/-- A change of a component that keeps its name keeps all names. -/
theorem modify {d : ComponentId} {f : Component → Component}
    (components : t.components = s.components.modify d f)
    (kept : ∀ k, (f k).interface.name = k.interface.name) : s.NamesKept t where
  made := by
    rw [components]
    exact Nat.le_of_eq (List.length_modify ..).symm
  names c _ := by
    rw [Store.interface, Store.component, components]
    exact Components.apply_modify (·.interface.name) kept s.components d c

/-- Every step of a run keeps the names of components. -/
theorem of_evolved (step : Evolved s t) : s.NamesKept t where
  made := step.components_length
  names _ made := (step.interface_lasts made).name

/-- Names are kept along steps. -/
theorem of_evolves (steps : Evolves s t) : s.NamesKept t := by
  induction steps with
  | refl => exact of_components rfl
  | tail _ step ih => exact ih.trans (of_evolved step)

/-- Every step of a session keeps the names of components: a generation declares none, and no edit
of files does. -/
theorem of_act (settled : Declares.typing.holds s) (act : Act) : s.NamesKept (act.run.after s) := by
  cases act with
  | call c => exact of_evolves (c.covers_run.after settled).2
  | generate p area links renderer =>
    have kept :=
      p.generating_generate area links renderer settled trivial (Files.permits_unbounded _)
    exact of_components
      (Work.after_of_ends (ends_map.2 (kept.mono (fun _ _ h => h.2.2) fun _ _ h => h.2.2)))
  | edit files => exact of_components rfl

/-- Names are kept along a session. -/
theorem of_runAll (settled : Declares.typing.holds s) (acts : List Act) :
    s.NamesKept (Act.runAll acts s) := by
  induction acts generalizing s with
  | nil => exact of_components rfl
  | cons act acts ih => exact (of_act settled act).trans (ih (Act.settled_runAll settled [act]))

end Store.NamesKept

namespace Interface

/-- What stands before the colons is part of the whole. -/
theorem beforeColons_subset (cs : List Char) : beforeColons cs ⊆ cs := by
  fun_induction beforeColons cs with
  | case1 => exact List.nil_subset _
  | case2 c cs _ ih => exact List.cons_subset_cons c ih
  | case3 => exact List.Subset.refl []

/-- The characters of a basename are those of the name. -/
theorem subset_basename (i : Interface) : i.basename.toList ⊆ i.name.toList := by
  intro c mem
  rw [basename, basenameOf, String.toList_ofList, List.mem_reverse] at mem
  exact List.mem_reverse.1 (beforeColons_subset _ mem)

end Interface

namespace ComponentId

variable {a c : ComponentId} {s t : Store}

/-- Whether a declaration of a component that fixes its initial state leads from one state to
another one. -/
def Fixes (a : ComponentId) (s t : Store) : Prop :=
  a.fixInitialState s = .ok ⟨⟩ t ∨ a.needConfiguration s = .ok ⟨⟩ t

/-- A declaration that fixes the initial state changes the interface of its component, but not the
name. -/
theorem Fixes.exists_eq (h : a.Fixes s t) : ∃ f : Interface → Interface,
    (∀ i, (f i).name = i.name ∧ ((f i).fixesInitialState || (f i).needsConfiguration) = true) ∧
      t = { s with components := s.components.modify a fun k =>
          { k with interface := f k.interface } } := by
  have declared (f : Interface → Interface) : Ends (do a.checkMutable; Work.modifyInterface a f) s
      (fun _ t => t = { s with components := s.components.modify a fun k =>
          { k with interface := f k.interface } })
      fun _ _ => True := by
    refine ends_bind.2 ((a.ends_checkMutable s).mono ?_ fun _ _ _ => trivial)
    rintro - _ ⟨rfl, -⟩
    exact rfl
  rcases h with fixes | needs
  · exact ⟨({ · with fixesInitialState := true }), fun _ => ⟨rfl, rfl⟩, (declared _).of_ok fixes⟩
  · exact ⟨({ · with needsConfiguration := true }), fun _ => ⟨rfl, Bool.or_true _⟩,
      (declared _).of_ok needs⟩

/-- A component whose initial state is fixed by one of its ancestors, or by itself, has a fixed
initial state. -/
theorem Fixes.isFixedInitialState (h : a.Fixes s t) (made : c.index < s.components.items.length)
    (mem : a ∈ c :: s.lineage.ancestors c) : t.lineage.isFixedInitialState c = true := by
  have known : a.index < s.components.items.length := by
    rcases List.mem_cons.1 mem with rfl | mem
    · exact made
    · exact (Lineage.lt_of_mem_ancestors mem).1.trans made
  obtain ⟨f, fixes, rfl⟩ := h.exists_eq
  rw [Lineage.isFixedInitialState, Lineage.any_chainInterfaces, List.any_eq_true]
  refine ⟨a, ?_, ?_⟩
  · rwa [Store.lineage, Components.ancestors_modify]
  · rw [Store.lineage, Components.interface_lineage, Components.get_modify, if_pos ⟨rfl, known⟩]
    exact (fixes _).2

end ComponentId

namespace Validation

/-- What the checks of the two user files of a component give. -/
def ChecksGive (s : Store) (c : ComponentId) (header source : Path)
    (warnings : Path → List String) : Prop :=
  constructorWarnings c header s = .ok (warnings header) s ∧
    constructorWarnings c source s = .ok (warnings source) s

/-- The two user files of a component are the skeletons that show a view of it. -/
structure Skeletons (v : Generation.ComponentView) (t : Tree) (header source : Path) : Prop where
  header : t.Has header (Generation.Page.userHeader v).text
  source : t.Has source (Generation.Page.userSource v).text

section Skeletons

variable {s : Store} {c : ComponentId} {v : Generation.ComponentView} {header source : Path}

/-- The skeletons of a component with an initial state that is not fixed give no warnings. -/
theorem checksGive_of_unfixed (files : Skeletons v s.files header source)
    (unfixed : s.lineage.isFixedInitialState c = false) :
    ChecksGive s c header source fun _ => [] := by
  rw [ChecksGive, constructorWarnings_of_has files.header, constructorWarnings_of_has files.source,
    unfixed]
  exact ⟨rfl, rfl⟩

/-- The lines of the constructors are found in both files if the class name begins with a character
of a word. -/
theorem checksGive_of_fixed (files : Skeletons v s.files header source)
    (unfixed : v.isFixedInitialState = false) (named : (s.interface c).basename = v.basename)
    (free : '(' ∉ v.basename.toList)
    (plainBasename : v.basename.toList.any Text.isLineBoundary = false)
    (plainName : v.name.toList.any Text.isLineBoundary = false)
    (begins : Text.beginsWord v.basename.toList = true)
    (fixed : s.lineage.isFixedInitialState c = true) :
    ChecksGive s c header source fun path => [stateWarning v.basename path] := by
  obtain ⟨declared, sameHeader, declaration⟩ := v.exists_userHeader_eq
  obtain ⟨defined, sameSource, definition⟩ := v.exists_userSource_eq
  have inHeader := (v.stateOfDeclaration unfixed).any_takesState free begins
    (Generation.ComponentView.plain_declarationLine unfixed plainBasename plainName) declaration
  have inSource := (v.stateOfDefinition unfixed free).any_takesState free begins
    (Generation.ComponentView.plain_definitionLine unfixed plainBasename) definition
  rw [ChecksGive, constructorWarnings_of_has files.header, constructorWarnings_of_has files.source,
    fixed, named, sameHeader, inHeader, sameSource, inSource]
  exact ⟨rfl, rfl⟩

end Skeletons

/-- What becomes of the check of the user files of a component, given a view of the component that
they show. -/
structure Checked (s : Store) (c : ComponentId) (v : Generation.ComponentView)
    (header source : Path) : Prop where
  /-- Nothing is reported as long as the initial state can be chosen. -/
  silent : s.lineage.isFixedInitialState c = false → ChecksGive s c header source fun _ => []
  /-- Each file is reported once when the initial state is fixed. -/
  reported : Text.beginsWord v.basename.toList = true → s.lineage.isFixedInitialState c = true →
    ChecksGive s c header source fun path => [stateWarning v.basename path]

/-- The skeletons of a component give a warning each once the initial state is fixed. -/
theorem checked_of_skeletons {s : Store} {c : ComponentId} {v : Generation.ComponentView}
    {header source : Path} (files : Skeletons v s.files header source)
    (unfixed : v.isFixedInitialState = false) (named : (s.interface c).basename = v.basename)
    (free : '(' ∉ v.basename.toList)
    (plainBasename : v.basename.toList.any Text.isLineBoundary = false)
    (plainName : v.name.toList.any Text.isLineBoundary = false) : Checked s c v header source where
  silent := checksGive_of_unfixed files
  reported := checksGive_of_fixed files unfixed named free plainBasename plainName

/-- At any time of a session, let the user files of a component be the skeletons that show it as it
was at an earlier time, when its initial state could be chosen. The check of each file gives no
warning until the initial state of the component is fixed by a declaration of the component or of
one of its ancestors, and then exactly one, if the class name begins with a character of a word. The
lines of the constructors are found exactly in this case. -/
theorem staleConstructors_reported (files : Tree) (packageMaps : List PackageMap)
    (acts more : List Act) (c : ComponentId) (base : Generation.BaseClass)
    (user : Generation.UserClass) (header source : Path) :
    let start := Act.runAll acts { files, packageMaps }
    let s := Act.runAll more start
    let v := Generation.componentView start c base user
    c.index < start.components.items.length → v.isFixedInitialState = false →
      '(' ∉ v.basename.toList →
    v.name.toList.any Text.isLineBoundary = false → Skeletons v s.files header source →
      Checked s c v header source ∧
      (s.lineage.isFixedInitialState c = true ↔ ∃ a ∈ c :: s.lineage.ancestors c,
        (s.lineage.interface a).fixesInitialState = true ∨
        (s.lineage.interface a).needsConfiguration = true) ∧
      (∀ a ∈ c :: s.lineage.ancestors c, ∀ t, a.Fixes s t →
        t.lineage.isFixedInitialState c = true ∧ Checked t c v header source) ∧
      (takesState v.basename v.definitionLine = true ↔ Text.beginsWord v.basename.toList = true) ∧
      ('(' ∉ v.name.toList →
        (takesState v.basename v.declarationLine = true ↔
          Text.beginsWord v.basename.toList = true)) := by
  intro start s v made unfixed free plain skeletons
  have settled : Declares.typing.holds start := Act.settled_runAll (settled_of_empty rfl) acts
  have kept : start.NamesKept s := .of_runAll settled more
  have basename {t : Store} (names : start.NamesKept t) :
      (t.interface c).basename = v.basename := by
    rw [Interface.basename, names.names c made]
    rfl
  have plainBasename : v.basename.toList.any Text.isLineBoundary = false :=
    List.any_eq_false.2 fun ch mem =>
      List.any_eq_false.1 plain ch ((start.interface c).subset_basename mem)
  refine ⟨checked_of_skeletons skeletons unfixed (basename kept) free plainBasename plain, ?_,
    ?_, ?_, ?_⟩
  · simp [Lineage.isFixedInitialState, Lineage.any_chainInterfaces]
  · intro a mem t fixes
    have fixed := fixes.isFixedInitialState (made.trans_le kept.made) mem
    obtain ⟨f, same, declared⟩ := fixes.exists_eq
    have names : s.NamesKept t :=
      .modify (congrArg Store.components declared) fun k => (same k.interface).1
    have there : Skeletons v t.files header source := by rwa [declared]
    exact ⟨fixed, checked_of_skeletons there unfixed
      (basename (kept.trans names)) free plainBasename plain⟩
  · exact (v.stateOfDefinition unfixed free).takesState_iff free
      (show '(' ∉ "std::string const& name, ".toList by decide)
  · intro nameFree
    refine (v.stateOfDeclaration unfixed).takesState_iff free fun mem => ?_
    rcases List.mem_append.1 mem with mem | mem
    · exact (List.mem_append.1 mem).elim (by decide) nameFree
    · exact absurd mem (by decide)

/-- Two components are declared, the second of which derives from the first one. The name of the
first one begins with the sign for an elliptic function, which is no character of a word. -/
def signedBase : List Act :=
  [.call (.newProject "app" ⟨"/", ["w"]⟩ ⟨0⟩ none none),
    .call (.declare (.declareComponent ⟨0⟩ "℘" .framework none)),
    .call (.declare (.declareComponent ⟨0⟩ "B" (.given ⟨0⟩) none))]

/-- How the components are shown that have no members. -/
def signedView (c : ComponentId) : Generation.ComponentView :=
  Generation.componentView (Act.runAll signedBase {}) c
    ⟨[], [], [], [], [], [], [], [], [], [], [], []⟩ ⟨[], []⟩

/-- The skeletons of both components. -/
def signedSkeletons : Tree where
  entries := [(["w"], .directory),
    (["w", "℘.hpp"], .file (Generation.Page.userHeader (signedView ⟨0⟩)).text.toUTF8),
    (["w", "℘.cpp"], .file (Generation.Page.userSource (signedView ⟨0⟩)).text.toUTF8),
    (["w", "B.hpp"], .file (Generation.Page.userHeader (signedView ⟨1⟩)).text.toUTF8),
    (["w", "B.cpp"], .file (Generation.Page.userSource (signedView ⟨1⟩)).text.toUTF8)]

/-- When the initial state of the first component is fixed, the files of the second one are
reported. In those of the first one, the lines of the constructors are not found. -/
theorem staleConstructors_reported_signedBase :
    let s := Act.runAll [.call (.declare (.fixInitialState ⟨0⟩)), .edit signedSkeletons]
      (Act.runAll signedBase {})
    s.lineage.isFixedInitialState ⟨0⟩ = true ∧
      ChecksGive s ⟨1⟩ ⟨"/", ["w", "B.hpp"]⟩ ⟨"/",
        ["w", "B.cpp"]⟩ (fun path => [stateWarning "B" path]) ∧
      takesState "℘" (signedView ⟨0⟩).definitionLine = false ∧
      takesState "℘" (signedView ⟨0⟩).declarationLine = false := by
  intro s
  have derives : (Act.runAll signedBase {}).lineage.superclass? ⟨1⟩ = some ⟨0⟩ := by decide +kernel
  have first : (Act.runAll signedBase {}).lineage.superclass? ⟨0⟩ = none := by decide +kernel
  have others : ∀ c ∈ [(⟨0⟩ : ComponentId), ⟨1⟩],
      ((Act.runAll signedBase {}).lineage.interface c).fixesInitialState = false ∧
      ((Act.runAll signedBase {}).lineage.interface c).needsConfiguration =
        false := by decide +kernel
  have unfixed : (signedView ⟨0⟩).isFixedInitialState = false ∧
      (signedView ⟨1⟩).isFixedInitialState = false := by
    simp [signedView, Generation.componentView, Lineage.isFixedInitialState,
      Lineage.chainInterfaces_of_superclass derives, Lineage.chainInterfaces_of_none first, others]
  have has {name text : String} (fine : name ≠ ".." ∧ name.utf8ByteSize ≤ Tree.longestName ∧
      (⟨"/", ["w", name]⟩ : Path).hasNul = false)
      (here : s.files.get? ["w", name] = some (.file text.toUTF8)) :
        s.files.Has ⟨"/", ["w", name]⟩ text := by
    refine ⟨["w", name], fine.2.2, Tree.Walks.walk (.down (by decide) (by decide) rfl ?_), here⟩
    exact .last _ fine.1 fine.2.1 (by simp [here]) fun _ => by simp [Tree.linkAt, here]
  have signed : Skeletons (signedView ⟨0⟩) s.files ⟨"/", ["w", "℘.hpp"]⟩ ⟨"/", ["w", "℘.cpp"]⟩ :=
    ⟨has (by decide) rfl, has (by decide) rfl⟩
  have derived : Skeletons (signedView ⟨1⟩) s.files ⟨"/", ["w", "B.hpp"]⟩ ⟨"/", ["w", "B.cpp"]⟩ :=
    ⟨has (by decide) rfl, has (by decide) rfl⟩
  have fixes : (s.lineage.interface ⟨0⟩).fixesInitialState = true := by decide +kernel
  obtain ⟨-, fixedSigned, -, definition, declaration⟩ :=
    staleConstructors_reported {} [] signedBase _ ⟨0⟩ _ _ _ _
    (by decide +kernel) unfixed.1 (by decide +kernel) (by decide +kernel) signed
  obtain ⟨checked, fixedDerived, -⟩ := staleConstructors_reported {} [] signedBase _ ⟨1⟩ _ _ _ _
    (by decide +kernel) unfixed.2 (by decide +kernel) (by decide +kernel) derived
  have ancestor : s.lineage.superclass? ⟨1⟩ = some ⟨0⟩ := by decide +kernel
  have inherits : ⟨0⟩ ∈ s.lineage.ancestors ⟨1⟩ := by
    rw [Lineage.ancestors_of_superclass ancestor]
    exact List.mem_cons_self
  have signs : Text.beginsWord (signedView ⟨0⟩).basename.toList = false := by decide +kernel
  have named : (signedView ⟨0⟩).basename = "℘" := by decide +kernel
  refine ⟨fixedSigned.2 ⟨⟨0⟩, List.mem_cons_self, .inl fixes⟩, ?_, ?_, ?_⟩
  · exact checked.reported (by decide +kernel)
      (fixedDerived.2 ⟨⟨0⟩, List.mem_cons_of_mem _ inherits, .inl fixes⟩)
  · rw [← named]
    exact Bool.eq_false_iff.2 fun takes => Bool.eq_false_iff.1 signs (definition.1 takes)
  · rw [← named]
    exact Bool.eq_false_iff.2 fun takes =>
      Bool.eq_false_iff.1 signs ((declaration (by decide +kernel)).1 takes)

end Validation

end Componentry
