import Componentry.Text.Digit
import Componentry.Text.Lines
import Componentry.Text.Quoted

/-!
# Options

A word of a command line is an option if it begins with a dash and spells an option of the command.
A long option may be shortened as far as it stays unambiguous, and a value may be glued to it by an
equals sign. Short options may be written in a row. After a word of two dashes no word is an option.
-/

namespace Componentry.CommandLine

/-- What an option asks for. -/
inductive Switch where
  | help
  | verbose
  | projectName
  deriving Repr, DecidableEq

namespace Switch

/-- Whether the option has a value. -/
def takesValue : Switch → Bool
  | .projectName => true
  | .help | .verbose => false

/-- The option as messages name it. -/
def label : Switch → String
  | .help => "-h/--help"
  | .verbose => "-v/--verbose"
  | .projectName => "--name"

end Switch

/-- What a command understands. -/
structure Grammar where
  /-- The words by which the command is called. -/
  program : String
  usage : String
  /-- What is shown below the usage line when help is asked for. -/
  details : String
  /-- The spellings of the options. -/
  options : List (String × Switch)
  deriving Repr

/-- The help on a command, without the last line end. -/
def Grammar.help (g : Grammar) : String :=
  s!"{g.usage}\n\n{g.details}"

/-- Why the reading of a command line ends early. -/
inductive Stop where
  /-- Help on a command is asked for. -/
  | help (asked : Grammar)
  /-- The words do not fit the command. -/
  | misuse (command : Grammar) (report : String)

/-- A value that is glued to an option, by an equals sign or directly. -/
structure Glued where
  byEquals : Bool
  value : List Char
  deriving Repr, DecidableEq

/-- What a word is. -/
inductive Reading where
  /-- The word of two dashes. -/
  | divider
  | plain
  /-- An option by one of its spellings. -/
  | option (spelling : String) (switch : Switch) (glued : Option Glued)
  /-- A word like an option that the grammar does not have. -/
  | unknown
  deriving Repr, DecidableEq

/-- A word of a command line and what it is. -/
structure Word where
  text : String
  reading : Reading
  deriving Repr, DecidableEq

/-- The parts of a word around its first equals sign. -/
def cutAtEquals (word : List Char) : List Char × Option (List Char) :=
  match word.dropWhile (· != '=') with
  | [] => (word, none)
  | _ :: value => (word.takeWhile (· != '='), some value)

/-- A run of decimal digits, which a line end may follow. -/
def isDigitRun (cs : List Char) : Bool :=
  match cs.dropWhile Text.isDigit with
  | [] | ['\n'] => !(cs.takeWhile Text.isDigit).isEmpty
  | _ => false

/-- Whether the characters after a dash make a negative number of it. -/
def isNumber (cs : List Char) : Bool :=
  isDigitRun cs ||
    match cs.dropWhile Text.isDigit with
    | '.' :: rest => isDigitRun rest
    | _ => false

namespace Grammar

/-- The option of exactly this spelling. -/
def option? (g : Grammar) (spelling : List Char) : Option (String × Switch) :=
  g.options.find? fun (known, _) => known.toList == spelling

/-- The options of which a word that is no spelling of an option can be a short form. -/
def candidates (g : Grammar) (word : List Char) : List Reading :=
  match word with
  | '-' :: '-' :: _ =>
    let (front, value) := cutAtEquals word
    (g.options.filter fun (known, _) => front.isPrefixOf known.toList).map fun (known, switch) =>
      .option known switch (value.map (⟨true, ·⟩))
  | '-' :: c :: rest =>
    (g.options.filter fun (known, _) => known.toList == ['-', c]).map fun (known, switch) =>
      .option known switch (some ⟨false, rest⟩)
  | _ => []

/-- The spelling that a reading of a word uses. -/
def spellingOf : Reading → String
  | .option spelling _ _ => spelling
  | _ => ""

/-- What a word is that begins with a dash and is no spelling of an option. -/
def readOther (g : Grammar) (word : String) : Except Stop Reading :=
  let (front, value) := cutAtEquals word.toList
  match value, g.option? front with
  | some value, some (spelling, switch) => .ok (.option spelling switch (some ⟨true, value⟩))
  | _, _ =>
    match g.candidates word.toList with
    | [reading] => .ok reading
    | [] => .ok (if isNumber word.toList.tail || word.toList.contains ' ' then .plain else .unknown)
    | several =>
      let matching := Text.joined ", " (several.map spellingOf)
      .error (.misuse g s!"ambiguous option: {word} could match {matching}")

/-- What a word is that no divider stands before. -/
def read (g : Grammar) (word : String) : Except Stop Reading :=
  match word.toList with
  | ['-', '-'] => .ok .divider
  | ['-'] => .ok .plain
  | '-' :: rest =>
    match g.option? ('-' :: rest) with
    | some (spelling, switch) => .ok (.option spelling switch none)
    | none => g.readOther word
  | _ => .ok .plain

/-- What the words of a command line are. -/
def readAll (g : Grammar) : List String → Except Stop (List Word)
  | [] => .ok []
  | word :: rest => do
    match ← g.read word with
    | .divider => return ⟨word, .divider⟩ :: rest.map (⟨·, .plain⟩)
    | reading => return ⟨word, reading⟩ :: (← g.readAll rest)

/-- The options that a word with a glued value stands for, with the value if the last of them takes
one. What is left of the word is no option. -/
def unglue (g : Grammar) (spelling : String) (switch : Switch) (byEquals : Bool)
    (value : List Char) :
    Except Stop (List Switch × Option String × Option String) :=
  let refused := Stop.misuse g
    (s!"argument {switch.label}: ignored explicit argument " ++ Text.quoted (String.ofList value))
  if switch.takesValue then .ok ([switch], some (String.ofList value), none)
  else
    match value with
    | [] => .error refused
    | c :: rest =>
      if spelling.length ≠ 2 || byEquals || c = '-' then .error refused
      else
        match g.option? ['-', c] with
        | none => .ok ([switch], none, some (String.ofList ('-' :: c :: rest)))
        | some (next, nextSwitch) =>
          match rest with
          | [] => .ok ([switch, nextSwitch], none, none)
          | '=' :: value =>
            (fun (switches, value, left) => (switch :: switches, value, left)) <$>
              g.unglue next nextSwitch true value
          | rest =>
            (fun (switches, value, left) => (switch :: switches, value, left)) <$>
              g.unglue next nextSwitch false rest

end Grammar

/-- What the options of a command line ask for. -/
structure Settings where
  verbose : Bool := false
  projectName : Option String := none
  deriving Repr, DecidableEq

/-- What a word like an option says: the settings after it, whether the next word is its value, and
the word itself if it fits nowhere. -/
structure Progress where
  settings : Settings
  usesNext : Bool := false
  stray : Option String := none

namespace Grammar

/-- The settings with what one more option asks for. -/
def apply (g : Grammar) (value : Option String) (settings : Settings)
    (switch : Switch) : Except Stop Settings :=
  match switch with
  | .help => .error (.help g)
  | .verbose => .ok { settings with verbose := true }
  | .projectName => .ok { settings with projectName := value }

/-- Reads options that stand in one word. If the last one still needs a value, it is the next
word. -/
def readSwitches (g : Grammar) (settings : Settings) (switches : List Switch)
    (value stray : Option String) (next : Option Word) : Except Stop Progress := do
  let needsValue := value.isNone && (switches.getLast?.map (·.takesValue)).getD false
  if needsValue then
    match next with
    | some ⟨text, .plain⟩ => return ⟨← switches.foldlM (g.apply (some text)) settings, true, stray⟩
    | _ => throw (.misuse g s!"argument {Switch.projectName.label}: expected one argument")
  else return ⟨← switches.foldlM (g.apply value) settings, false, stray⟩

/-- Reads a word that is an option, or like one. -/
def readOption (g : Grammar) (settings : Settings) (word : Word)
    (next : Option Word) : Except Stop Progress :=
  match word.reading with
  | .option spelling switch (some glued) => do
    let (switches, value, stray) ← g.unglue spelling switch glued.byEquals glued.value
    g.readSwitches settings switches value stray next
  | .option _ switch none => g.readSwitches settings [switch] none none next
  | _ => .ok { settings, stray := some word.text }

end Grammar

end Componentry.CommandLine
