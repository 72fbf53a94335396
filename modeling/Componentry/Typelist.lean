import Componentry.Fault
import Componentry.NameSet
import Componentry.Text.Blank
import Componentry.Text.Digit
import Componentry.Text.Lines

/-!
# Typelists

A typelist names the types that a typekit exports, one on a line. A name may hold blanks. A line may
end in blanks and a digit run, the flag: the flag `0` marks a type for internal use, and every other
line names an interface type. A line is refused if a digit run that starts it, or follows a blank,
is followed by blanks and a digit.
-/

namespace Componentry

open Componentry.Text

/-- The types that a typekit exports, and those of them that interfaces may use. -/
structure Typelist where
  exported : NameSet
  interface : NameSet
  deriving DecidableEq

namespace Typelist

/-- The typelist without names. -/
def empty : Typelist := ⟨.empty, .empty⟩

/-- Whether a digit run, blanks and a digit stand one after the other in the characters. -/
def startsDigitPair (cs : List Char) : Bool :=
  match cs.dropWhile isDigit with
  | [] => false
  | c :: rest =>
    isBlank c && match rest.dropWhile isBlank with
      | [] => false
      | d :: _ => isDigit d

/-- Whether some digit run at the start of the line or after a blank is followed by blanks and a
digit. The first argument tells that the characters start the line or follow a blank. -/
def corrupt (free : Bool) : List Char → Bool
  | [] => false
  | c :: rest => free && isDigit c && startsDigitPair (c :: rest) || corrupt (isBlank c) rest

/-- The name on a line and its flag. The line has no blanks at its ends. -/
def entry (line : List Char) : List Char × Option (List Char) :=
  let back := line.reverse
  let flag := back.takeWhile isDigit
  let front := back.dropWhile isDigit
  let name := front.dropWhile isBlank
  if flag.isEmpty || name.isEmpty || name.length = front.length then (line, none)
  else (name.reverse, some flag.reverse)

/-- The typelist with the entry of one more line. -/
def addLine (list : Typelist) (line : List Char) : Except Fault Typelist :=
  let line := trim line
  if line.isEmpty then .ok list
  else if corrupt true line then .error (.typelistLine (String.ofList line))
  else
    let (name, flag) := entry line
    let name := String.ofList name
    .ok ⟨list.exported.insert name,
      if flag = some ['0'] then list.interface else list.interface.insert name⟩

/-- The typelist that a text describes. -/
def parse (text : String) : Except Fault Typelist :=
  (splitAt '\n' text.toList).foldlM addLine empty

/-- The line of a name. -/
def line (interface : NameSet) (name : String) : String :=
  if name ∈ interface then name else name ++ " 0"

/-- The text of a typelist, its names in increasing order. -/
def serialize (list : Typelist) : Except Fault String :=
  if list.interface.subset list.exported then
    .ok (String.join (list.exported.toList.map fun name => line list.interface name ++ "\n"))
  else .error .interfaceOutsideExports

end Typelist

end Componentry
