import Componentry.Text.Quoted
import Componentry.Yaml.Tag

/-!
# Written scalars

A text is written plainly if it is then read as the same text. Otherwise it stands between single
quotes, where a quote is doubled and a line break is written twice, or between double quotes, where
all but the printable characters of ASCII is escaped. A line that has become longer than eighty
characters is continued on the next, at a blank for which no other blank stands in for.
-/

namespace Componentry.Yaml

open Componentry

/-- How a text is written. -/
inductive Style where
  | plain
  | single
  | double
  deriving Repr, DecidableEq

namespace Style

/-- The length from which a line is continued. -/
def width : Nat := 80

/-- Whether the character is printable ASCII. -/
def isPlainChar (c : Char) : Bool :=
  ' ' ≤ c && c ≤ '~'

/-- Whether the text ends here or goes on with a blank. -/
def beforeBlank : List Char → Bool
  | [] => true
  | c :: _ => c == ' ' || c == '\n'

/-- Whether a text that begins like this is read as something other than a plain text. -/
def indicatesAtStart : List Char → Bool
  | '-' :: '-' :: '-' :: _ => true
  | '.' :: '.' :: '.' :: _ => true
  | c :: rest =>
    "#,[]\x7b\x7d&*!|>\x27\x22%@\x60".toList.contains c ||
      ((c == '?' || c == ':' || c == '-') && beforeBlank rest)
  | [] => false

/-- Whether a plain text would end before some character of the text, given the character before. -/
def indicatesInside (previous : Char) : List Char → Bool
  | [] => false
  | c :: rest =>
    (c == ':' && beforeBlank rest) || (c == '#' && (previous == ' ' || previous == '\n')) ||
      indicatesInside c rest

/-- Whether a blank and a line break stand next to each other in the text. -/
def blankMeetsBreak : List Char → Bool
  | ' ' :: '\n' :: _ => true
  | '\n' :: ' ' :: _ => true
  | _ :: rest => blankMeetsBreak rest
  | [] => false

/-- Whether the text begins or ends with a blank. -/
def hasOuterBlank (cs : List Char) : Bool :=
  cs.head? == some ' ' || cs.getLast? == some ' '

/-- How a text is written. -/
def ofText (cs : List Char) : Style :=
  let quotable := cs.all (fun c => c == '\n' || isPlainChar c) && !blankMeetsBreak cs
  if !quotable then .double
  else if Tag.ofPlain cs = .text && !hasOuterBlank cs && !cs.contains '\n' &&
      !indicatesAtStart cs && !indicatesInside (cs.headD ' ') (cs.drop 1) then .plain
  else .single

/-- A line end and the indentation of the line that follows. -/
def newline (indent : Nat) : List Char :=
  '\n' :: List.replicate indent ' '

/-- A text as it is written plainly, from a column on. `blank` says that a blank was just
written. -/
def writePlain (indent column : Nat) (blank : Bool) : List Char → List Char
  | [] => []
  | c :: rest =>
    if c = ' ' && !blank && rest.head? != some ' ' && width < column then
      newline indent ++ writePlain indent indent true rest
    else c :: writePlain indent (column + 1) (c == ' ') rest

/-- A text as it is written between single quotes, and the quote at its end. `previous` is the
character before. -/
def writeSingle (indent column : Nat) (previous : Option Char) : List Char → List Char
  | [] => ['\x27']
  | c :: rest =>
    if c = '\n' then
      let breaks := if previous = some '\n' then ['\n'] else ['\n', '\n']
      if rest.head? = some '\n' then breaks ++ writeSingle indent 0 (some c) rest
      else breaks ++ List.replicate indent ' ' ++ writeSingle indent indent (some c) rest
    else if c = '\x27' then '\x27' :: '\x27' :: writeSingle indent (column + 2) (some c) rest
    else if c = ' ' && previous.isSome && previous != some ' ' && !rest.isEmpty &&
        rest.head? != some ' ' && width < column then
      newline indent ++ writeSingle indent indent (some c) rest
    else c :: writeSingle indent (column + 1) (some c) rest

/-- The letter that stands for a character after a backslash. -/
def escapeLetter? (c : Char) : Option Char :=
  match c.toNat with
  | 0x00 => some '0'
  | 0x07 => some 'a'
  | 0x08 => some 'b'
  | 0x09 => some 't'
  | 0x0A => some 'n'
  | 0x0B => some 'v'
  | 0x0C => some 'f'
  | 0x0D => some 'r'
  | 0x1B => some 'e'
  | 0x22 => some '\x22'
  | 0x5C => some '\x5c'
  | 0x85 => some 'N'
  | 0xA0 => some '_'
  | 0x2028 => some 'L'
  | 0x2029 => some 'P'
  | _ => none

/-- The escape of a character that cannot stand between double quotes. -/
def escape? (c : Char) : Option (List Char) :=
  if isPlainChar c && c != '\x22' && c != '\x5c' then none
  else
    match escapeLetter? c with
    | some letter => some ['\x5c', letter]
    | none =>
      let digits (width : Nat) : List Char := ((Text.hex width c.toNat).toList.map Char.toUpper)
      if c.toNat < 0x100 then some ('\x5c' :: 'x' :: digits 2)
      else if c.toNat < 0x10000 then some ('\x5c' :: 'u' :: digits 4)
      else some ('\x5c' :: 'U' :: digits 8)

/-- A text as it is written between double quotes, and the quote at its end. `started` says that
something was written, `fresh` that the line begins here or an escape was just written. -/
def writeDouble (indent column : Nat) (started fresh : Bool) : List Char → List Char
  | [] => ['\x22']
  | c :: rest =>
    let foldable := started && !rest.isEmpty
    match escape? c with
    | some escaped =>
      if foldable && width + 1 < column + escaped.length then
        if rest.head? = some ' ' then
          escaped ++ '\x5c' :: newline indent ++ '\x5c' ::
            writeDouble indent (indent + 1) true true rest
        else escaped ++ '\x5c' :: newline indent ++ writeDouble indent indent true true rest
      else escaped ++ writeDouble indent (column + escaped.length) true true rest
    | none =>
      if foldable && (c == ' ' || fresh) && width < column then
        if c = ' ' then
          '\x5c' :: newline indent ++ '\x5c' :: c :: writeDouble indent (indent + 2) true false rest
        else '\x5c' :: newline indent ++ c :: writeDouble indent (indent + 1) true false rest
      else c :: writeDouble indent (column + 1) true false rest

/-- A text as it is written from a column on, its further lines indented. -/
def write (indent column : Nat) (cs : List Char) : List Char :=
  match ofText cs with
  | .plain => writePlain indent column false cs
  | .single => '\x27' :: writeSingle indent (column + 1) none cs
  | .double => '\x22' :: writeDouble indent (column + 1) false true cs

end Style

end Componentry.Yaml
