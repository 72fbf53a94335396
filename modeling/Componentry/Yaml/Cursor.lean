/-!
# Positions in a YAML text

A cursor is the unread part of a text together with the place where it begins. Line breaks are LF,
CR, CR LF, NEL and the two Unicode separators; the first four are read as LF.
-/

namespace Componentry.Yaml

/-- Whether a document may hold the character. -/
def isYamlChar (c : Char) : Bool :=
  let n := c.toNat
  n == 0x09 || n == 0x0A || n == 0x0D || (0x20 ≤ n && n ≤ 0x7E) || n == 0x85 ||
    (0xA0 ≤ n && n ≤ 0xFFFD) || 0x10000 ≤ n

/-- Whether a character breaks a line. -/
def isBreak (c : Char) : Bool :=
  c == '\n' || c == '\r' || c == '\u0085' || c == '\u2028' || c == '\u2029'

/-- The character that `peek` gives at the end of the text; no document may hold it. -/
def endMark : Char := '\x00'

/-- Whether a line ends before the character. -/
def endsLine (c : Char) : Bool :=
  c == endMark || isBreak c

/-- Whether a word ends before the character, if tabs do not end words. -/
def endsWord (c : Char) : Bool :=
  c == ' ' || endsLine c

/-- Whether a word ends before the character. -/
def isSeparator (c : Char) : Bool :=
  c == '\t' || endsWord c

/-- The unread part of a text and its place. -/
structure Cursor where
  rest : List Char
  index : Nat
  line : Nat
  column : Nat

namespace Cursor

/-- The cursor at the start of a text. -/
def start (cs : List Char) : Cursor := ⟨cs, 0, 0, 0⟩

/-- The character `n` places further on. -/
def peek (c : Cursor) (n : Nat) : Char :=
  c.rest.getD n endMark

/-- The next character. -/
def head (c : Cursor) : Char :=
  c.peek 0

/-- The cursor after one character. -/
def next (c : Cursor) : Cursor :=
  match c.rest with
  | [] => c
  | ch :: rest =>
    let breaks := ch == '\n' || ch == '\u0085' || ch == '\u2028' || ch == '\u2029' ||
      (ch == '\r' && rest.head? != some '\n')
    if breaks then ⟨rest, c.index + 1, c.line + 1, 0⟩
    else ⟨rest, c.index + 1, c.line, if ch == '\uFEFF' then c.column else c.column + 1⟩

/-- The cursor after `n` characters. -/
def skip (c : Cursor) : Nat → Cursor
  | 0 => c
  | n + 1 => c.next.skip n

/-- The characters from here on that satisfy a test, and the cursor after them. -/
def span (c : Cursor) (p : Char → Bool) : List Char × Cursor :=
  let taken := c.rest.takeWhile p
  (taken, c.skip taken.length)

/-- The cursor after the characters that satisfy a test. -/
def pass (c : Cursor) (p : Char → Bool) : Cursor :=
  (c.span p).2

/-- The line break that begins here, as it is read, and the cursor after it. -/
def lineBreak? (c : Cursor) : Option (Char × Cursor) :=
  match c.rest with
  | '\r' :: '\n' :: _ => some ('\n', c.skip 2)
  | ch :: _ =>
    if ch == '\n' || ch == '\r' || ch == '\u0085' then some ('\n', c.next)
    else if ch == '\u2028' || ch == '\u2029' then some (ch, c.next)
    else none
  | [] => none

/-- The cursor after the line break that begins here, if one does. -/
def passBreak (c : Cursor) : Cursor :=
  match c.lineBreak? with
  | some (_, next) => next
  | none => c

/-- Whether three equal characters and then a separator begin here. -/
def atMark (c : Cursor) (ch : Char) : Bool :=
  c.peek 0 == ch && c.peek 1 == ch && c.peek 2 == ch && isSeparator (c.peek 3)

/-- Whether a line that separates documents begins here. -/
def atSeparator (c : Cursor) : Bool :=
  c.atMark '-' || c.atMark '.'

end Cursor

end Componentry.Yaml
