/-!
# Lines

A text is split at one separator, or at every line boundary that the Unicode standard knows. Reading
a text file turns each of the line ends CR LF, CR and LF into LF.
-/

namespace Componentry.Text

/-- The pieces between the occurrences of a separator, one more than there are separators. -/
def splitAt (separator : Char) : List Char → List (List Char)
  | [] => [[]]
  | c :: rest =>
    if c = separator then [] :: splitAt separator rest
    else
      match splitAt separator rest with
      | [] => [[c]]
      | piece :: pieces => (c :: piece) :: pieces

/-- The pieces of a text between the occurrences of a separator. -/
def split (separator : Char) (text : String) : List String :=
  (splitAt separator text.toList).map String.ofList

/-- Whether a character ends a line. -/
def isLineBoundary (c : Char) : Bool :=
  let n := c.toNat
  (0x0A ≤ n && n ≤ 0x0D) || (0x1C ≤ n && n ≤ 0x1E) || n == 0x85 || n == 0x2028 || n == 0x2029

/-- The lines of a text without their ends; CR LF is one end, and the end of the last line opens no
further line. The first argument holds the current line in reverse order. -/
def linesFrom (current : List Char) : List Char → List (List Char)
  | [] => if current.isEmpty then [] else [current.reverse]
  | '\r' :: '\n' :: rest => current.reverse :: linesFrom [] rest
  | c :: rest =>
    if isLineBoundary c then current.reverse :: linesFrom [] rest
    else linesFrom (c :: current) rest

/-- The lines of a text without their ends. -/
def lines (text : String) : List String :=
  (linesFrom [] text.toList).map String.ofList

/-- Every line end CR LF or CR becomes LF. -/
def unifyNewlines : List Char → List Char
  | [] => []
  | '\r' :: '\n' :: rest => '\n' :: unifyNewlines rest
  | '\r' :: rest => '\n' :: unifyNewlines rest
  | c :: rest => c :: unifyNewlines rest

/-- The text of a file: its bytes must be UTF-8, and its line ends are unified. -/
def ofFile? (bytes : ByteArray) : Option String :=
  (String.fromUTF8? bytes).map fun text => String.ofList (unifyNewlines text.toList)

/-- Texts joined by a separator. -/
def joined (separator : String) (pieces : List String) : String :=
  separator.intercalate pieces

/-- The lines of a text after the first are indented, except the empty ones, and every line end
becomes LF. One line end is added before the text is cut into lines, so that a text that ends a line
keeps that end. -/
def hanging (width : Nat) (text : String) : String :=
  match lines (text ++ "\n") with
  | [] => ""
  | first :: rest =>
    joined "\n" (first :: rest.map
      fun line => if line.isEmpty then line else String.ofList (List.replicate width ' ') ++ line)

/-- Every line of a text that is not empty is indented; lines end at LF only. -/
def indented (width : Nat) (text : String) : String :=
  if width = 0 then text
  else joined "\n" ((split '\n' text).map fun line =>
    if line.isEmpty then line else String.ofList (List.replicate width ' ') ++ line)

end Componentry.Text
