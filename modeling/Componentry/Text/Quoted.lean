import Componentry.Text.Printable

/-!
# Quoted text in messages

A message shows a text between single quotes, or between double quotes where the text holds a single
quote and no double quote. The quote in use and the backslash are escaped, and so is every character
that is not printable, by its shortest hexadecimal form of two, four or eight digits.
-/

namespace Componentry.Text

/-- The hexadecimal digits of a number, at least `width` of them. -/
def hex (width n : Nat) : String :=
  let digits := Nat.toDigits 16 n
  String.ofList (List.replicate (width - digits.length) '0' ++ digits)

/-- One character as it stands between the given quotes. -/
def quoteChar (quote c : Char) : String :=
  if c = quote || c = '\x5c' then "\\" ++ c.toString
  else if c = '\n' then "\\n"
  else if c = '\r' then "\\r"
  else if c = '\t' then "\\t"
  else if isPrintable c then c.toString
  else if c.toNat < 0x100 then "\\x" ++ hex 2 c.toNat
  else if c.toNat < 0x10000 then "\\u" ++ hex 4 c.toNat
  else "\\U" ++ hex 8 c.toNat

/-- The quote that surrounds a text. -/
def quoteFor (cs : List Char) : Char :=
  if cs.contains '\x27' && !cs.contains '\x22' then '\x22' else '\x27'

/-- The text as a message shows it. -/
def quoted (text : String) : String :=
  let quote := quoteFor text.toList
  quote.toString ++ String.join (text.toList.map (quoteChar quote)) ++ quote.toString

end Componentry.Text
