import Componentry.Decimal.Layout
import Componentry.Yaml.Style
import Componentry.Yaml.Value

/-!
# Written documents

The trees that are written as YAML: scalars, lists, and mappings from names. Each entry stands on a
line of its own; the entries of a list are not indented further than the key that the list belongs
to.
-/

namespace Componentry.Yaml

open Componentry

/-- A document that can be written. -/
inductive Tree where
  | text (value : String)
  | bool (value : Bool)
  | int (value : Int)
  | float (value : Float)
  | list (items : List Tree)
  | dict (entries : List (String × Tree))

instance : Inhabited Tree := ⟨.dict []⟩

namespace Tree

/-- The layout of floating point numbers: as elsewhere, but with a point in front of every exponent,
by which they are told from texts. -/
def floatText (x : Float) : String :=
  if x.isNaN then ".nan"
  else if x.isInf then (if x < 0 then "-.inf" else ".inf")
  else
    let cs := (Decimal.Layout.standard.float x).toList
    if cs.contains '.' then String.ofList cs
    else String.ofList (cs.flatMap fun c => if c = 'e' then ['.', '0', 'e'] else [c])

mutual

/-- A tree as it stands after the key or dash at whose end the column is. `indent` is the
indentation of the line of the key, or of what stands behind the dash. -/
def write (indent column : Nat) (afterKey : Bool) (tree : Tree) : List Char :=
  match tree with
  | .text s => ' ' :: Style.write (if afterKey then indent + 2 else indent) (column + 1) s.toList
  | .bool b => if b then " true".toList else " false".toList
  | .int n => ' ' :: (toString n).toList
  | .float x => ' ' :: (floatText x).toList
  | .list [] => " []".toList
  | .dict [] => " \x7b\x7d".toList
  | .list items => if afterKey then writeItems indent items else writeFirstItem indent items
  | .dict entries =>
    if afterKey then writeEntries (indent + 2) entries else ' ' :: writeFirstEntry indent entries
termination_by (sizeOf tree, 0)

/-- The items of a list, each on a new line. -/
def writeItems (indent : Nat) (items : List Tree) : List Char :=
  match items with
  | [] => []
  | item :: rest =>
    Style.newline indent ++ '-' :: write (indent + 2) (indent + 1) false item ++
      writeItems indent rest
termination_by (sizeOf items, 0)

/-- The items of a list, the first on the line that is begun. -/
def writeFirstItem (indent : Nat) (items : List Tree) : List Char :=
  match items with
  | [] => []
  | item :: rest =>
    " -".toList ++ write (indent + 2) (indent + 1) false item ++ writeItems indent rest
termination_by (sizeOf items, 0)

/-- The entries of a mapping, each on a new line. -/
def writeEntries (indent : Nat) (entries : List (String × Tree)) : List Char :=
  match entries with
  | [] => []
  | entry :: rest => Style.newline indent ++ writeEntry indent entry ++ writeEntries indent rest
termination_by (sizeOf entries, 0)

/-- The entries of a mapping, the first on the line that is begun. -/
def writeFirstEntry (indent : Nat) (entries : List (String × Tree)) : List Char :=
  match entries with
  | [] => []
  | entry :: rest => writeEntry indent entry ++ writeEntries indent rest
termination_by (sizeOf entries, 0)

/-- An entry of a mapping. -/
def writeEntry (indent : Nat) (entry : String × Tree) : List Char :=
  match entry with
  | (key, value) =>
    let key := Style.write 0 0 key.toList
    key ++ ':' :: write indent (indent + key.length + 1) true value
termination_by (sizeOf entry, 0)

end

/-- The text of a document whose outermost part is a mapping. -/
def document (entries : List (String × Tree)) : String :=
  match entries with
  | [] => "\x7b\x7d\n"
  | _ => String.ofList (writeFirstEntry 0 entries ++ ['\n'])

mutual

/-- The value that a tree stands for. -/
def value (tree : Tree) : Value :=
  match tree with
  | .text s => .text s
  | .bool b => .bool b
  | .int n => .int n
  | .float x => .float x
  | .list items => .list (values items)
  | .dict entries => .dict (valueEntries entries)

/-- The values that trees stand for. -/
def values (items : List Tree) : List Value :=
  match items with
  | [] => []
  | item :: rest => value item :: values rest

/-- The entries that the entries of a tree stand for. -/
def valueEntries (entries : List (String × Tree)) : List (Value × Value) :=
  match entries with
  | [] => []
  | (key, tree) :: rest => (.text key, value tree) :: valueEntries rest

end

end Tree

end Componentry.Yaml
