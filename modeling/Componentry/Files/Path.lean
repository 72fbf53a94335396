import Componentry.Text.Lines

/-!
# Paths

A path is a root, possibly none, and a list of names. Empty names and single points are dropped when
a path is read; double points stay, as what they mean depends on symbolic links.
-/

namespace Componentry.Files

/-- A path. -/
structure Path where
  /-- The slashes in front: none for a relative path, one, or exactly two. -/
  root : String := ""
  names : List String := []
  deriving Repr, DecidableEq

namespace Path

instance : Inhabited Path := ⟨{}⟩

/-- The names of a path, in order. -/
def namesOf (text : String) : List String :=
  (Text.split '/' text).filter fun name => name != "" && name != "."

/-- The root of a path. -/
def rootOf (text : String) : String :=
  match text.toList with
  | '/' :: '/' :: '/' :: _ => "/"
  | '/' :: '/' :: _ => "//"
  | '/' :: _ => "/"
  | _ => ""

/-- The path that a text denotes. -/
def ofText (text : String) : Path :=
  ⟨rootOf text, namesOf text⟩

/-- The text of a path. -/
def toText (p : Path) : String :=
  if p.root = "" && p.names.isEmpty then "." else p.root ++ Text.joined "/" p.names

/-- Whether a path begins at a root. -/
def isAbsolute (p : Path) : Bool :=
  p.root != ""

/-- A path seen from another one. -/
def append (p q : Path) : Path :=
  if q.isAbsolute then q else ⟨p.root, p.names ++ q.names⟩

/-- The path that a text denotes, seen from another one. -/
def join (p : Path) (text : String) : Path :=
  p.append (ofText text)

/-- The paths that several texts denote, each seen from the one before. -/
def joinAll (p : Path) (texts : List String) : Path :=
  texts.foldl join p

/-- The path without its last name. -/
def parent (p : Path) : Path :=
  { p with names := p.names.dropLast }

/-- The last name of a path. -/
def name (p : Path) : String :=
  p.names.getLast?.getD ""

/-- A name without its ending: the last point and what follows it, unless the name begins or ends
there. -/
def withoutEnding (name : String) : String :=
  let back := name.toList.reverse
  let ending := back.takeWhile (· != '.')
  match back.dropWhile (· != '.') with
  | _ :: front => if ending.isEmpty || front.isEmpty then name else String.ofList front.reverse
  | [] => name

/-- The last name of a path without its ending. -/
def stem (p : Path) : String :=
  withoutEnding p.name

/-- Whether a name of the path holds a NUL character, which no file name does. -/
def hasNul (p : Path) : Bool :=
  p.names.any fun name => name.toList.contains '\x00'

end Path

end Componentry.Files
