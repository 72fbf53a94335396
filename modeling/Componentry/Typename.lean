import Componentry.Text.Blank

/-!
# Type names

A type is known by a canonical name such as `/base/Time` or `/std/vector</double>`: parts are
separated by slashes, template arguments stand between angle brackets, separated by commas, with no
blank next to a bracket or comma, and a qualified name that begins with an ASCII letter or low line
gets a slash in front. `normalize` computes that name from any spelling, `cxxName` the spelling used
in generated code.
-/

namespace Componentry.Typename

open Componentry.Text

/-- Whether a character delimits template arguments. -/
def isDelimiter (c : Char) : Bool :=
  c == '<' || c == '>' || c == ','

/-- Whether a qualified name may begin with the character. -/
def isNameStart (c : Char) : Bool :=
  c.isAlpha || c == '_'

/-- Whether a qualified name begins after the character. -/
def opensName (c : Char) : Bool :=
  c == '<' || c == ','

/-- Each double colon becomes a slash. -/
def slashes : List Char → List Char
  | ':' :: ':' :: rest => '/' :: slashes rest
  | c :: rest => c :: slashes rest
  | [] => []

/-- The text without the blanks in front of a delimiter. -/
def tightenBefore : List Char → List Char
  | [] => []
  | c :: rest =>
    match tightenBefore rest with
    | [] => [c]
    | next :: after => if isBlank c && isDelimiter next then next :: after else c :: next :: after

/-- The text without the blanks that follow a delimiter; the argument tells that one came just
before. -/
def tightenAfter (delimited : Bool) : List Char → List Char
  | [] => []
  | c :: rest =>
    if delimited && isBlank c then tightenAfter true rest
    else c :: tightenAfter (isDelimiter c) rest

/-- Each qualified name gets a slash in front; the argument tells that one may begin here. -/
def rooted (opening : Bool) : List Char → List Char
  | [] => []
  | c :: rest =>
    if opening && isNameStart c then '/' :: c :: rooted (opensName c) rest
    else c :: rooted (opensName c) rest

/-- The canonical form of the characters of a name. -/
def normalChars (cs : List Char) : List Char :=
  rooted true (tightenAfter false (tightenBefore (slashes (trim cs))))

/-- The canonical name of a type. -/
def normalize (name : String) : String :=
  String.ofList (normalChars name.toList)

/-- Each qualified name loses one slash in front; the argument tells that one may begin here. -/
def unrooted (opening : Bool) : List Char → List Char
  | [] => []
  | c :: rest =>
    if opening && c == '/' then unrooted false rest
    else c :: unrooted (opensName c) rest

/-- How a character of a canonical name is spelled in code. -/
def spell (c : Char) : List Char :=
  if c = '/' then [':', ':']
  else if c = '<' then ['<', ' ']
  else if c = '>' then [' ', '>']
  else if c = ',' then [',', ' ']
  else [c]

/-- The spelling of a type name in generated code. -/
def cxxName (name : String) : String :=
  String.ofList ((unrooted true (normalChars name.toList)).flatMap spell)

end Componentry.Typename
