import Componentry.Text.CaseTable

/-!
# Upper and lower case

The full case mappings of the Unicode standard (version 14), which may lengthen a text. A capital
sigma becomes a final sigma where it ends a word: a cased letter stands before it and none after it,
not counting the characters that such a search passes over.
-/

namespace Componentry.Text

/-- The image of a code point under the first run that holds it. -/
def runImage? (runs : List CaseRun) (code : Nat) : Option Char :=
  (runs.find? fun r =>
      r.first ≤ code && code ≤ r.last && (code - r.first) % r.step == 0).map fun r =>
    Char.ofNat (Int.toNat (code + r.offset))

/-- The upper case form of a character. -/
def upperChar (c : Char) : List Char :=
  if c.toNat < 0x80 then [c.toUpper]
  else
    match upperExpansions.lookup c.toNat with
    | some codes => codes.map Char.ofNat
    | none => [(runImage? upperRuns c.toNat).getD c]

/-- The lower case form of a character, whatever stands around it. -/
def lowerChar (c : Char) : List Char :=
  if c.toNat < 0x80 then [c.toLower]
  else
    match lowerExpansions.lookup c.toNat with
    | some codes => codes.map Char.ofNat
    | none => [(runImage? lowerRuns c.toNat).getD c]

/-- Whether a character has case. -/
def isCased (c : Char) : Bool :=
  if c.toNat < 0x80 then c.isAlpha else inRanges casedRanges c

/-- Whether the search for a neighbouring cased letter passes over a character. -/
def isCaseIgnorable (c : Char) : Bool :=
  if c.toNat < 0x80 then c.toNat ∈ [0x27, 0x2E, 0x3A, 0x5E, 0x60]
    else inRanges caseIgnorableRanges c

/-- Whether the first character that counts has case. -/
def startsCased (cs : List Char) : Bool :=
  match cs.dropWhile isCaseIgnorable with
  | [] => false
  | c :: _ => isCased c

/-- The lower case form of the second text, which follows the first (in reverse order). -/
def lowerAfter (before : List Char) : List Char → List Char
  | [] => []
  | c :: rest =>
    (if c = 'Σ' then
      [if startsCased before && !startsCased rest then 'ς' else 'σ']
    else lowerChar c) ++ lowerAfter (c :: before) rest

/-- The text in upper case. -/
def upper (text : String) : String :=
  String.ofList (text.toList.flatMap upperChar)

/-- The text in lower case. -/
def lower (text : String) : String :=
  String.ofList (lowerAfter [] text.toList)

end Componentry.Text
