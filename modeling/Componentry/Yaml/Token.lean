import Componentry.Yaml.Cursor
import Componentry.Fault

/-!
# YAML tokens

The tokens of a YAML 1.1 text. A key that is written without a question mark shows as such only at
the colon that follows it; up to there it is a candidate, and the token for the key is put in front
of it afterwards. A candidate must end on its line and within 1024 characters.

A text that cannot be read to its end gives the tokens before the fault and the fault as its last
token, so that a fault of an earlier token is found first.
-/

namespace Componentry.Yaml

/-- Why a scalar denotes no value of its type. -/
inductive ScalarProblem where
  | value (report : String)
  | notBool
  | empty
  | notTime
  | overflow

/-- The fault that a scalar causes. -/
def ScalarProblem.fault : ScalarProblem → Fault
  | value report => .scalarValue report
  | notBool => .scalarNotBool
  | empty => .scalarEmpty
  | notTime => .scalarNotTime
  | overflow => .scalarOverflow

/-- Why a document has no value. -/
inductive Problem where
  /-- The text is not well-formed, or no value of a known type. -/
  | form
  /-- The text is well-formed, and a scalar in it denotes no value. -/
  | scalar (problem : ScalarProblem)

/-- A token. -/
inductive Token where
  | version (major : Nat)
  | handle (handle target : List Char)
  | otherDirective
  | documentStart
  | documentEnd
  | blockSequenceStart
  | blockMappingStart
  | blockEnd
  | flowSequenceStart
  | flowSequenceEnd
  | flowMappingStart
  | flowMappingEnd
  | blockEntry
  | flowEntry
  | key
  | value
  | alias (name : List Char)
  | anchor (name : List Char)
  | tag (handle : Option (List Char)) (suffix : List Char)
  | scalar (text : List Char) (plain : Bool)
  | broken (problem : Problem)

/-- A token that may turn out to be a key. -/
structure Candidate where
  /-- The number of tokens before it. -/
  position : Nat
  /-- Whether the text is at fault if it is no key. -/
  required : Bool
  index : Nat
  line : Nat
  column : Nat

/-- The state of reading: what was read, and what may follow. -/
structure Scan where
  cursor : Cursor
  tokens : Array Token := #[]
  /-- The number of flow collections open. -/
  flow : Nat := 0
  /-- The column of the innermost block collection. -/
  indent : Int := -1
  /-- The columns of the block collections around it. -/
  outer : List Int := []
  /-- Whether a key without a question mark may begin here. -/
  keyAllowed : Bool := true
  /-- The candidates, by the number of flow collections around them. -/
  candidates : List (Nat × Candidate) := []

namespace Scan

/-- A step of reading. -/
abbrev Step := Scan → Except Problem Scan

/-- The state with one more token. -/
def push (s : Scan) (t : Token) : Scan :=
  { s with tokens := s.tokens.push t }

/-- The state after `n` characters. -/
def skip (s : Scan) (n : Nat) : Scan :=
  { s with cursor := s.cursor.skip n }

/-- The state after the blanks, comments and line breaks in front of a token. A line break outside
flow collections allows a key. -/
def toToken (s : Scan) : Scan :=
  let c := if s.cursor.index == 0 && s.cursor.head == '\uFEFF' then s.cursor.next else s.cursor
  go { s with cursor := c } s.cursor.rest.length
where
  /-- The state after at most `n` lines without tokens. -/
  go (s : Scan) : Nat → Scan
    | 0 => s
    | n + 1 =>
      let c := s.cursor.pass (· == ' ')
      let c := if c.head == '#' then c.pass (!endsLine ·) else c
      match c.lineBreak? with
      | some (_, c) => go { s with cursor := c, keyAllowed := s.keyAllowed || s.flow == 0 } n
      | none => { s with cursor := c }

/-- Drops the candidates that can no longer be keys. -/
def dropStale (s : Scan) : Except Problem Scan :=
  let stale (k : Candidate) : Bool := k.line != s.cursor.line || s.cursor.index > k.index + 1024
  if s.candidates.any fun (_, k) => stale k && k.required then .error .form
  else .ok { s with candidates := s.candidates.filter fun (_, k) => !stale k }

/-- Drops the candidate of the innermost collection. -/
def dropCandidate (s : Scan) : Except Problem Scan :=
  match s.candidates.lookup s.flow with
  | some k =>
    if k.required then .error .form
    else .ok { s with candidates := s.candidates.filter (·.1 != s.flow) }
  | none => .ok s

/-- Takes the next token for a candidate, if a key may begin here. -/
def saveCandidate (s : Scan) : Except Problem Scan :=
  if s.keyAllowed then do
    let s ← s.dropCandidate
    let c := s.cursor
    let k : Candidate :=
      ⟨s.tokens.size, s.flow == 0 && s.indent == c.column, c.index, c.line, c.column⟩
    return { s with candidates := (s.flow, k) :: s.candidates }
  else .ok s

/-- Closes the block collections that begin right of a column. -/
def unwind (s : Scan) (column : Int) : Scan :=
  if s.flow != 0 then s else go s s.outer
where
  /-- Closes collections, given those around them. -/
  go (s : Scan) : List Int → Scan
    | [] => s
    | i :: rest =>
      if s.indent > column then go { s.push .blockEnd with indent := i, outer := rest } rest else s

/-- Opens a block collection at a column, unless the innermost one begins there or further right. -/
def openBlock (s : Scan) (column : Nat) (t : Token) : Scan :=
  if s.indent < column then { s.push t with indent := column, outer := s.indent :: s.outer } else s

/-- The end of the text. -/
def finish (s : Scan) : Except Problem Scan := do
  (s.unwind (-1)).dropCandidate

/-- The characters of names of directives, anchors and tag handles. -/
def isNameChar (c : Char) : Bool :=
  c.isAlphanum || c == '-' || c == '_'

/-- The characters of tags. -/
def isTagChar (c : Char) : Bool :=
  c.isAlphanum || "-;/?:@&=+$,_.!~*'()[]%".toList.contains c

/-- The value of a hexadecimal digit. -/
def hexDigit? (c : Char) : Option Nat :=
  if c.isDigit then some (c.toNat - 0x30)
  else if 'a' ≤ c && c ≤ 'f' then some (c.toNat - 0x57)
  else if 'A' ≤ c && c ≤ 'F' then some (c.toNat - 0x37)
  else none

/-- The number that hexadecimal digits denote. -/
def hexNumber? (cs : List Char) : Option Nat :=
  cs.foldlM (fun n c => (hexDigit? c).map (n * 16 + ·)) 0

/-- The bytes that escapes at the start of the text denote, and what follows them. -/
def escapedBytes : List Char → Option (List UInt8 × List Char)
  | '%' :: a :: b :: rest =>
    match hexNumber? [a, b], escapedBytes rest with
    | some n, some (bytes, after) => some (n.toUInt8 :: bytes, after)
    | _, _ => none
  | '%' :: _ => none
  | rest => some ([], rest)

/-- The characters of a tag with its escapes replaced; runs of escapes must be UTF-8. The first
argument bounds the number of characters. -/
def unescapeTag : Nat → List Char → Option (List Char)
  | _, [] => some []
  | 0, _ => none
  | n + 1, '%' :: rest => do
    let (bytes, after) ← escapedBytes ('%' :: rest)
    let text ← String.fromUTF8? ⟨bytes.toArray⟩
    return text.toList ++ (← unescapeTag n after)
  | n + 1, c :: rest => (unescapeTag n rest).map (c :: ·)

/-- A tag, or the part of it after its handle. -/
def tagText (c : Cursor) : Except Problem (List Char × Cursor) :=
  let (raw, next) := c.span isTagChar
  if raw.isEmpty then .error .form
  else
    match unescapeTag raw.length raw with
    | some text => .ok (text, next)
    | none => .error .form

/-- The handle of a tag: an exclamation mark, and possibly a name and a second one. -/
def tagHandle (c : Cursor) : Except Problem (List Char × Cursor) :=
  if c.head != '!' then .error .form
  else
    let (name, next) := c.next.span isNameChar
    if c.peek 1 != ' ' && next.head == '!' then .ok ('!' :: name ++ ['!'], next.next)
    else if c.peek 1 == ' ' then .ok (['!'], c.next)
    else .error .form

/-- What may follow a directive on its line. -/
def endOfDirective (c : Cursor) : Except Problem Cursor :=
  let c := c.pass (· == ' ')
  let c := if c.head == '#' then c.pass (!endsLine ·) else c
  if endsLine c.head then .ok c.passBreak else .error .form

/-- A number in a directive. -/
def directiveNumber (c : Cursor) : Except Problem (Nat × Cursor) :=
  let (digits, next) := c.span Char.isDigit
  if digits.isEmpty then .error .form
  else .ok (digits.foldl (fun n d => n * 10 + (d.toNat - 0x30)) 0, next)

/-- A directive, from its percent sign on. -/
def directive (c : Cursor) : Except Problem (Token × Cursor) := do
  let (name, c) := c.next.span isNameChar
  if name.isEmpty || !endsWord c.head then throw .form
  match String.ofList name with
  | "YAML" =>
    let (major, c) ← directiveNumber (c.pass (· == ' '))
    if c.head != '.' then throw .form
    let (_, c) ← directiveNumber c.next
    if !endsWord c.head then throw .form
    return (.version major, ← endOfDirective c)
  | "TAG" =>
    let (handle, c) ← tagHandle (c.pass (· == ' '))
    if c.head != ' ' then throw .form
    let (target, c) ← tagText (c.pass (· == ' '))
    if !endsWord c.head then throw .form
    return (.handle handle target, ← endOfDirective c)
  | _ => return (.otherDirective, ← endOfDirective (c.pass (!endsLine ·)))

/-- The name of an anchor or alias, after its mark. -/
def anchorName (c : Cursor) : Except Problem (List Char × Cursor) :=
  let (name, next) := c.span isNameChar
  if name.isEmpty || !(isSeparator next.head || "?:,]\x7d%@\x60".toList.contains next.head) then
    .error .form
  else .ok (name, next)

/-- A tag, from its exclamation mark on. -/
def tag (c : Cursor) : Except Problem (Token × Cursor) := do
  let (t, c) ←
    if c.peek 1 == '<' then do
      let (suffix, c) ← tagText (c.skip 2)
      if c.head != '>' then throw .form
      pure (Token.tag none suffix, c.next)
    else if isSeparator (c.peek 1) then pure (Token.tag none ['!'], c.next)
    else do
      let word := (c.rest.drop 1).takeWhile (!endsWord ·)
      let (handle, c) ← if word.contains '!' then tagHandle c else pure (['!'], c.next)
      let (suffix, c) ← tagText c
      pure (Token.tag (some handle) suffix, c)
  if endsWord c.head then return (t, c) else throw .form

/-- The line breaks from here on, with the spaces that indent each line up to a column. -/
def blockBreaks (indent : Nat) (c : Cursor) : Nat → List Char × Cursor
  | 0 => ([], c)
  | n + 1 =>
    let c := c.skip (min (indent - c.column) (c.rest.takeWhile (· == ' ')).length)
    match c.lineBreak? with
    | some (b, c) => let (bs, c) := blockBreaks indent c n; (b :: bs, c)
    | none => ([], c)

/-- The line breaks from here on, the largest column that spaces reach, and the cursor after
them. -/
def blockIndentation (c : Cursor) (widest : Nat) : Nat → List Char × Nat × Cursor
  | 0 => ([], widest, c)
  | n + 1 =>
    match c.lineBreak? with
    | some (b, c) => let (bs, widest, c) := blockIndentation c widest n; (b :: bs, widest, c)
    | none =>
      if c.head == ' ' then let c := c.next; blockIndentation c (max widest c.column) n
      else ([], widest, c)

/-- What a block scalar keeps of the line breaks at its end. -/
inductive Chomping where
  | strip
  | clip
  | keep

/-- The lines of a block scalar, the breaks after them, and the cursor after these. `text` is what
was read before, in reverse order, and `breaks` the empty lines in front of the next line. -/
def blockLines (folded : Bool) (indent : Nat) (c : Cursor) (breaks text : List Char) :
    Nat → List Char × Option Char × List Char × Cursor
  | 0 => (text, none, breaks, c)
  | n + 1 =>
    let text := breaks.reverse ++ text
    let leading := c.head != ' ' && c.head != '\t'
    let (line, c) := c.span (!endsLine ·)
    let text := line.reverse ++ text
    let (lineBreak, c) :=
      match c.lineBreak? with
      | some (b, c) => (some b, c)
      | none => (none, c)
    let (breaks, c) := blockBreaks indent c c.rest.length
    if c.column == indent && c.head != endMark then
      let text :=
        if folded && lineBreak == some '\n' && leading && c.head != ' ' && c.head != '\t' then
          if breaks.isEmpty then ' ' :: text else text
        else lineBreak.toList ++ text
      blockLines folded indent c breaks text n
    else (text, lineBreak, breaks, c)

/-- The marks after the sign of a block scalar: how it treats breaks at its end, and how far it is
indented. -/
def blockHeader (c : Cursor) : Except Problem (Chomping × Option Nat × Cursor) := do
  let chomping? (c : Cursor) : Option Chomping :=
    if c.head == '+' then some .keep else if c.head == '-' then some .strip else none
  let digit? (c : Cursor) : Option Nat :=
    if c.head.isDigit then some (c.head.toNat - 0x30) else none
  let (chomping, increment, c) ←
    match chomping? c with
    | some chomping =>
      match digit? c.next with
      | some d => pure (chomping, some d, c.skip 2)
      | none => pure (chomping, none, c.next)
    | none =>
      match digit? c with
      | some d =>
        match chomping? c.next with
        | some chomping => pure (chomping, some d, c.skip 2)
        | none => pure (.clip, some d, c.next)
      | none => pure (Chomping.clip, none, c)
  if increment == some 0 || !endsWord c.head then throw Problem.form
  return (chomping, increment, ← endOfDirective c)

/-- A block scalar, after its sign, in a block collection at a column. -/
def blockScalar (folded : Bool) (parent : Int)
    (c : Cursor) : Except Problem (List Char × Cursor) := do
  let (chomping, increment, c) ← blockHeader c
  let least := max 1 (parent + 1).toNat
  let (indent, breaks, c) :=
    match increment with
    | none =>
      let (breaks, widest, c) := blockIndentation c 0 c.rest.length
      (max least widest, breaks, c)
    | some d =>
      let indent := least + d - 1
      let (breaks, c) := blockBreaks indent c c.rest.length
      (indent, breaks, c)
  let (text, lineBreak, breaks, c) :=
    if c.column == indent && c.head != endMark then
      blockLines folded indent c breaks [] c.rest.length
    else ([], none, breaks, c)
  return match chomping with
    | .strip => (text.reverse, c)
    | .clip => ((lineBreak.toList ++ text).reverse, c)
    | .keep => ((breaks.reverse ++ lineBreak.toList ++ text).reverse, c)

/-- The character that an escape of one letter stands for. -/
def simpleEscape? (c : Char) : Option Char :=
  [('0', '\x00'), ('a', '\x07'), ('b', '\x08'), ('t', '\t'), ('\t', '\t'), ('n', '\n'),
   ('v', '\x0B'), ('f', '\x0C'), ('r', '\r'), ('e', '\x1B'), (' ', ' '), ('\x22', '\x22'),
   ('\x5c', '\x5c'), ('/', '/'), ('N', '\u0085'), ('_', '\u00A0'), ('L', '\u2028'),
   ('P', '\u2029')].lookup c

/-- The number of digits of a numeric escape. -/
def escapeWidth? (c : Char) : Option Nat :=
  [('x', 2), ('u', 4), ('U', 8)].lookup c

/-- The character with the number that a numeric escape gives. -/
def escapedChar (n : Nat) : Except Problem Char :=
  if n < 0x110000 then .ok (Char.ofNat n)
  else if n < 0x80000000 then .error (.scalar (.value "chr() arg not in range(0x110000)"))
  else .error (.scalar .overflow)

/-- The line breaks inside a quoted scalar, with the blanks around them. -/
def quotedBreaks (c : Cursor) : Nat → Except Problem (List Char × Cursor)
  | 0 => .error .form
  | n + 1 =>
    if c.atSeparator then .error .form
    else
      let c := c.pass fun ch => ch == ' ' || ch == '\t'
      match c.lineBreak? with
      | some (b, c) => do
        let (bs, c) ← quotedBreaks c n
        return (b :: bs, c)
      | none => .ok ([], c)

/-- The rest of a quoted scalar, after its opening quote. `text` is what was read before, in reverse
order. -/
def quotedScalar (double : Bool) (c : Cursor)
    (text : List Char) : Nat → Except Problem (List Char × Cursor)
  | 0 => .error .form
  | n + 1 =>
    let ch := c.head
    if ch == endMark then .error .form
    else if ch == ' ' || ch == '\t' || isBreak ch then
      let (blanks, c) := c.span fun ch => ch == ' ' || ch == '\t'
      match c.lineBreak? with
      | some (b, c) => do
        let (breaks, c) ← quotedBreaks c (c.rest.length + 1)
        let fold := if b != '\n' then [b] else if breaks.isEmpty then [' '] else []
        quotedScalar double c (breaks.reverse ++ fold ++ text) n
      | none => quotedScalar double c (blanks.reverse ++ text) n
    else if double then
      if ch == '\x22' then .ok (text.reverse, c.next)
      else if ch == '\x5c' then
        let c := c.next
        match simpleEscape? c.head with
        | some e => quotedScalar double c.next (e :: text) n
        | none =>
          match escapeWidth? c.head with
          | some width =>
            let digits := (c.rest.drop 1).take width
            match hexNumber? digits with
            | some code =>
              if digits.length == width then do
                quotedScalar double (c.skip (width + 1)) ((← escapedChar code) :: text) n
              else .error .form
            | none => .error .form
          | none =>
            match c.lineBreak? with
            | some (_, c) => do
              let (breaks, c) ← quotedBreaks c (c.rest.length + 1)
              quotedScalar double c (breaks.reverse ++ text) n
            | none => .error .form
      else quotedScalar double c.next (ch :: text) n
    else if ch == '\x27' then
      if c.peek 1 == '\x27' then quotedScalar double (c.skip 2) ('\x27' :: text) n
      else .ok (text.reverse, c.next)
    else quotedScalar double c.next (ch :: text) n

/-- The part of a plain scalar up to a blank or the end of the scalar. -/
def plainWord (flow : Bool) : List Char → List Char
  | [] => []
  | ch :: rest =>
    let after := rest.headD endMark
    let ends := isSeparator ch || (flow && ",?[]\x7b\x7d".toList.contains ch) ||
      (ch == ':' && (isSeparator after || (flow && ",[]\x7b\x7d".toList.contains after)))
    if ends then [] else ch :: plainWord flow rest

/-- The line breaks inside a plain scalar with the spaces around them, and whether a line that
separates documents follows. -/
def plainBreaks (c : Cursor) : Nat → Option (List Char × Cursor) × Cursor
  | 0 => (some ([], c), c)
  | n + 1 =>
    if c.atSeparator then (none, c)
    else
      let c := c.pass (· == ' ')
      match c.lineBreak? with
      | some (b, c) =>
        match plainBreaks c n with
        | (some (bs, c), stop) => (some (b :: bs, c), stop)
        | (none, stop) => (none, stop)
      | none => (some ([], c), c)

/-- What separates two words of a plain scalar, empty if the scalar ends; whether a line break was
read; and the cursor after it. -/
def plainGap (c : Cursor) : List Char × Bool × Cursor :=
  let (spaces, c) := c.span (· == ' ')
  match c.lineBreak? with
  | some (b, c) =>
    match plainBreaks c (c.rest.length + 1) with
    | (some (breaks, c), _) =>
      ((if b != '\n' then [b] else if breaks.isEmpty then [' '] else []) ++ breaks, true, c)
    | (none, c) => ([], true, c)
  | none => (spaces, false, c)

/-- A plain scalar; `text` is what was read before, in reverse order, and `gap` what separates it
from what follows. Also tells whether the scalar was followed by a line break. -/
def plainScalar (flow : Bool) (indent : Int) (c : Cursor) (gap text : List Char) (broken : Bool) :
    Nat → List Char × Bool × Cursor
  | 0 => (text.reverse, broken, c)
  | n + 1 =>
    if c.head == '#' then (text.reverse, broken, c)
    else
      let word := plainWord flow c.rest
      if word.isEmpty then (text.reverse, broken, c)
      else
        let text := word.reverse ++ gap.reverse ++ text
        let (gap, broken, c) := plainGap (c.skip word.length)
        if gap.isEmpty || c.head == '#' || (!flow && (c.column : Int) < indent) then
          (text.reverse, broken, c)
        else plainScalar flow indent c gap text broken n

/-- Reads a token that may be a key. -/
def node (read : Cursor → Except Problem (Token × Cursor)) : Step := fun s => do
  let s ← s.saveCandidate
  let (t, c) ← read s.cursor
  return { s.push t with cursor := c, keyAllowed := false }

/-- Reads the sign of a new document, or of the end of one. -/
def documentSign (t : Token) : Step := fun s => do
  let s ← (s.unwind (-1)).dropCandidate
  return { s.push t with cursor := s.cursor.skip 3, keyAllowed := false }

/-- Reads the bracket that opens a flow collection. -/
def flowOpen (t : Token) : Step := fun s => do
  let s ← s.saveCandidate
  return { s.push t with cursor := s.cursor.next, flow := s.flow + 1, keyAllowed := true }

/-- Reads the bracket that closes a flow collection. -/
def flowClose (t : Token) : Step := fun s => do
  let s ← s.dropCandidate
  return { s.push t with cursor := s.cursor.next, flow := s.flow - 1, keyAllowed := false }

/-- Reads the comma of a flow collection. -/
def flowEntry : Step := fun s => do
  let s ← s.dropCandidate
  return { s.push .flowEntry with cursor := s.cursor.next, keyAllowed := true }

/-- Reads the dash of a sequence. -/
def blockEntry : Step := fun s => do
  if s.flow == 0 && !s.keyAllowed then throw .form
  let s := if s.flow == 0 then s.openBlock s.cursor.column .blockSequenceStart else s
  let s ← s.dropCandidate
  return { s.push .blockEntry with cursor := s.cursor.next, keyAllowed := true }

/-- Reads the question mark of a key. -/
def keySign : Step := fun s => do
  if s.flow == 0 && !s.keyAllowed then throw .form
  let s := if s.flow == 0 then s.openBlock s.cursor.column .blockMappingStart else s
  let s ← s.dropCandidate
  return { s.push .key with cursor := s.cursor.next, keyAllowed := s.flow == 0 }

/-- Puts a token in front of a candidate. -/
def insert (s : Scan) (position : Nat) (t : Token) : Scan :=
  { s with tokens := s.tokens.take position ++ #[t] ++ s.tokens.drop position }

/-- Reads the colon of a value. The candidate, if there is one, is a key. -/
def valueSign : Step := fun s => do
  let s ←
    match s.candidates.lookup s.flow with
    | some k =>
      let s := { s with candidates := s.candidates.filter (·.1 != s.flow), keyAllowed := false }
      let s := s.insert k.position .key
      pure <|
        if s.flow == 0 && s.indent < (k.column : Int) then
          { s.insert k.position .blockMappingStart with indent := k.column,
                                                        outer := s.indent :: s.outer }
        else s
    | none =>
      if s.flow == 0 && !s.keyAllowed then throw .form
      let s := if s.flow == 0 then s.openBlock s.cursor.column .blockMappingStart else s
      let s ← s.dropCandidate
      pure { s with keyAllowed := s.flow == 0 }
  return { s.push .value with cursor := s.cursor.next }

/-- Reads a block scalar. -/
def blockText (folded : Bool) : Step := fun s => do
  let s ← s.dropCandidate
  let (text, c) ← blockScalar folded s.indent s.cursor.next
  return { s.push (.scalar text false) with cursor := c, keyAllowed := true }

/-- Reads a plain scalar. -/
def plainText : Step := fun s => do
  let s ← s.saveCandidate
  let c := s.cursor
  let (text, broken, c) := plainScalar (s.flow != 0) (s.indent + 1) c [] [] false c.rest.length
  return { s.push (.scalar text true) with cursor := c, keyAllowed := broken }

/-- Reads a quoted scalar. -/
def quotedText (double : Bool) : Step :=
  node fun c => do
    let (text, c) ← quotedScalar double c.next [] (c.rest.length + 1)
    return (.scalar text false, c)

/-- Reads a directive. -/
def directiveLine : Step := fun s => do
  let s ← (s.unwind (-1)).dropCandidate
  let (t, c) ← directive s.cursor
  return { s.push t with cursor := c, keyAllowed := false }

/-- Whether a plain scalar begins at the cursor. -/
def plainBegins (s : Scan) : Bool :=
  let c := s.cursor
  if "-?:,[]\x7b\x7d#&*!|>'\"%@\x60".toList.contains c.head then
    !isSeparator (c.peek 1) && (c.head == '-' || (s.flow == 0 && (c.head == '?' || c.head == ':')))
  else !isSeparator c.head

/-- Reads the next token. -/
def token : Step := fun s =>
  let c := s.cursor
  let inFlow := s.flow != 0
  match c.head with
  | '%' => if c.column == 0 then s.directiveLine else .error .form
  | '[' => flowOpen .flowSequenceStart s
  | '\x7b' => flowOpen .flowMappingStart s
  | ']' => flowClose .flowSequenceEnd s
  | '\x7d' => flowClose .flowMappingEnd s
  | ',' => flowEntry s
  | '*' => node (fun c => do let (name, c) ← anchorName c.next; return (.alias name, c)) s
  | '&' => node (fun c => do let (name, c) ← anchorName c.next; return (.anchor name, c)) s
  | '!' => node tag s
  | '\x27' => quotedText false s
  | '\x22' => quotedText true s
  | ch =>
    if c.column == 0 && c.atMark '-' then documentSign .documentStart s
    else if c.column == 0 && c.atMark '.' then documentSign .documentEnd s
    else if ch == '-' && isSeparator (c.peek 1) then blockEntry s
    else if ch == '?' && (inFlow || isSeparator (c.peek 1)) then keySign s
    else if ch == ':' && (inFlow || isSeparator (c.peek 1)) then valueSign s
    else if ch == '|' && !inFlow then blockText false s
    else if ch == '>' && !inFlow then blockText true s
    else if s.plainBegins then plainText s
    else .error .form

/-- Reads to the end of the text. A step that reads nothing ends the text. -/
def run (s : Scan) : Array Token :=
  let t := s.toToken
  match t.dropStale with
  | .error problem => t.tokens.push (.broken problem)
  | .ok t =>
    let t := t.unwind t.cursor.column
    if t.cursor.rest.isEmpty then
      match t.finish with
      | .ok t => t.tokens
      | .error problem => t.tokens.push (.broken problem)
    else
      match t.token with
      | .error problem => t.tokens.push (.broken problem)
      | .ok next =>
        if next.cursor.rest.length < s.cursor.rest.length then next.run
        else next.tokens.push (.broken .form)
termination_by s.cursor.rest.length

end Scan

/-- The tokens of a text. -/
def tokens (text : String) : List Token :=
  let cs := text.toList
  if cs.all isYamlChar then (Scan.run { cursor := .start cs }).toList else [.broken .form]

end Componentry.Yaml
