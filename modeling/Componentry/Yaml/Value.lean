import Componentry.Decimal.Integral
import Componentry.Decimal.Layout
import Componentry.Decimal.Numeral
import Componentry.Text.Case
import Componentry.Yaml.Moment
import Componentry.Yaml.Node

/-!
# YAML values

The value of a document. A mapping keeps its entries in the order of the first appearance of their
keys, and the last value given for a key.
-/

namespace Componentry.Yaml

open Componentry

/-- The outcome of making a value. Collections are filled level by level, the outermost first; so of
several faults the one on the outermost level counts, and of those the first. -/
inductive Attempt (α : Type) where
  | done (value : α)
  /-- A fault, and the number of collections around it. -/
  | failed (depth : Nat) (problem : Problem)

namespace Attempt

variable {α β : Type}

/-- An outcome that is known at once. -/
def ofExcept : Except Problem α → Attempt α
  | .ok a => .done a
  | .error problem => .failed 0 problem

/-- A fault that is met at once. -/
def fail (problem : Problem) : Attempt α :=
  .failed 0 problem

/-- The outcome of filling a collection, seen from the level that the collection stands on. -/
def later : Attempt α → Attempt α
  | .done a => .done a
  | .failed depth problem => .failed (depth + 1) problem

/-- The outcome of two parts of a level, one of them a function of the other. -/
def apply (f : Attempt (α → β)) (x : Attempt α) : Attempt β :=
  match f, x with
  | .done f, .done a => .done (f a)
  | .failed depth problem, .done _ => .failed depth problem
  | .done _, .failed depth problem => .failed depth problem
  | .failed d p, .failed e q => if e < d then .failed e q else .failed d p

/-- The parts of a level are all attempted, and the outermost fault counts, of several the first. -/
instance : Applicative Attempt where
  pure := .done
  seq f x := apply f (x ())

/-- The value, or the fault that counts. -/
def toExcept : Attempt α → Except Problem α
  | .done a => .ok a
  | .failed _ problem => .error problem

end Attempt

/-- The value of a node. -/
inductive Value where
  | null
  | bool (value : Bool)
  | int (value : Int)
  | float (value : Float)
  | text (value : String)
  | bytes (value : ByteArray)
  | moment (value : Moment)
  | list (items : List Value)
  | dict (entries : List (Value × Value))
  | set (items : List Value)
  /-- An entry of an ordered mapping. -/
  | pair (key value : Value)

instance : Inhabited Value := ⟨.null⟩

namespace Value

/-- The number that a truth value, an integer or an integral floating point number is equal to. -/
def integer? : Value → Option Int
  | .bool b => some (if b then 1 else 0)
  | .int n => some n
  | .float x => Decimal.integer? x
  | _ => none

/-- Whether two values are the same key of a mapping: numbers are compared by value, whatever their
type. -/
def sameKey (a b : Value) : Bool :=
  match a, b with
  | .null, .null => true
  | .text s, .text t => s == t
  | .bytes s, .bytes t => s == t
  | .moment s, .moment t => s == t
  | .float x, .float y => x == y
  | a, b =>
    match a.integer?, b.integer? with
    | some m, some n => m == n
    | _, _ => false

/-- The entries with one more. A key that is present gets the new value. -/
def put (entries : List (Value × Value)) (key value : Value) : List (Value × Value) :=
  match entries with
  | [] => [(key, value)]
  | (k, v) :: rest => if sameKey k key then (k, value) :: rest else (k, v) :: put rest key value

/-- The entries of a mapping that is written entry by entry. -/
def entriesOf (entries : List (Value × Value)) : List (Value × Value) :=
  entries.foldl (fun done (key, value) => put done key value) []

/-- The integer that a text denotes in a base. -/
def readInt (base : Nat) (cs : List Char) : Except Problem Int :=
  match Decimal.readInt? base cs with
  | some n => .ok n
  | none =>
    .error (.scalar
      (.value (s!"invalid literal for int() with base {base}: " ++ Text.quoted (String.ofList cs))))

/-- The floating point number that a text denotes. -/
def readFloat (cs : List Char) : Except Problem Float :=
  match Decimal.readFloat? cs with
  | some x => .ok x
  | none =>
    .error
      (.scalar (.value ("could not convert string to float: " ++ Text.quoted (String.ofList cs))))

/-- The integer that a scalar denotes. A leading zero marks base 8, and colons separate the digits
of base 60. -/
def ofIntText (cs : List Char) : Except Problem Int := do
  let cs := cs.filter (· != '_')
  let negative := cs.head? == some '-'
  let body := if negative || cs.head? == some '+' then cs.drop 1 else cs
  let magnitude ←
    match body with
    | [] => throw (.scalar .empty)
    | ['0'] => pure 0
    | '0' :: 'b' :: digits => readInt 2 digits
    | '0' :: 'x' :: digits => readInt 16 digits
    | '0' :: _ => readInt 8 body
    | _ =>
      if body.contains ':' then
        (Text.splitAt ':' body).foldlM (fun n part => do return n * 60 + (← readInt 10 part)) 0
      else readInt 10 body
  return if negative then -magnitude else magnitude

/-- The number with the given digits in base 60, the last of weight one. The sum is taken from that
digit on. -/
def sixtieths (parts : List Float) : Except Problem Float := do
  let (sum, _) ← parts.reverse.foldlM (fun (sum, weight) digit =>
    if weight < Nat.pow 2 1024 then .ok (sum + digit * Float.ofNat weight, weight * 60)
    else .error (.scalar .overflow)) ((0.0 : Float), (1 : Nat))
  return sum

/-- The floating point number that a scalar denotes. -/
def ofFloatText (cs : List Char) : Except Problem Float := do
  let cs := (Text.lower (String.ofList (cs.filter (· != '_')))).toList
  let negative := cs.head? == some '-'
  let body := if negative || cs.head? == some '+' then cs.drop 1 else cs
  let magnitude ←
    if cs.isEmpty then throw (.scalar .empty)
    else if String.ofList body = ".inf" then pure (1.0 / 0.0)
    else if String.ofList body = ".nan" then pure (0.0 / 0.0)
    else if body.contains ':' then do
      let parts ← (Text.splitAt ':' body).mapM readFloat
      sixtieths parts
    else readFloat body
  return if negative then -magnitude else magnitude

/-- The truth value that a scalar denotes. -/
def ofBoolText (cs : List Char) : Except Problem Bool :=
  match Text.lower (String.ofList cs) with
  | "yes" | "true" | "on" => .ok true
  | "no" | "false" | "off" => .ok false
  | _ => .error (.scalar .notBool)

/-- The six bits that a character of base 64 stands for. -/
def sextet? (c : Char) : Option Nat :=
  if 'A' ≤ c && c ≤ 'Z' then some (c.toNat - 0x41)
  else if 'a' ≤ c && c ≤ 'z' then some (c.toNat - 0x47)
  else if c.isDigit then some (c.toNat + 4)
  else if c = '+' then some 62
  else if c = '/' then some 63
  else none

/-- The bytes that a text in base 64 denotes; other characters are passed over. The arguments are
the number of characters since the last full byte boundary, the bits of the last of them that are
still to be used, and the number of padding signs just read. -/
def base64 (place left pads : Nat) : List Char → Option (List UInt8)
  | [] => if place = 0 then some [] else none
  | c :: rest =>
    if c = '=' then
      if place < 2 then base64 place left pads rest
      else if 4 ≤ place + pads + 1 then some []
      else base64 place left (pads + 1) rest
    else
      match sextet? c with
      | none => base64 place left pads rest
      | some v =>
        match place with
        | 0 => base64 1 v 0 rest
        | 1 => (base64 2 (v % 16) 0 rest).map ((left * 4 + v / 16).toUInt8 :: ·)
        | 2 => (base64 3 (v % 4) 0 rest).map ((left * 16 + v / 4).toUInt8 :: ·)
        | _ => (base64 0 0 0 rest).map ((left * 64 + v).toUInt8 :: ·)

/-- The bytes that a scalar denotes. -/
def ofBinaryText (cs : List Char) : Except Problem ByteArray :=
  if cs.all (·.toNat < 0x80) then
    match base64 0 0 0 cs with
    | some octets => .ok ⟨octets.toArray⟩
    | none => .error .form
  else .error .form

/-- The point in time that a scalar denotes. -/
def ofTimestampText (cs : List Char) : Except Problem Moment :=
  let cs := if cs.getLast? = some '\n' then cs.dropLast else cs
  match Stamp.ofChars? cs with
  | some stamp => Moment.ofStamp stamp
  | none => .error (.scalar .notTime)

/-- The text of a scalar, or of the value that a mapping stands for where a scalar is needed. -/
def scalarText (node : Node) : Except Problem (List Char) :=
  match node with
  | .scalar _ chars => .ok chars
  | .mapping _ _ entries => valueText entries
  | _ => .error .form
where
  /-- The text of the value under the key of values. -/
  valueText : List (Node × Node) → Except Problem (List Char)
    | [] => .error .form
    | (.scalar .value _, v) :: _ => scalarText v
    | _ :: rest => valueText rest

/-- Whether the values of a type are collections. They are no keys of mappings. -/
def isCollection : Tag → Bool
  | .sequence | .mapping | .orderedMap | .pairs | .set => true
  | _ => false

/-- The value of a node whose type has values that are scalars. -/
def ofScalar (tag : Tag) (node : Node) : Except Problem Value := do
  match tag with
  | .null => let _ ← scalarText node; return .null
  | .bool => return .bool (← ofBoolText (← scalarText node))
  | .int => return .int (← ofIntText (← scalarText node))
  | .float => return .float (← ofFloatText (← scalarText node))
  | .binary => return .bytes (← ofBinaryText (← scalarText node))
  | .timestamp => return .moment (← ofTimestampText (← scalarText node))
  | .text => return .text (String.ofList (← scalarText node))
  | _ => throw .form

/-- The value of a node that is a key of a mapping. -/
def ofKey : Node → Except Problem Value
  | .scalar .value chars => .ok (.text (String.ofList chars))
  | .scalar tag chars => ofScalar tag (.scalar tag chars)
  | .sequence tag anchor items => ofScalar tag (.sequence tag anchor items)
  | .mapping tag anchor entries => ofScalar tag (.mapping tag anchor entries)
  | .enclosing _ => .error .form

mutual

/-- Whether each merge key among the entries stands for a mapping or a list of mappings, and so do
the merge keys of these. -/
def mergesWell (entries : List (Node × Node)) : Bool :=
  match entries with
  | [] => true
  | (.scalar .merge _, source) :: rest => isSource source && mergesWell rest
  | _ :: rest => mergesWell rest
termination_by sizeOf entries

/-- Whether a merge key may stand for the node. -/
def isSource (source : Node) : Bool :=
  match source with
  | .mapping _ _ entries => mergesWell entries
  | .sequence _ _ items => areSources items
  | _ => false
termination_by sizeOf source

/-- Whether the nodes are mappings that can be merged. -/
def areSources (items : List Node) : Bool :=
  match items with
  | [] => true
  | .mapping _ _ entries :: rest => mergesWell entries && areSources rest
  | _ => false
termination_by sizeOf items

end

mutual

/-- The value of a node. -/
def ofNode (node : Node) : Attempt Value :=
  match node with
  | .scalar tag chars =>
    if isCollection tag then .later (.fail .form) else .ofExcept (ofScalar tag (.scalar tag chars))
  | .sequence tag anchor items =>
    match tag with
    | .sequence => .later (.list <$> ofItems items)
    | .orderedMap | .pairs => .later (.list <$> ofPairs items)
    | .mapping | .set => .later (.fail .form)
    | _ => .ofExcept (ofScalar tag (.sequence tag anchor items))
  | .mapping tag anchor entries =>
    match tag with
    | .mapping => .later (.dict <$> ofMapping entries)
    | .set => .later ((fun entries => .set (entries.map (·.1))) <$> ofMapping entries)
    | .sequence | .orderedMap | .pairs => .later (.fail .form)
    | _ => .ofExcept (ofScalar tag (.mapping tag anchor entries))
  | .enclosing _ => .fail .form
termination_by (sizeOf node, 0)

/-- The values of nodes. -/
def ofItems (items : List Node) : Attempt (List Value) :=
  match items with
  | [] => pure []
  | item :: rest => List.cons <$> ofNode item <*> ofItems rest
termination_by (sizeOf items, 0)

/-- The entries of an ordered mapping, each written as a mapping of its own. -/
def ofPairs (items : List Node) : Attempt (List Value) :=
  match items with
  | [] => pure []
  | .mapping _ _ [(key, value)] :: rest =>
    (fun key value rest => .pair key value :: rest) <$> ofNode key <*> ofNode value <*> ofPairs rest
  | _ => .fail .form
termination_by (sizeOf items, 0)

/-- The entries of a mapping, each key once. -/
def ofMapping (entries : List (Node × Node)) : Attempt (List (Value × Value)) :=
  if mergesWell entries then entriesOf <$> ofEntries entries else .fail .form
termination_by (sizeOf entries, 2)

/-- The entries that a mapping takes over, and then its own. -/
def ofEntries (entries : List (Node × Node)) : Attempt (List (Value × Value)) :=
  (· ++ ·) <$> ofMerged entries <*> ofOwn entries
termination_by (sizeOf entries, 1)

/-- The entries that a mapping takes over. -/
def ofMerged (entries : List (Node × Node)) : Attempt (List (Value × Value)) :=
  match entries with
  | [] => pure []
  | (.scalar .merge _, source) :: rest => (· ++ ·) <$> ofSource source <*> ofMerged rest
  | _ :: rest => ofMerged rest
termination_by (sizeOf entries, 0)

/-- The entries that are a mapping's own. -/
def ofOwn (entries : List (Node × Node)) : Attempt (List (Value × Value)) :=
  match entries with
  | [] => pure []
  | (.scalar .merge _, _) :: rest => ofOwn rest
  | (key, value) :: rest =>
    (fun key value rest => (key, value) :: rest) <$>
      .ofExcept (ofKey key) <*> ofNode value <*> ofOwn rest
termination_by (sizeOf entries, 0)

/-- The entries taken over from a mapping, or from several of which the first counts most. -/
def ofSource (source : Node) : Attempt (List (Value × Value)) :=
  match source with
  | .mapping _ _ entries => ofEntries entries
  | .sequence _ _ items => ofSources items
  | _ => .fail .form
termination_by (sizeOf source, 0)

/-- The entries taken over from several mappings, those of the last first. -/
def ofSources (items : List Node) : Attempt (List (Value × Value)) :=
  match items with
  | [] => pure []
  | .mapping _ _ entries :: rest => (· ++ ·) <$> ofSources rest <*> ofEntries entries
  | _ => .fail .form
termination_by (sizeOf items, 0)

end

/-- The collection without its parts. -/
def emptied : Node → Node
  | .sequence tag anchor _ => .sequence tag anchor []
  | .mapping tag anchor _ => .mapping tag anchor []
  | node => node

mutual

/-- The node with each reference to an enclosing collection replaced by that collection, down to a
depth that no description is read to. -/
def unroll (depth : Nat) (around : List (List Char × Node)) (node : Node) : Node :=
  match node with
  | .scalar tag chars => .scalar tag chars
  | .sequence tag anchor items =>
    let around := match anchor with
      | some a => (a, .sequence tag anchor items) :: around
      | none => around
    .sequence tag none (unrollItems depth around items)
  | .mapping tag anchor entries =>
    let around := match anchor with
      | some a => (a, .mapping tag anchor entries) :: around
      | none => around
    .mapping tag none (unrollEntries depth around entries)
  | .enclosing anchor =>
    match depth, around.lookup anchor with
    | depth + 1, some outer => unroll depth around outer
    | 0, some outer => emptied outer
    | _, none => .absent
termination_by (depth, sizeOf node)

/-- The nodes with references replaced. -/
def unrollItems (depth : Nat) (around : List (List Char × Node)) (items : List Node) : List Node :=
  match items with
  | [] => []
  | item :: rest => unroll depth around item :: unrollItems depth around rest
termination_by (depth, sizeOf items)

/-- The entries with references replaced. -/
def unrollEntries (depth : Nat) (around : List (List Char × Node)) (entries : List (Node × Node)) :
    List (Node × Node) :=
  match entries with
  | [] => []
  | (key, value) :: rest =>
    (unroll depth around key, unroll depth around value) :: unrollEntries depth around rest
termination_by (depth, sizeOf entries)

end

/-- The value of a text that holds at most one document; an empty text has the null value. -/
def parse (text : String) : Except Problem Value := do
  match ← Node.ofTokens (tokens text) with
  | some node => (ofNode (unroll 6 [] node)).toExcept
  | none => return .null

end Value

end Componentry.Yaml
