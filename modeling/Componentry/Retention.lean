import Componentry.Scalar

/-!
# Retention

What an output port keeps of the samples written to it, and the smart pointers through which a port
may pass its samples.
-/

namespace Componentry

/-- What an output port keeps of the samples written to it. -/
inductive Retention where
  /-- The last sample, for connections made later. -/
  | always
  | never
  /-- The next sample, until a connection has read it. -/
  | onlyIfUnread
  deriving Repr, DecidableEq

namespace Retention

/-- The word for a policy. -/
def word : Retention → String
  | .always => "always"
  | .never => "never"
  | .onlyIfUnread => "only_if_unread"

/-- Every policy. -/
def all : List Retention :=
  [.always, .never, .onlyIfUnread]

/-- The policy that a word names. -/
def ofWord? (word : String) : Option Retention :=
  all.find? (·.word = word)

/-- The policy that a value names. -/
def ofScalar (value : Scalar) : Except Fault Retention :=
  match value with
  | .text word =>
    match ofWord? word with
    | some policy => .ok policy
    | none => .error (.unknownRetention value.shown)
  | value => .error (.unknownRetention value.shown)

/-- Whether the last written sample is kept, and whether the next one is. -/
def flags : Retention → Bool × Bool
  | .always => (true, false)
  | .never => (false, false)
  | .onlyIfUnread => (false, true)

end Retention

/-- The smart pointer through which a port passes its samples. -/
inductive Pointer where
  | shared
  | readOnly
  deriving Repr, DecidableEq

namespace Pointer

/-- The word for a pointer. -/
def word : Pointer → String
  | .shared => "shared"
  | .readOnly => "read-only"

/-- Every pointer. -/
def all : List Pointer :=
  [.shared, .readOnly]

/-- The pointer that a word names. -/
def ofWord? (word : String) : Option Pointer :=
  all.find? (·.word = word)

end Pointer

end Componentry
