import Componentry.Fault

/-!
# Hooks

The points in the life of a component at which the framework calls its code.
-/

namespace Componentry

/-- A point in the life of a component at which its code is called. -/
inductive Hook where
  | configure
  | start
  | update
  | error
  | exception
  | fatal
  | stop
  | cleanup
  deriving Repr, DecidableEq

namespace Hook

/-- Every hook, in the order in which the framework calls them. -/
def all : List Hook :=
  [.configure, .start, .update, .error, .exception, .fatal, .stop, .cleanup]

/-- The name of a hook. -/
def name : Hook → String
  | .configure => "configure"
  | .start => "start"
  | .update => "update"
  | .error => "error"
  | .exception => "exception"
  | .fatal => "fatal"
  | .stop => "stop"
  | .cleanup => "cleanup"

/-- The names of all hooks are those that descriptions may use. -/
theorem map_name_all : all.map name = hookNames := rfl

/-- Every hook is listed. -/
theorem mem_all (h : Hook) : h ∈ all := by
  cases h <;> decide

/-- The hook of a name. -/
def ofName (name : String) : Except Fault Hook :=
  match all.find? (·.name = name) with
  | some hook => .ok hook
  | none => .error (.unknownHook name)

/-- Whether the code of the hook can refuse the step, and so returns a truth value. -/
def returnsBool : Hook → Bool
  | .configure | .start => true
  | _ => false

end Hook

end Componentry
