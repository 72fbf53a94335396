import Componentry.Slot
import Mathlib.Data.List.Basic
import Mathlib.Data.List.Induction
import Mathlib.Tactic.Common

/-!
# Histories of slots

What happens to slots is a sequence of events: calls, loads that start and end, and answers. A
history tells the state of each slot. It is lawful for a slot if each event fits the history before
it: a call meets the state that the history tells and is followed at once by a load or an answer,
only an unresolved slot starts a load, only a slot that is resolving ends one, and the end of a load
is followed at once by the answer to its call.

In a lawful history at most one load of the slot runs at a time, and none starts after one that gave
a value.
-/

namespace Componentry

variable {α : Type}

/-- What happens to a slot. -/
inductive SlotEvent (α : Type) where
  /-- The slot is to be resolved, and this is its state. -/
  | calls (slot : Nat) (state : Slot α)
  /-- A load starts. -/
  | starts (slot : Nat)
  /-- A load ends. -/
  | ends (slot : Nat) (outcome : Except Fault α)
  /-- A call is answered, and this is the state that it leaves. -/
  | answers (slot : Nat) (outcome : Except Fault α) (state : Slot α)

/-- What a load leaves in its slot. -/
def Slot.ofOutcome : Except Fault α → Slot α
  | .ok value => .resolved value
  | .error _ => .unresolved

namespace SlotEvent

/-- The slot that an event happens to. -/
def slot : SlotEvent α → Nat
  | .calls slot _ => slot
  | .starts slot => slot
  | .ends slot _ => slot
  | .answers slot _ _ => slot

/-- The state of a slot after an event. -/
def next (i : Nat) (state : Slot α) : SlotEvent α → Slot α
  | .starts slot => if slot = i then .resolving else state
  | .ends slot outcome => if slot = i then .ofOutcome outcome else state
  | .calls _ _ => state
  | .answers _ _ _ => state

/-- By how many an event changes the number of the loads of a slot that run. -/
def loads (i : Nat) : SlotEvent α → Int
  | .starts slot => if slot = i then 1 else 0
  | .ends slot _ => if slot = i then -1 else 0
  | .calls _ _ => 0
  | .answers _ _ _ => 0

/-- What follows a call at once, by the state that it meets. -/
def response (name : String) (i : Nat) : Slot α → SlotEvent α
  | .unresolved => .starts i
  | .resolving => .answers i (.error (.importCycle name)) .resolving
  | .resolved value => .answers i (.ok value) (.resolved value)

/-- What follows an event at once: the response to a call of the slot, and the answer to the call
whose load ends. -/
def due (name : String) (i : Nat) : SlotEvent α → Option (SlotEvent α)
  | .calls slot state => if slot = i then some (response name i state) else none
  | .ends slot outcome => if slot = i then some (.answers i outcome (.ofOutcome outcome)) else none
  | .starts _ => none
  | .answers _ _ _ => none

variable {event : SlotEvent α} {i : Nat}

/-- Only loads change the state of a slot. -/
theorem next_eq_self (hstarts : event ≠ .starts i) (hends : ∀ outcome, event ≠ .ends i outcome)
    (state : Slot α) :
    event.next i state = state := by
  cases event with
  | starts slot => exact if_neg fun same => hstarts (by rw [same])
  | ends slot outcome => exact if_neg fun same => hends outcome (by rw [same])
  | calls slot state' => rfl
  | answers slot outcome state' => rfl

/-- An event of another slot leaves the state of this one. -/
theorem next_of_slot_ne (h : event.slot ≠ i) (state : Slot α) : event.next i state = state := by
  apply next_eq_self
  · exact fun same => h (congrArg slot same)
  · exact fun outcome same => h (congrArg slot same)

/-- An event of another slot requires nothing of this one. -/
theorem due_of_slot_ne (h : event.slot ≠ i) (name : String) : event.due name i = none := by
  cases event with
  | starts slot => rfl
  | ends slot outcome => exact if_neg h
  | calls slot state => exact if_neg h
  | answers slot outcome state => rfl

end SlotEvent

/-- How many loads of a slot have started in a history and not ended. -/
def loadsRunning (i : Nat) (history : List (SlotEvent α)) : Int :=
  history.foldl (fun running event => running + event.loads i) 0

/-- The state of a slot after a history. -/
def stateAfter (i : Nat) (history : List (SlotEvent α)) : Slot α :=
  history.foldl (fun state event => event.next i state) .unresolved

/-- The loads that run after one more event. -/
@[simp] theorem loadsRunning_concat (i : Nat) (history : List (SlotEvent α)) (event : SlotEvent α) :
    loadsRunning i (history ++ [event]) = loadsRunning i history + event.loads i := by
  simp [loadsRunning]

/-- The state after one more event. -/
@[simp] theorem stateAfter_concat (i : Nat) (history : List (SlotEvent α)) (event : SlotEvent α) :
    stateAfter i (history ++ [event]) = event.next i (stateAfter i history) := by
  simp [stateAfter]

/-- Whether an event may follow a history, as far as a slot of a name is concerned. -/
structure Fits (name : String) (i : Nat) (before : List (SlotEvent α))
    (event : SlotEvent α) : Prop where
  due : ∀ last ∈ before.getLast?, ∀ next ∈ last.due name i, event = next
  calls : ∀ state, event = .calls i state → stateAfter i before = state
  starts : event = .starts i → stateAfter i before = .unresolved
  ends : ∀ outcome, event = .ends i outcome → stateAfter i before = .resolving
  answers : ∀ outcome state, event = .answers i outcome state → stateAfter i before = state ∧
    (before.getLast? = some (.ends i outcome) ∨ event = .response name i state)

/-- Whether each event of a history fits what is before it. -/
def Lawful (name : String) (i : Nat) (history : List (SlotEvent α)) : Prop :=
  ∀ before event after, history = before ++ event :: after → Fits name i before event

/-- Whether nothing has to follow a history at once. -/
def Settled (name : String) (i : Nat) (history : List (SlotEvent α)) : Prop :=
  ∀ last ∈ history.getLast?, last.due name i = none

section Rules

variable {name : String} {i : Nat} {history before : List (SlotEvent α)} {event : SlotEvent α}

/-- A history is settled if its last event requires nothing. -/
theorem settled_concat : Settled name i (history ++ [event]) ↔ event.due name i = none := by
  simp [Settled]

/-- The empty history is lawful. -/
theorem lawful_nil (name : String) (i : Nat) : Lawful name i ([] : List (SlotEvent α)) := by
  intro before event after split
  simp at split

/-- A history with one more event is lawful if the event fits it. -/
theorem lawful_concat :
    Lawful name i (history ++ [event]) ↔ Lawful name i history ∧ Fits name i history event := by
  constructor
  · intro lawful
    constructor
    · intro before event' after split
      exact lawful before event' (after ++ [event])
        (by rw [split, List.append_assoc, List.cons_append])
    · exact lawful history event [] rfl
  · intro ⟨lawful, fits⟩ before event' after split
    rcases List.eq_nil_or_concat' after with rfl | ⟨after, last, rfl⟩
    · obtain ⟨rfl, same⟩ := List.append_inj' split rfl
      obtain rfl := List.singleton_inj.1 same
      exact fits
    · rw [← List.cons_append, ← List.append_assoc] at split
      exact lawful before event' after (List.append_inj' split rfl).1

/-- Any event may follow a settled history at once. -/
theorem Settled.due (settled : Settled name i before) :
    ∀ last ∈ before.getLast?, ∀ next ∈ last.due name i, event = next := by
  intro last hlast next hnext
  simp [settled last hlast] at hnext

/-- An event of another slot fits a settled history. -/
theorem fits_of_slot_ne (settled : Settled name i before) (other : event.slot ≠ i) :
    Fits name i before event where
  due := settled.due
  calls _ same := absurd (congrArg SlotEvent.slot same) other
  starts same := absurd (congrArg SlotEvent.slot same) other
  ends _ same := absurd (congrArg SlotEvent.slot same) other
  answers _ _ same := absurd (congrArg SlotEvent.slot same) other

/-- A call fits a settled history if it meets the state. -/
theorem fits_calls {state : Slot α} (settled : Settled name i before)
    (same : stateAfter i before = state) :
    Fits name i before (.calls i state) where
  due := settled.due
  calls state' called := by
    cases called
    exact same
  starts := nofun
  ends := nofun
  answers := nofun

/-- The response of a slot fits after the call. -/
theorem fits_response {state : Slot α} (same : stateAfter i before = state) :
    Fits name i (before ++ [.calls i state]) (.response name i state) where
  due := by simp [SlotEvent.due]
  calls state' := by cases state <;> nofun
  starts starts := by
    cases state with
    | unresolved => simpa [SlotEvent.next] using same
    | resolving => cases starts
    | resolved value => cases starts
  ends outcome := by cases state <;> nofun
  answers outcome state' answers := by
    have met : stateAfter i (before ++ [.calls i state]) = state := by
      simpa [SlotEvent.next] using same
    cases state with
    | unresolved => cases answers
    | resolving =>
      cases answers
      exact ⟨met, .inr rfl⟩
    | resolved value =>
      cases answers
      exact ⟨met, .inr rfl⟩

/-- The end of a load fits while the slot is resolving. -/
theorem fits_ends (settled : Settled name i before) (resolving : stateAfter i before = .resolving)
    (outcome : Except Fault α) :
    Fits name i before (.ends i outcome) where
  due := settled.due
  calls := nofun
  starts := nofun
  ends _ _ := resolving
  answers := nofun

/-- The answer fits after the end of the load. -/
theorem fits_answers (outcome : Except Fault α) :
    Fits name i (before ++ [.ends i outcome]) (.answers i outcome (.ofOutcome outcome)) where
  due := by simp [SlotEvent.due]
  calls := nofun
  starts := nofun
  ends := nofun
  answers outcome' state same := by
    cases same
    exact ⟨by simp [SlotEvent.next], .inl (by simp)⟩

/-- The end of a load leaves the state of its outcome. -/
theorem stateAfter_of_ends {outcome : Except Fault α}
    (h : before.getLast? = some (.ends i outcome)) :
    stateAfter i before = .ofOutcome outcome := by
  obtain ⟨front, rfl⟩ := List.getLast?_eq_some_iff.1 h
  simp [SlotEvent.next]

/-- A slot that holds a value answers with it. -/
theorem Fits.answer_of_resolved {value : α} {outcome : Except Fault α} {state : Slot α}
    (fits : Fits name i before (.answers i outcome state))
    (resolved : stateAfter i before = .resolved value) :
    outcome = .ok value ∧ state = .resolved value := by
  obtain ⟨rfl, ended | answer⟩ := fits.answers outcome state rfl
  · refine ⟨?_, resolved⟩
    rw [stateAfter_of_ends ended] at resolved
    cases outcome <;> cases resolved
    rfl
  · rw [resolved] at answer ⊢
    cases answer
    exact ⟨rfl, rfl⟩

/-- A slot that is left unresolved answers with the fault of the load that has just ended. -/
theorem Fits.answer_of_unresolved {outcome : Except Fault α} {state : Slot α}
    (fits : Fits name i before (.answers i outcome state))
    (unresolved : stateAfter i before = .unresolved) :
    state = .unresolved ∧ ∃ fault, outcome = .error fault ∧
      before.getLast? = some (.ends i (.error fault)) := by
  obtain ⟨rfl, ended | answer⟩ := fits.answers outcome state rfl
  · refine ⟨unresolved, ?_⟩
    rw [stateAfter_of_ends ended] at unresolved
    cases outcome with
    | ok value => cases unresolved
    | error fault => exact ⟨fault, rfl, ended⟩
  · rw [unresolved] at answer
    cases answer

end Rules

namespace Lawful

variable {name : String} {i : Nat} {history before after : List (SlotEvent α)} {value : α}

/-- An event of a lawful history fits the lawful history before it. -/
theorem fits {event : SlotEvent α} (h : Lawful name i (before ++ event :: after)) :
    Lawful name i before ∧ Fits name i before event := by
  refine ⟨?_, h before event after rfl⟩
  intro front event' rest split
  exact h front event' (rest ++ event :: after) (by rw [split, List.append_assoc, List.cons_append])

/-- One load runs while the slot is resolving, and none otherwise. -/
theorem loadsRunning_eq (h : Lawful name i history) :
    loadsRunning i history = match stateAfter i history with | .resolving => 1 | _ => 0 := by
  induction history using List.reverseRecOn with
  | nil => rfl
  | append_singleton before event ih =>
    obtain ⟨lawful, fits⟩ := lawful_concat.1 h
    rw [loadsRunning_concat, stateAfter_concat, ih lawful]
    cases event with
    | calls slot state => simp [SlotEvent.loads, SlotEvent.next]
    | answers slot outcome state => simp [SlotEvent.loads, SlotEvent.next]
    | starts slot =>
      by_cases same : slot = i
      · subst same
        simp [fits.starts rfl, SlotEvent.loads, SlotEvent.next]
      · simp [same, SlotEvent.loads, SlotEvent.next]
    | ends slot outcome =>
      by_cases same : slot = i
      · subst same
        cases outcome <;> simp [fits.ends _ rfl, SlotEvent.loads, SlotEvent.next, Slot.ofOutcome]
      · simp [same, SlotEvent.loads, SlotEvent.next]

/-- The slot holds the value that a load gave. -/
theorem stateAfter_eq_resolved_iff (h : Lawful name i history) :
    stateAfter i history = .resolved value ↔ .ends i (.ok value) ∈ history := by
  induction history using List.reverseRecOn with
  | nil => simp [stateAfter]
  | append_singleton before event ih =>
    obtain ⟨lawful, fits⟩ := lawful_concat.1 h
    rw [stateAfter_concat, List.mem_append, List.mem_singleton, ← ih lawful]
    cases event with
    | calls slot state => simp [SlotEvent.next]
    | answers slot outcome state => simp [SlotEvent.next]
    | starts slot =>
      by_cases same : slot = i
      · subst same
        simp [fits.starts rfl, SlotEvent.next]
      · simp [same, SlotEvent.next]
    | ends slot outcome =>
      by_cases same : slot = i
      · subst same
        cases outcome <;> simp [fits.ends _ rfl, SlotEvent.next, Slot.ofOutcome, eq_comm]
      · simp [same, Ne.symm same, SlotEvent.next]

/-- A slot is resolving while its loads run. -/
theorem stateAfter_eq_resolving_iff (h : Lawful name i history) :
    stateAfter i history = .resolving ↔ 0 < loadsRunning i history := by
  rw [h.loadsRunning_eq]
  cases stateAfter i history <;> simp

/-- A slot is unresolved while no load runs and none has succeeded. -/
theorem stateAfter_eq_unresolved_iff (h : Lawful name i history) :
    stateAfter i history = .unresolved ↔
      loadsRunning i history = 0 ∧ ∀ value, .ends i (.ok value) ∉ history := by
  rw [h.loadsRunning_eq]
  simp only [← h.stateAfter_eq_resolved_iff]
  cases stateAfter i history <;> simp

/-- What has to follow an event follows it. -/
theorem due_follows {event next : SlotEvent α} (h : Lawful name i (before ++ event :: after))
    (settled : Settled name i (before ++ event :: after)) (due : event.due name i = some next) :
    ∃ rest, after = next :: rest := by
  cases after with
  | nil => simp [settled_concat.1 settled] at due
  | cons event' rest =>
    rw [← List.singleton_append, ← List.append_assoc] at h
    exact ⟨rest, by rw [h.fits.2.due event (by simp) next due]⟩

/-- A load that runs comes to an end if the slot is not left resolving, and no other one starts
before. -/
theorem load_ends (h : Lawful name i (before ++ after)) (settled : Settled name i (before ++ after))
    (running : stateAfter i before = .resolving)
    (finished : stateAfter i (before ++ after) ≠ .resolving) :
    ∃ meanwhile outcome rest,
      after = meanwhile ++ .ends i outcome :: .answers i outcome (.ofOutcome outcome) :: rest ∧
      ∀ event ∈ meanwhile, event ≠ .starts i ∧ ∀ outcome, event ≠ .ends i outcome := by
  induction after generalizing before with
  | nil => simp [running] at finished
  | cons event after ih =>
    by_cases last : ∃ outcome, event = .ends i outcome
    · obtain ⟨outcome, rfl⟩ := last
      obtain ⟨rest, rfl⟩ := h.due_follows settled (if_pos rfl)
      exact ⟨[], outcome, rest, rfl, by simp⟩
    · have notStart : event ≠ .starts i := by
        intro starts
        simp [h.fits.2.starts starts] at running
      have notEnd (outcome : Except Fault α) : event ≠ .ends i outcome :=
        fun ends => last ⟨outcome, ends⟩
      rw [← List.singleton_append, ← List.append_assoc] at h settled finished
      have still : stateAfter i (before ++ [event]) = .resolving := by
        rw [stateAfter_concat, SlotEvent.next_eq_self notStart notEnd, running]
      obtain ⟨meanwhile, outcome, rest, rfl, quiet⟩ := ih h settled still finished
      exact ⟨event :: meanwhile, outcome, rest, rfl, by simpa using ⟨⟨notStart, notEnd⟩, quiet⟩⟩

/-- After a load that gave a value, no load starts or ends, and the value is the answer. -/
theorem after_value (h : Lawful name i (before ++ .ends i (.ok value) :: after))
    {event : SlotEvent α} (later : event ∈ after) :
    event ≠ .starts i ∧ (∀ outcome, event ≠ .ends i outcome) ∧
      ∀ outcome state, event = .answers i outcome state →
        outcome = .ok value ∧ state = .resolved value := by
  obtain ⟨front, rest, rfl⟩ := List.append_of_mem later
  rw [← List.cons_append, ← List.append_assoc] at h
  obtain ⟨lawful, fits⟩ := h.fits
  have resolved : stateAfter i (before ++ .ends i (.ok value) :: front) = .resolved value :=
    lawful.stateAfter_eq_resolved_iff.2 (by simp)
  refine ⟨fun starts => ?_, fun outcome ends => ?_, fun outcome state answers => ?_⟩
  · simp [fits.starts starts] at resolved
  · simp [fits.ends outcome ends] at resolved
  · subst answers
    exact fits.answer_of_resolved resolved

end Lawful

end Componentry
