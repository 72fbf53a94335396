import Componentry.Proofs.SlotHistories
import Componentry.Proofs.Slots

/-!
# Programs that resolve slots

A program resolves slots one after the other, by loads that are programs again, and goes on by what
it has been answered and by all that has happened; so a load may resolve its own slot at any depth,
and may catch the faults of what it resolves or let them pass. What happens to the slots meanwhile
is noted.

The notes of every program are lawful, for each slot: this holds of a call if it holds of its load,
and so of every program. Hence a slot is loaded by one load at a time, a load that resolves its own
slot fails there as a cycle, and the slot is resolved for good by the first load that gives a value.
-/

namespace Componentry

variable {α : Type}

/-- The outcome of an operation is had whether it gives a value or fails. -/
@[simp] theorem ends_observing {ε σ : Type} {x : EStateM ε σ α} {s : σ} {P : Except ε α → σ → Prop}
    {F : ε → σ → Prop} :
    Ends (observing x) s P F ↔ Ends x s (fun a t => P (.ok a) t) fun e t => P (.error e) t := by
  simp [observing]

/-- A slot has the state that was set, and all others have the one before. -/
theorem Slots.getElem?_setState (slots : Slots α) (slot : Nat) (state : Slot α) (i : Nat) :
    (slots.setState slot state).items[i]? =
      if slot = i then slots.items[i]?.map fun entry => (entry.1, state) else slots.items[i]? := by
  rw [Slots.setState, List.getElem?_modify]
  split
  · rfl
  · simp

/-- Slots, and what has happened to them. -/
structure Observed (α : Type) where
  slots : Slots α
  history : List (SlotEvent α)

namespace Observed

/-- The slots when one thing more has happened. -/
def note (o : Observed α) (event : SlotEvent α) : Observed α :=
  { o with history := o.history ++ [event] }

/-- The slots with one in another state. -/
def setState (o : Observed α) (slot : Nat) (state : Slot α) : Observed α :=
  { o with slots := o.slots.setState slot state }

/-- Slots of some names, to which nothing has happened. -/
def fresh (names : List String) : Observed α :=
  ⟨⟨names.map fun name => (name, .unresolved)⟩, []⟩

/-- Resolves a slot by a load, and notes what happens. -/
def resolve (slot : Nat)
    (load : EStateM Fault (Observed α) α) : EStateM Fault (Observed α) (Except Fault α) := do
  let o ← get
  modify (·.note (.calls slot (o.slots.state slot)))
  let outcome ← observing <|
    Slot.resolve (·.slots.state slot) (fun state => (·.setState slot state)) (o.slots.name slot) do
      modify (·.note (.starts slot))
      let outcome ← observing load
      modify (·.note (.ends slot outcome))
      MonadExcept.ofExcept outcome
  modify fun o => o.note (.answers slot outcome (o.slots.state slot))
  return outcome

end Observed

/-- A program that resolves slots. -/
inductive Program (α : Type) where
  /-- Gives a value, or fails. -/
  | done (outcome : Except Fault α)
  /-- Resolves a slot by a load, and goes on by the outcome and by all that has happened. -/
  | resolve (slot : Nat) (load : Program α) (next : Except Fault α → List (SlotEvent α) → Program α)

namespace Program

/-- Runs a program. -/
def run : Program α → EStateM Fault (Observed α) α
  | .done outcome => MonadExcept.ofExcept outcome
  | .resolve slot load next => do
    let outcome ← Observed.resolve slot load.run
    (next outcome (← get).history).run

/-- What happens to slots of some names while a program runs. -/
def history (names : List String) (program : Program α) : List (SlotEvent α) :=
  match program.run (.fresh names) with
  | .ok _ o => o.history
  | .error _ o => o.history

end Program

namespace Observed

section Calls

variable {o : Observed α} {slot : Nat} {load : EStateM Fault (Observed α) α}
  {P : Except Fault α → Observed α → Prop} {F : Fault → Observed α → Prop}

/-- The slots when a load has started. -/
def opened (o : Observed α) (slot : Nat) : Observed α :=
  ((o.note (.calls slot .unresolved)).setState slot .resolving).note (.starts slot)

/-- The slots when a load has ended and its call is answered. -/
def closed (o : Observed α) (slot : Nat) (outcome : Except Fault α) : Observed α :=
  let o := (o.note (.ends slot outcome)).setState slot (.ofOutcome outcome)
  o.note (.answers slot outcome (o.slots.state slot))

/-- How a slot is resolved, by the state that it has. -/
theorem ends_resolve : Ends (resolve slot load) o P F ↔
    match o.slots.state slot with
    | .resolved value =>
      P (.ok value) ((o.note (.calls slot (.resolved value))).note
        (.answers slot (.ok value) (.resolved value)))
    | .resolving =>
      P (.error (.importCycle (o.slots.name slot))) ((o.note (.calls slot .resolving)).note
        (.answers slot (.error (.importCycle (o.slots.name slot))) .resolving))
    | .unresolved =>
      Ends load (o.opened slot) (fun value p => P (.ok value) (p.closed slot (.ok value)))
        fun fault p => P (.error fault) (p.closed slot (.error fault)) := by
  have met : (o.note (.calls slot (o.slots.state slot))).slots.state slot = o.slots.state slot :=
    rfl
  simp only [resolve, Slot.ends_resolve, ends_bind, ends_get, ends_modify, ends_observing,
    ends_pure, met]
  cases o.slots.state slot <;> rfl

end Calls

/-- Whether the history is lawful for a slot, and tells its state. -/
structure Tracks (name : String) (i : Nat) (o : Observed α) : Prop where
  lawful : Lawful name i o.history
  settled : Settled name i o.history
  slot : o.slots.items[i]? = some (name, stateAfter i o.history)

/-- What programs may do to a slot: they keep its history lawful, and leave its state as it is
unless they resolve it. -/
def tracking (name : String) (i : Nat) : Effect Fault (Observed α) where
  holds o := o.Tracks name i
  change o p := stateAfter i p.history = stateAfter i o.history ∨
    stateAfter i o.history = .unresolved ∧ ∃ value, stateAfter i p.history = .resolved value
  fault _ := True
  refl _ := .inl rfl
  trans first second := by
    rcases first with kept | ⟨unresolved, value, resolved⟩
    · rwa [kept] at second
    · simp only [resolved, reduceCtorEq, false_and, or_false] at second
      exact .inr ⟨unresolved, value, second⟩

namespace Tracks

variable {name : String} {i slot : Nat} {o : Observed α} {state : Slot α} {outcome : Except Fault α}

/-- The state of a slot that is tracked is the one after its history. -/
theorem state_eq (h : o.Tracks name i) : o.slots.state i = stateAfter i o.history := by
  simp [Slots.state, h.slot]

/-- A slot that is tracked has its name. -/
theorem name_eq (h : o.Tracks name i) : o.slots.name i = name := by
  simp [Slots.name, h.slot]

section Own

/-- A call and what follows it at once. -/
theorem lawful_called (h : o.Tracks name i) (met : stateAfter i o.history = state) :
    Lawful name i (o.history ++ [.calls i state] ++ [.response name i state]) := by
  apply lawful_concat.2
  constructor
  · exact lawful_concat.2 ⟨h.lawful, fits_calls h.settled met⟩
  · exact fits_response met

/-- A call that is answered at once leaves the slot as it is. -/
theorem answered (h : o.Tracks name i) (met : stateAfter i o.history = state)
    (answers : .answers i outcome state = SlotEvent.response name i state) :
    ((o.note (.calls i state)).note (.answers i outcome state)).Tracks name i ∧
      (tracking name i).change o ((o.note (.calls i state)).note (.answers i outcome state)) := by
  have kept : stateAfter i ((o.note (.calls i state)).note (.answers i outcome state)).history =
      stateAfter i o.history := by
    simp only [note, stateAfter_concat, SlotEvent.next]
  refine ⟨⟨answers ▸ h.lawful_called met, settled_concat.2 rfl, ?_⟩, .inl kept⟩
  rw [kept]
  exact h.slot

/-- A load starts. -/
theorem opened (h : o.Tracks name i) (unresolved : stateAfter i o.history = .unresolved) :
    (o.opened i).Tracks name i ∧ stateAfter i (o.opened i).history = .resolving := by
  have started : stateAfter i (o.opened i).history = .resolving := by
    simp only [Observed.opened, note, stateAfter_concat, SlotEvent.next, if_true]
  refine ⟨⟨h.lawful_called unresolved, settled_concat.2 rfl, ?_⟩, started⟩
  rw [started]
  simp only [Observed.opened, note, setState, Slots.getElem?_setState, h.slot, if_true,
    Option.map_some]

/-- A load ends, and its call is answered. -/
theorem closed (h : o.Tracks name i) (resolving : stateAfter i o.history = .resolving)
    (outcome : Except Fault α) :
    (o.closed i outcome).Tracks name i ∧
      stateAfter i (o.closed i outcome).history = .ofOutcome outcome := by
  have written :
      (o.slots.setState i (.ofOutcome outcome)).items[i]? = some (name, .ofOutcome outcome) := by
    simp [Slots.getElem?_setState, h.slot]
  have left : stateAfter i (o.closed i outcome).history = .ofOutcome outcome := by
    simp only [Observed.closed, note, setState, stateAfter_concat, SlotEvent.next, if_true]
  refine ⟨⟨?_, settled_concat.2 rfl, ?_⟩, left⟩
  · simp only [Observed.closed, note, setState, Slots.state, written, Option.map_some,
      Option.getD_some]
    apply lawful_concat.2
    exact ⟨lawful_concat.2 ⟨h.lawful, fits_ends h.settled resolving outcome⟩, fits_answers outcome⟩
  · rw [left]
    exact written

end Own

section Other

/-- What happens to another slot. -/
theorem note_other (h : o.Tracks name i) (event : SlotEvent α) (other : event.slot ≠ i) :
    (o.note event).Tracks name i ∧ (tracking name i).change o (o.note event) := by
  have kept : stateAfter i (o.note event).history = stateAfter i o.history := by
    rw [note, stateAfter_concat, SlotEvent.next_of_slot_ne other]
  refine ⟨⟨?_, ?_, ?_⟩, .inl kept⟩
  · exact lawful_concat.2 ⟨h.lawful, fits_of_slot_ne h.settled other⟩
  · exact settled_concat.2 (SlotEvent.due_of_slot_ne other name)
  · rw [kept]
    exact h.slot

/-- A change of another slot leaves this one tracked. -/
theorem setState_other (h : o.Tracks name i) (other : slot ≠ i) (state : Slot α) :
    (o.setState slot state).Tracks name i where
  lawful := h.lawful
  settled := h.settled
  slot := by
    rw [setState, Slots.getElem?_setState, if_neg other]
    exact h.slot

/-- Two things happen to another slot. -/
theorem twice_other (h : o.Tracks name i) (first second : SlotEvent α) (hfirst : first.slot ≠ i)
    (hsecond : second.slot ≠ i) :
    ((o.note first).note second).Tracks name i ∧
      (tracking name i).change o ((o.note first).note second) := by
  obtain ⟨tracks, change⟩ := h.note_other first hfirst
  obtain ⟨tracks', change'⟩ := tracks.note_other second hsecond
  exact ⟨tracks', (tracking name i).trans change change'⟩

/-- Two things happen to another slot, and it is written between them. -/
theorem written_other (h : o.Tracks name i) (first second : SlotEvent α) (hfirst : first.slot ≠ i)
    (hsecond : second.slot ≠ i) (other : slot ≠ i) (state : Slot α) :
    (((o.note first).setState slot state).note second).Tracks name i ∧
      (tracking name i).change o (((o.note first).setState slot state).note second) := by
  obtain ⟨tracks, change⟩ := h.note_other first hfirst
  obtain ⟨tracks', change'⟩ := (tracks.setState_other other state).note_other second hsecond
  exact ⟨tracks', (tracking name i).trans change change'⟩

end Other

end Tracks

section Covers

variable {name : String} {i slot : Nat} {load : EStateM Fault (Observed α) α}

/-- A call of the slot keeps to what programs may do if its load does. -/
theorem covers_resolve_self (hload : (tracking name i).Covers load) :
    (tracking name i).Covers (resolve i load) := by
  intro o tracks
  have met := tracks.state_eq
  cases state : stateAfter i o.history with
  | resolved value =>
    rw [Effect.From, ends_resolve, met, state]
    exact tracks.answered state rfl
  | resolving =>
    rw [Effect.From, ends_resolve, met, state, tracks.name_eq]
    exact tracks.answered state rfl
  | unresolved =>
    obtain ⟨opened, started⟩ := tracks.opened state
    -- The load has left the slot resolving, whatever it has called.
    have closed (p : Observed α) (hp : p.Tracks name i)
        (change : (tracking name i).change (o.opened i) p) (outcome : Except Fault α) :
        (p.closed i outcome).Tracks name i ∧ (tracking name i).change o (p.closed i outcome) := by
      have resolving : stateAfter i p.history = .resolving := by
        rcases change with kept | ⟨unresolved, -⟩
        · rw [kept, started]
        · simp [started] at unresolved
      obtain ⟨closed, left⟩ := hp.closed resolving outcome
      refine ⟨closed, ?_⟩
      cases outcome with
      | ok value => exact .inr ⟨state, value, left⟩
      | error fault => exact .inl (left.trans state.symm)
    rw [Effect.From, ends_resolve, met, state]
    apply (hload _ opened).mono
    · intro value p ⟨hp, change⟩
      exact closed p hp change (.ok value)
    · intro fault p ⟨hp, change, _⟩
      exact closed p hp change (.error fault)

/-- So does a call of another slot. -/
theorem covers_resolve_other (other : slot ≠ i) (hload : (tracking name i).Covers load) :
    (tracking name i).Covers (resolve slot load) := by
  intro o tracks
  cases state : o.slots.state slot with
  | resolved value =>
    rw [Effect.From, ends_resolve, state]
    exact tracks.twice_other _ _ other other
  | resolving =>
    rw [Effect.From, ends_resolve, state]
    exact tracks.twice_other _ _ other other
  | unresolved =>
    obtain ⟨opened, change⟩ :=
      tracks.written_other (.calls slot .unresolved) (.starts slot) other other other .resolving
    rw [Effect.From, ends_resolve, state]
    apply ((hload _ opened).after change).mono
    · intro value p ⟨hp, change'⟩
      obtain ⟨closed, change''⟩ :=
        hp.written_other (.ends slot (.ok value)) (.answers slot (.ok value) _) other other other _
      exact ⟨closed, (tracking name i).trans change' change''⟩
    · intro fault p ⟨hp, change', _⟩
      obtain ⟨closed, change''⟩ :=
        hp.written_other (.ends slot (.error fault))
          (.answers slot (.error fault) _) other other other _
      exact ⟨closed, (tracking name i).trans change' change''⟩

end Covers

end Observed

namespace Program

/-- Every program tracks every slot. -/
theorem covers_run (name : String) (i : Nat) (program : Program α) :
    (Observed.tracking name i).Covers program.run := by
  induction program with
  | done outcome =>
    cases outcome with
    | ok value => exact Effect.covers_pure value
    | error fault => exact Effect.covers_throw trivial
  | resolve slot load next ihLoad ihNext =>
    have call : (Observed.tracking name i).Covers (Observed.resolve slot load.run) := by
      by_cases own : slot = i
      · subst own
        exact Observed.covers_resolve_self ihLoad
      · exact Observed.covers_resolve_other own ihLoad
    apply call.bind
    intro outcome
    apply Effect.covers_get_bind
    intro o tracks
    exact ihNext outcome o.history o tracks

section Fresh

variable {names : List String} {name : String} {i : Nat}

/-- A slot is tracked from the start. -/
theorem tracks_fresh (hi : names[i]? = some name) :
    (Observed.fresh names : Observed α).Tracks name i where
  lawful := lawful_nil name i
  settled := by simp [Settled, Observed.fresh]
  slot := by simp [Observed.fresh, hi, stateAfter]

/-- What happens to fresh slots is lawful, nothing is due at the end, and no load is left
running. -/
theorem lawful_history (hi : names[i]? = some name) (program : Program α) :
    Lawful name i (program.history names) ∧ Settled name i (program.history names) ∧
      stateAfter i (program.history names) ≠ .resolving := by
  have finished (o : Observed α) (change : (Observed.tracking name i).change (.fresh names) o) :
      stateAfter i o.history ≠ .resolving := by
    rcases change with kept | ⟨-, value, resolved⟩
    · rw [kept]
      simp [Observed.fresh, stateAfter]
    · simp [resolved]
  have ended := program.covers_run name i (.fresh names) (tracks_fresh hi)
  unfold history
  cases run : program.run (.fresh names) with
  | ok value o =>
    obtain ⟨tracks, change⟩ := ended.of_ok run
    exact ⟨tracks.lawful, tracks.settled, finished o change⟩
  | error fault o =>
    obtain ⟨tracks, change, -⟩ := ended.of_error run
    exact ⟨tracks.lawful, tracks.settled, finished o change⟩

/-- In every run of a program on fresh slots: a slot starts a load only when none of its loads runs
and none has given a value. A call while a load runs fails at once as a cycle and leaves the slot as
it is, a call after a load that gave a value is answered at once by that value, and any other call
runs a load and is answered by its outcome. After a load that gave a value no load starts or ends,
and the value is every answer. When no load runs, a call leaves the slot resolved if a load has
given a value, and unresolved otherwise, with the fault of its own load. -/
theorem single_load (hi : names[i]? = some name) (program : Program α) :
    (∀ before after, program.history names = before ++ .starts i :: after →
      loadsRunning i before = 0 ∧ ∀ value, .ends i (.ok value) ∉ before) ∧
    (∀ before state after, program.history names = before ++ .calls i state :: after →
      (0 < loadsRunning i before → state = .resolving ∧
        ∃ rest, after = .answers i (.error (.importCycle name)) state :: rest) ∧
      (∀ value, .ends i (.ok value) ∈ before → state = .resolved value ∧
        ∃ rest, after = .answers i (.ok value) state :: rest) ∧
      (loadsRunning i before = 0 → (∀ value, .ends i (.ok value) ∉ before) → state = .unresolved ∧
        ∃ meanwhile outcome rest, after = .starts i ::
            (meanwhile ++ .ends i outcome :: .answers i outcome (.ofOutcome outcome) :: rest) ∧
          ∀ event ∈ meanwhile, event ≠ .starts i ∧ ∀ outcome, event ≠ .ends i outcome)) ∧
    (∀ before value after, program.history names = before ++ .ends i (.ok value) :: after →
      ∀ event ∈ after, event ≠ .starts i ∧ (∀ outcome, event ≠ .ends i outcome) ∧
        ∀ outcome state, event = .answers i outcome state →
          outcome = .ok value ∧ state = .resolved value) ∧
    ∀ before outcome state after,
      program.history names = before ++ .answers i outcome state :: after →
      loadsRunning i before = 0 →
      (∀ value, .ends i (.ok value) ∈ before → outcome = .ok value ∧ state = .resolved value) ∧
      ((∀ value, .ends i (.ok value) ∉ before) → state = .unresolved ∧
        ∃ fault, outcome = .error fault ∧ before.getLast? = some (.ends i (.error fault))) := by
  obtain ⟨lawful, settled, finished⟩ := lawful_history hi program
  refine ⟨?_, ?_, ?_, ?_⟩
  · intro before after split
    obtain ⟨earlier, fits⟩ := (split ▸ lawful).fits
    exact earlier.stateAfter_eq_unresolved_iff.1 (fits.starts rfl)
  · intro before state after split
    rw [split] at lawful settled finished
    obtain ⟨earlier, fits⟩ := lawful.fits
    have met := fits.calls state rfl
    obtain ⟨rest, rfl⟩ := lawful.due_follows settled (if_pos rfl)
    refine ⟨fun running => ?_, fun value given => ?_, fun idle none => ?_⟩
    · obtain rfl := met.symm.trans (earlier.stateAfter_eq_resolving_iff.2 running)
      exact ⟨rfl, rest, rfl⟩
    · obtain rfl := met.symm.trans (earlier.stateAfter_eq_resolved_iff.2 given)
      exact ⟨rfl, rest, rfl⟩
    · obtain rfl := met.symm.trans (earlier.stateAfter_eq_unresolved_iff.2 ⟨idle, none⟩)
      have regroup :
          before ++ .calls i .unresolved :: SlotEvent.response name i .unresolved :: rest =
          before ++ [.calls i .unresolved] ++ [.starts i] ++ rest := by simp [SlotEvent.response]
      rw [regroup] at lawful settled finished
      have running :
          stateAfter i (before ++ [.calls i .unresolved] ++ [.starts i]) = .resolving := by
        rw [stateAfter_concat]
        exact if_pos rfl
      obtain ⟨meanwhile, outcome, rest, rfl, quiet⟩ := lawful.load_ends settled running finished
      exact ⟨rfl, meanwhile, outcome, rest, rfl, quiet⟩
  · intro before value after split event later
    exact (split ▸ lawful).after_value later
  · intro before outcome state after split idle
    obtain ⟨earlier, fits⟩ := (split ▸ lawful).fits
    constructor
    · intro value given
      exact fits.answer_of_resolved (earlier.stateAfter_eq_resolved_iff.2 given)
    · intro none
      exact fits.answer_of_unresolved (earlier.stateAfter_eq_unresolved_iff.2 ⟨idle, none⟩)

end Fresh

/-- A slot is resolved three times: by a load that resolves it within, resolves another slot and
fails, by one that resolves it within and gives a value, and by one that is not needed. -/
def retried : Program Nat :=
  .resolve 0 (.resolve 0 (.done (.ok 1)) fun _ _ => .resolve 1 (.done (.ok 5)) fun _ _ =>
    .done (.error (.packageUnavailable "not yet"))) fun _ _ =>
  .resolve 0 (.resolve 0 (.done (.ok 2)) fun _ _ => .done (.ok 7)) fun _ _ =>
  .resolve 0 (.done (.ok 9)) fun outcome _ => .done outcome

/-- What happens then: both calls within fail as cycles, the second load gives the value, and there
is no third one. -/
theorem single_load_retried :
    ["base", "std"][0]? = some "base" ∧
    retried.history ["base", "std"] =
      [.calls 0 .unresolved, .starts 0,
        .calls 0 .resolving, .answers 0 (.error (.importCycle "base")) .resolving,
        .calls 1 .unresolved, .starts 1, .ends 1 (.ok 5), .answers 1 (.ok 5) (.resolved 5),
        .ends 0 (.error (.packageUnavailable "not yet")),
          .answers 0 (.error (.packageUnavailable "not yet")) .unresolved,
        .calls 0 .unresolved, .starts 0,
        .calls 0 .resolving, .answers 0 (.error (.importCycle "base")) .resolving,
        .ends 0 (.ok 7), .answers 0 (.ok 7) (.resolved 7),
        .calls 0 (.resolved 7), .answers 0 (.ok 7) (.resolved 7)] ∧
    (∀ before after, retried.history ["base", "std"] = before ++ .starts 0 :: after →
      loadsRunning 0 before = 0) ∧
    ∀ before value after, retried.history ["base", "std"] = before ++ .ends 0 (.ok value) :: after →
      .starts 0 ∉ after := by
  have named : ["base", "std"][0]? = some "base" := rfl
  obtain ⟨starts, -, value, -⟩ := single_load named retried
  refine ⟨named, rfl, fun before after split => (starts before after split).1, ?_⟩
  intro before given after split again
  exact (value before given after split _ again).1 rfl

end Program

namespace Loader

/-- What a loader makes of the outcome of a resolution. -/
def rescued (rescue : Option (Fault → α)) : Except Fault α → Except Fault α
  | .ok v => .ok v
  | .error fault =>
    match rescue with
    | some turn => if fault.isModelFault then .ok (turn fault) else .error fault
    | none => .error fault

/-- The program of a loader. -/
def program : Loader α → Program α
  | .value v => .done (.ok v)
  | .fail fault => .done (.error fault)
  | .resolve slot loader rescue =>
    .resolve slot loader.program fun outcome _ => .done (rescued rescue outcome)

/-- A loader runs as the program of its resolution. -/
theorem run_resolve (slot : Nat) (loader : Loader α) (rescue : Option (Fault → α)) :
    (Loader.resolve slot loader rescue).run = (do
      let name := (← get).name slot
      let load := Slot.resolve (·.state slot) (fun state s => s.setState slot state) name loader.run
      tryCatch load fun fault => MonadExcept.ofExcept (rescued rescue (.error fault))) := by
  cases rescue with
  | none => rfl
  | some turn =>
    have handled : (fun fault => MonadExcept.ofExcept (rescued (some turn) (.error fault)) :
        Fault → EStateM Fault (Slots α) α) = fun fault =>
          if fault.isModelFault then pure (turn fault) else throw fault := by
      funext fault
      simp only [rescued]
      split <;> rfl
    rw [handled]
    rfl

/-- A loader ends as its program does, apart from the notes. -/
theorem ends_run_program (loader : Loader α) (o : Observed α) (P : α → Slots α → Prop)
    (F : Fault → Slots α → Prop) :
    Ends loader.program.run o (fun v p => P v p.slots) (fun fault p => F fault p.slots) ↔
      Ends loader.run o.slots P F := by
  induction loader generalizing o P F with
  | value v => rfl
  | fail fault => rfl
  | resolve slot loader rescue ih =>
    have forgets (outcome : Except Fault α) (p : Observed α) :
        Ends (MonadExcept.ofExcept outcome) p (fun v p => P v p.slots)
          (fun fault p => F fault p.slots) ↔ Ends (MonadExcept.ofExcept outcome) p.slots P F := by
      cases outcome <;> rfl
    simp only [program, Program.run, run_resolve, Observed.ends_resolve, Slot.ends_resolve,
      ends_bind, ends_get, ends_tryCatch, forgets]
    cases o.slots.state slot with
    | resolved value => rfl
    | resolving => rfl
    | unresolved =>
      exact ih (o.opened slot) (fun v s => P v (s.setState slot (.resolved v))) fun fault s =>
        Ends (MonadExcept.ofExcept (rescued rescue (.error fault)))
          (s.setState slot .unresolved) P F

end Loader

end Componentry
