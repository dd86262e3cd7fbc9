import Mathlib

/-!
# Runs of deterministic systems, and histories

A system is a function `step` from a state and an event to the next state; a
run is a list of events.  `Along` says that a condition on the state and the
event holds at every step of a run, `Throughout` that a property holds in
every state it reaches.  The rules below turn a one-step argument into a
result about whole runs.

A history is a list of past records, newest first.  `AtEach` says that every
record satisfies a property relative to the records before it.
-/

namespace RpcRace.Library.Run

universe u v

variable {State : Type u} {Event : Type v}

/-! ## Runs -/

/-- The state a list of events leads to. -/
def run (step : State → Event → State) (state : State) (events : List Event) : State :=
  events.foldl step state

/-- A condition that holds at every step, on the state before it and its event. -/
def Along (step : State → Event → State) (guard : State → Event → Prop) :
    State → List Event → Prop
  | _, [] => True
  | state, event :: rest => guard state event ∧ Along step guard (step state event) rest

/-- A property that holds in every state reached, the first and the last included. -/
def Throughout (step : State → Event → State) (property : State → Prop) :
    State → List Event → Prop
  | state, [] => property state
  | state, event :: rest => property state ∧ Throughout step property (step state event) rest

instance decidableAlong (step : State → Event → State) (guard : State → Event → Prop)
    [∀ state event, Decidable (guard state event)] :
    ∀ state events, Decidable (Along step guard state events)
  | _, [] => .isTrue trivial
  | state, event :: rest =>
      @instDecidableAnd _ _ inferInstance (decidableAlong step guard (step state event) rest)

variable {step : State → Event → State} {guard : State → Event → Prop}
variable {property invariant : State → Prop}

@[simp]
theorem run_nil (state : State) : run step state [] = state :=
  rfl

@[simp]
theorem run_cons (state : State) (event : Event) (rest : List Event) :
    run step state (event :: rest) = run step (step state event) rest :=
  rfl

theorem run_append (state : State) (first second : List Event) :
    run step state (first ++ second) = run step (run step state first) second :=
  List.foldl_append

theorem throughout_start {state : State} {events : List Event}
    (everywhere : Throughout step property state events) :
    property state := by
  cases events with
  | nil => exact everywhere
  | cons event rest => exact everywhere.1

theorem throughout_end {state : State} {events : List Event}
    (everywhere : Throughout step property state events) :
    property (run step state events) := by
  induction events generalizing state with
  | nil => exact everywhere
  | cons event rest induction => exact induction everywhere.2

theorem Throughout.mono {other : State → Prop} {state : State} {events : List Event}
    (weaken : ∀ state, property state → other state)
    (everywhere : Throughout step property state events) :
    Throughout step other state events := by
  induction events generalizing state with
  | nil => exact weaken state everywhere
  | cons event rest induction =>
      exact ⟨weaken state everywhere.1, induction everywhere.2⟩

theorem Along.and {other : State → Event → Prop} {state : State} {events : List Event}
    (first : Along step guard state events) (second : Along step other state events) :
    Along step (fun state event => guard state event ∧ other state event) state events := by
  induction events generalizing state with
  | nil => trivial
  | cons event rest induction =>
      exact ⟨⟨first.1, second.1⟩, induction first.2 second.2⟩

theorem along_append {state : State} {first second : List Event} :
    Along step guard state (first ++ second) ↔
      Along step guard state first ∧ Along step guard (run step state first) second := by
  induction first generalizing state with
  | nil => simp [Along]
  | cons event rest induction => simp [Along, induction, and_assoc]

/-- A condition along a run is the condition at each of its splits. -/
theorem along_iff {state : State} {events : List Event} :
    Along step guard state events ↔
      ∀ before event after, events = before ++ event :: after →
        guard (run step state before) event := by
  induction events generalizing state with
  | nil => simp [Along]
  | cons head rest induction =>
      constructor
      · rintro ⟨first, later⟩ before event after split
        cases before with
        | nil =>
            simp only [List.nil_append, List.cons.injEq] at split
            rcases split with ⟨rfl, -⟩
            exact first
        | cons other before =>
            simp only [List.cons_append, List.cons.injEq] at split
            rcases split with ⟨rfl, split⟩
            exact induction.mp later before event after split
      · intro everywhere
        refine ⟨everywhere [] head rest rfl, induction.mpr ?_⟩
        intro before event after split
        exact everywhere (head :: before) event after (by simp [split])

/-- A view that each step leaves alone or takes one step further runs along. -/
theorem run_simulates {View Move : Type*} {move : View → Move → View} (view : State → View)
    (simulates : ∀ state event, view (step state event) = view state ∨
      ∃ next, view (step state event) = move (view state) next)
    (state : State) (events : List Event) :
    ∃ moves, view (run step state events) = run move (view state) moves := by
  induction events generalizing state with
  | nil => exact ⟨[], rfl⟩
  | cons event rest induction =>
      rcases induction (step state event) with ⟨moves, later⟩
      rw [run_cons, later]
      rcases simulates state event with same | ⟨next, moved⟩
      · exact ⟨moves, by rw [same]⟩
      · exact ⟨next :: moves, by rw [moved, run_cons]⟩

/-! ## Invariant rules -/

/-- An invariant that every guarded step keeps holds throughout a guarded run. -/
theorem throughout_of_along
    (keep : ∀ state event, invariant state → guard state event →
      invariant (step state event))
    {state : State} {events : List Event} (start : invariant state)
    (along : Along step guard state events) :
    Throughout step invariant state events := by
  induction events generalizing state with
  | nil => exact start
  | cons event rest induction =>
      exact ⟨start, induction (keep state event start along.1) along.2⟩

/-- A condition that the invariant and the guard give holds at every step of a guarded run. -/
theorem along_of_along {other : State → Event → Prop}
    (keep : ∀ state event, invariant state → guard state event →
      invariant (step state event))
    (sound : ∀ state event, invariant state → guard state event → other state event)
    {state : State} {events : List Event} (start : invariant state)
    (along : Along step guard state events) :
    Along step other state events := by
  induction events generalizing state with
  | nil => trivial
  | cons event rest induction =>
      exact ⟨sound state event start along.1,
        induction (keep state event start along.1) along.2⟩

/-- An invariant that every step keeps holds throughout every run. -/
theorem throughout_of_step
    (keep : ∀ state event, invariant state → invariant (step state event))
    {state : State} (start : invariant state) (events : List Event) :
    Throughout step invariant state events := by
  induction events generalizing state with
  | nil => exact start
  | cons event rest induction => exact ⟨start, induction (keep state event start)⟩

/-- An invariant that every step keeps holds at the end of every run. -/
theorem run_invariant
    (keep : ∀ state event, invariant state → invariant (step state event))
    {state : State} (start : invariant state) (events : List Event) :
    invariant (run step state events) :=
  throughout_end (throughout_of_step keep start events)

/--
A guard is exact for a property when guarded steps keep an invariant that
gives the property, and a step that breaks the guard breaks the property.
-/
theorem throughout_iff_along
    (keep : ∀ state event, invariant state → guard state event →
      invariant (step state event))
    (sound : ∀ state, invariant state → property state)
    (exact_ : ∀ state event, invariant state → property (step state event) →
      guard state event)
    {state : State} (start : invariant state) (events : List Event) :
    Throughout step property state events ↔ Along step guard state events := by
  induction events generalizing state with
  | nil => exact ⟨fun _ => trivial, fun _ => sound state start⟩
  | cons event rest induction =>
      constructor
      · rintro ⟨-, later⟩
        have guarded := exact_ state event start (throughout_start later)
        exact ⟨guarded, (induction (keep state event start guarded)).mp later⟩
      · rintro ⟨guarded, later⟩
        exact ⟨sound state start,
          (induction (keep state event start guarded)).mpr later⟩

/-! ## Histories -/

variable {Record : Type u}

/-- Every record satisfies `property` relative to the history before it. -/
def AtEach (property : Record → List Record → Prop) : List Record → Prop
  | [] => True
  | record :: past => property record past ∧ AtEach property past

instance decidableAtEach (property : Record → List Record → Prop)
    [∀ record past, Decidable (property record past)] :
    ∀ history, Decidable (AtEach property history)
  | [] => .isTrue trivial
  | _ :: past =>
      @instDecidableAnd _ _ inferInstance (decidableAtEach property past)

@[simp]
theorem atEach_nil (property : Record → List Record → Prop) : AtEach property [] :=
  trivial

@[simp]
theorem atEach_cons (property : Record → List Record → Prop)
    (record : Record) (past : List Record) :
    AtEach property (record :: past) ↔ property record past ∧ AtEach property past :=
  Iff.rfl

/-- An earlier history is part of a later one. -/
theorem AtEach.of_append {property : Record → List Record → Prop} {added past : List Record}
    (each : AtEach property (added ++ past)) : AtEach property past := by
  induction added with
  | nil => exact each
  | cons record rest induction => exact induction each.2

/-- New records that satisfy a property whatever came before them extend a history. -/
theorem atEach_append {property : Record → List Record → Prop} {added past : List Record}
    (new : ∀ record ∈ added, ∀ past, property record past) (old : AtEach property past) :
    AtEach property (added ++ past) := by
  induction added with
  | nil => exact old
  | cons record rest induction =>
      exact ⟨new record List.mem_cons_self _,
        induction fun other member => new other (List.mem_cons_of_mem _ member)⟩

end RpcRace.Library.Run
