import RpcRace.Library.Run

/-!
# The event loop

The model of `event_loop.c`: the map from descriptor numbers to callbacks, the
part of the kernel that hands these numbers out and watches them, and the loop
that runs the callbacks of a batch of events.

A callback may do anything to the loop and to its descriptors, so an event
carries the list of what its callback does if it is invoked.  Registrations
are numbered in the order they are made, and `calls` and `invoked` record,
newest first, what has been registered and removed and which callbacks have
run since `epoll_wait` returned; nothing in the loop reads them.

`event_loop_run` looks a number up again for every event.  A number that an
earlier callback of the batch has closed and that the kernel has handed out
anew therefore gets an event that was meant for the old descriptor, and
`deliversStanding_iff` says that this is the only way.

The checks for null pointers and negative descriptors reject calls that no
module makes.  They are left out, as are stall detection and the log clock.
-/

namespace RpcRace.EventLoop

open RpcRace.Library.Run

/-! ## Registrations -/

/-- The values of `cb`: a callback with its data, or the wrapper of a timer callback. -/
inductive EventCb (Handler : Type) where
  | handler (cb : Handler)
  | timerEventCb
deriving DecidableEq, Repr

/-- `fd_entry_t` without its key, and the number of the registration. -/
structure FdEntry (Handler : Type) where
  cb : EventCb Handler
  isTimer : Bool
  tcb : Option Handler
  serial : Nat
deriving DecidableEq, Repr

/-- A change of the map. -/
inductive Call where
  | registered (fd : Nat)
  | removed (fd serial : Nat)
deriving DecidableEq, Repr

/-- A callback that was invoked, with the changes the batch had made by then. -/
structure Invocation (Handler : Type) where
  fd : Nat
  entry : FdEntry Handler
  calls : List Call
deriving DecidableEq, Repr

/--
`struct event_loop` and what the kernel knows of its descriptors.

`fdMap` holds the entries under each key, with the one that `HASH_FIND_INT`
finds first; a second one is possible because `event_loop_add_timer` does not
look for one.  `watched` is the interest list of the epoll descriptor.
-/
structure Loop (Handler : Type) where
  running : Bool
  fdMap : Nat → List (FdEntry Handler)
  watched : Nat → Option UInt32
  opened : List Nat
  nextSerial : Nat
  calls : List Call
  invoked : List (Invocation Handler)

variable {Handler : Type}

/-- `event_loop_create`, after the standard streams: the epoll descriptor is number three. -/
def eventLoopCreate : Loop Handler where
  running := false
  fdMap _ := []
  watched _ := none
  opened := [0, 1, 2, 3]
  nextSerial := 0
  calls := []
  invoked := []

/-- `find_entry`. -/
def findEntry (loop : Loop Handler) (fd : Nat) : Option (FdEntry Handler) :=
  (loop.fdMap fd).head?

/-- The lowest number that is not open, which is the one the kernel hands out. -/
def lowestUnused (opened : List Nat) : Nat :=
  ((List.range (opened.length + 1)).find? fun fd => fd ∉ opened).getD 0

theorem lowestUnused_notMem (opened : List Nat) : lowestUnused opened ∉ opened := by
  -- of one number more than are open, one is not open
  have unused : ((List.range (opened.length + 1)).find? fun fd => fd ∉ opened).isSome = true := by
    by_contra none
    simp only [List.find?_isSome, not_exists, not_and, decide_eq_true_eq, not_not] at none
    have bound := (List.nodup_range.subperm fun fd member => none fd member).length_le
    rw [List.length_range] at bound
    omega
  rcases Option.isSome_iff_exists.mp unused with ⟨fd, found⟩
  have notMem := List.find?_some found
  rw [lowestUnused, found]
  simpa using notMem

/-- `epoll_ctl(EPOLL_CTL_ADD)` and `HASH_ADD_INT` of a new entry. -/
def Loop.insert (loop : Loop Handler) (fd : Nat) (events : UInt32) (cb : EventCb Handler)
    (isTimer : Bool) (tcb : Option Handler) : Loop Handler :=
  { loop with
    fdMap := Function.update loop.fdMap fd (⟨cb, isTimer, tcb, loop.nextSerial⟩ :: loop.fdMap fd)
    watched := Function.update loop.watched fd (some events)
    nextSerial := loop.nextSerial + 1
    calls := .registered fd :: loop.calls }

/-- `event_loop_add_fd`; `accepted` says that the kernel has memory for it. -/
def eventLoopAddFd (loop : Loop Handler) (fd : Nat) (events : UInt32) (cb : Handler)
    (accepted : Bool) : Loop Handler :=
  if findEntry loop fd ≠ none then loop
  else if accepted ∧ fd ∈ loop.opened ∧ loop.watched fd = none then
    loop.insert fd events (.handler cb) false none
  else loop

/-- `event_loop_mod_fd`. -/
def eventLoopModFd (loop : Loop Handler) (fd : Nat) (events : UInt32) : Loop Handler :=
  if findEntry loop fd = none ∨ loop.watched fd = none then loop
  else { loop with watched := Function.update loop.watched fd (some events) }

/-- `event_loop_del_fd`. -/
def eventLoopDelFd (loop : Loop Handler) (fd : Nat) : Loop Handler :=
  match findEntry loop fd with
  | none => loop
  | some entry =>
      { loop with
        fdMap := Function.update loop.fdMap fd (loop.fdMap fd).tail
        watched := Function.update loop.watched fd none
        calls := .removed fd entry.serial :: loop.calls }

/-- `EPOLLIN`. -/
def epollIn : UInt32 := 1

/-- `event_loop_add_timer`; `created` says that its system calls succeed. -/
def eventLoopAddTimer (loop : Loop Handler) (ms : Nat) (cb : Handler) (created : Bool) :
    Loop Handler :=
  if ms = 0 ∨ created = false then loop
  else
    let fd := lowestUnused loop.opened
    { loop with opened := fd :: loop.opened }.insert fd epollIn .timerEventCb true (some cb)

/-! ## Callbacks -/

/-- What a callback can do to the loop and to descriptors. -/
inductive Action (Handler : Type) where
  | addFd (fd : Nat) (events : UInt32) (cb : Handler) (accepted : Bool)
  | modFd (fd : Nat) (events : UInt32)
  | delFd (fd : Nat)
  | addTimer (ms : Nat) (cb : Handler) (created : Bool)
  /-- `socket`, `accept4` or `timerfd_create`. -/
  | open_
  /-- `close`, by which the kernel also stops watching the descriptor. -/
  | close (fd : Nat)
  /-- `event_loop_stop`. -/
  | stop
deriving DecidableEq, Repr

/-- Carry one action out. -/
def act (loop : Loop Handler) : Action Handler → Loop Handler
  | .addFd fd events cb accepted => eventLoopAddFd loop fd events cb accepted
  | .modFd fd events => eventLoopModFd loop fd events
  | .delFd fd => eventLoopDelFd loop fd
  | .addTimer ms cb created => eventLoopAddTimer loop ms cb created
  | .open_ => { loop with opened := lowestUnused loop.opened :: loop.opened }
  | .close fd =>
      { loop with
        opened := loop.opened.filter (· ≠ fd)
        watched := Function.update loop.watched fd none }
  | .stop => { loop with running := false }

/-- An event that `epoll_wait` reports, and what its callback does if it is invoked. -/
structure Reported (Handler : Type) where
  fd : Nat
  events : UInt32
  acts : List (Action Handler)
deriving DecidableEq, Repr

/-- Invoke the callback of an entry. -/
def Loop.invoke (loop : Loop Handler) (fd : Nat) (entry : FdEntry Handler) : Loop Handler :=
  { loop with invoked := ⟨fd, entry, loop.calls⟩ :: loop.invoked }

/-- `timer_event_cb`: look the timer up again and run its callback. -/
def timerEventCb (loop : Loop Handler) (fd : Nat) (acts : List (Action Handler)) : Loop Handler :=
  match findEntry loop fd with
  | none => loop
  | some entry =>
      if entry.isTimer ∧ entry.tcb ≠ none then run act (loop.invoke fd entry) acts else loop

/-- The body of the loop of `event_loop_run` over a batch. -/
def dispatchEvent (loop : Loop Handler) (event : Reported Handler) : Loop Handler :=
  match findEntry loop event.fd with
  | none => loop
  | some entry =>
      match entry.cb with
      | .handler _ => run act (loop.invoke event.fd entry) event.acts
      | .timerEventCb => timerEventCb (loop.invoke event.fd entry) event.fd event.acts

/-- The loop when `epoll_wait` has just returned. -/
def Loop.returned (loop : Loop Handler) : Loop Handler :=
  { loop with calls := [], invoked := [] }

/-- How `epoll_wait` returns. -/
inductive Wait (Handler : Type) where
  | interrupted
  | failed
  | batch (events : List (Reported Handler))

/-- One iteration of `event_loop_run`; it ends when `running` is cleared or the wait fails. -/
def iterate (loop : Loop Handler) (wait : Wait Handler) : Loop Handler :=
  if loop.running then
    match wait with
    | .interrupted => loop
    | .failed => { loop with running := false }
    | .batch events => run dispatchEvent loop.returned events
  else loop

/-- `event_loop_run` after the modules have made their registrations. -/
def eventLoopRun (setup : List (Action Handler)) (waits : List (Wait Handler)) : Loop Handler :=
  run iterate { run act eventLoopCreate setup with running := true } waits

/-- `MAX_EVENTS`. -/
def maxEvents : Nat := 64

/-- A batch that `epoll_wait` can return: distinct descriptors that are watched. -/
def Returns (loop : Loop Handler) (batch : List (Reported Handler)) : Prop :=
  batch.length ≤ maxEvents ∧ (batch.map Reported.fd).Nodup ∧
    ∀ event ∈ batch, loop.watched event.fd ≠ none

instance (loop : Loop Handler) (batch : List (Reported Handler)) :
    Decidable (Returns loop batch) :=
  inferInstanceAs (Decidable (_ ∧ _ ∧ _))

/-! ## Standing registrations -/

/--
The callback belongs to a registration that was in the map when `epoll_wait`
returned, and that no callback of the batch had removed.
-/
def Standing (start : Loop Handler) (invocation : Invocation Handler) : Prop :=
  invocation.entry ∈ start.fdMap invocation.fd ∧
    .removed invocation.fd invocation.entry.serial ∉ invocation.calls

instance [DecidableEq Handler] (start : Loop Handler) (invocation : Invocation Handler) :
    Decidable (Standing start invocation) :=
  inferInstanceAs (Decidable (_ ∧ _))

/-- How many registrations of a number have been made and not removed again. -/
def pendingFor (fd : Nat) : List Call → Nat
  | [] => 0
  | .registered key :: past => if key = fd then pendingFor fd past + 1 else pendingFor fd past
  | .removed key _ :: past => if key = fd then pendingFor fd past - 1 else pendingFor fd past

/-- No registration of the number was made by a callback of this batch and is still there. -/
def Unreused (loop : Loop Handler) (event : Reported Handler) : Prop :=
  pendingFor event.fd loop.calls = 0

/-- Registrations are numbered upwards, and the newest one is found. -/
structure Numbered (loop : Loop Handler) : Prop where
  below : ∀ fd, ∀ entry ∈ loop.fdMap fd, entry.serial < loop.nextSerial
  sorted : ∀ fd, (loop.fdMap fd).Pairwise fun newer older => older.serial < newer.serial

/-! ## What an action does to the map -/

/-- The changes of the map that actions make. -/
inductive MapMove (loop result : Loop Handler) : Prop where
  | kept (map_eq : result.fdMap = loop.fdMap) (calls_eq : result.calls = loop.calls)
      (next_eq : result.nextSerial = loop.nextSerial)
  | registered (fd : Nat) (entry : FdEntry Handler) (newest : entry.serial = loop.nextSerial)
      (map_eq : result.fdMap = Function.update loop.fdMap fd (entry :: loop.fdMap fd))
      (calls_eq : result.calls = .registered fd :: loop.calls)
      (next_eq : result.nextSerial = loop.nextSerial + 1)
  | removed (fd : Nat) (entry : FdEntry Handler) (rest : List (FdEntry Handler))
      (was : loop.fdMap fd = entry :: rest)
      (map_eq : result.fdMap = Function.update loop.fdMap fd rest)
      (calls_eq : result.calls = .removed fd entry.serial :: loop.calls)
      (next_eq : result.nextSerial = loop.nextSerial)

theorem act_mapMove (loop : Loop Handler) (action : Action Handler) :
    MapMove loop (act loop action) := by
  cases action with
  | addFd fd events cb accepted =>
      simp only [act, eventLoopAddFd]
      split_ifs
      · exact .kept rfl rfl rfl
      · exact .registered fd ⟨.handler cb, false, none, loop.nextSerial⟩ rfl rfl rfl rfl
      · exact .kept rfl rfl rfl
  | modFd fd events =>
      simp only [act, eventLoopModFd]
      split_ifs
      · exact .kept rfl rfl rfl
      · exact .kept rfl rfl rfl
  | delFd fd =>
      simp only [act, eventLoopDelFd, findEntry]
      cases entries : loop.fdMap fd with
      | nil => exact .kept rfl rfl rfl
      | cons entry rest => exact .removed fd entry rest entries (by simp) rfl rfl
  | addTimer ms cb created =>
      simp only [act, eventLoopAddTimer]
      split_ifs
      · exact .kept rfl rfl rfl
      · exact .registered _ ⟨.timerEventCb, true, some cb, loop.nextSerial⟩ rfl rfl rfl rfl
  | open_ => exact .kept rfl rfl rfl
  | close fd => exact .kept rfl rfl rfl
  | stop => exact .kept rfl rfl rfl

/-- The descriptor that an action is about. -/
def touched (loop : Loop Handler) : Action Handler → Option Nat
  | .addFd fd _ _ _ => some fd
  | .modFd fd _ => some fd
  | .delFd fd => some fd
  | .addTimer _ _ _ => some (lowestUnused loop.opened)
  | .open_ => some (lowestUnused loop.opened)
  | .close fd => some fd
  | .stop => none

/-- Nothing changes for this descriptor. -/
structure Untouched (before after : Loop Handler) (fd : Nat) : Prop where
  map_eq : after.fdMap fd = before.fdMap fd
  watched_eq : after.watched fd = before.watched fd
  opened_iff : fd ∈ after.opened ↔ fd ∈ before.opened

theorem Untouched.refl (loop : Loop Handler) (fd : Nat) : Untouched loop loop fd :=
  ⟨rfl, rfl, Iff.rfl⟩

theorem Untouched.trans {first second third : Loop Handler} {fd : Nat}
    (before : Untouched first second fd) (after : Untouched second third fd) :
    Untouched first third fd :=
  ⟨after.map_eq.trans before.map_eq, after.watched_eq.trans before.watched_eq,
    after.opened_iff.trans before.opened_iff⟩

/-- An action leaves every other descriptor alone. -/
theorem act_untouched (loop : Loop Handler) (action : Action Handler) {fd : Nat}
    (apart : touched loop action ≠ some fd) :
    Untouched loop (act loop action) fd := by
  cases action with
  | addFd other events cb accepted =>
      have different : fd ≠ other := fun same => apart (congrArg some same.symm)
      simp only [act, eventLoopAddFd]
      split_ifs
      · exact .refl loop fd
      · exact ⟨Function.update_of_ne different _ _, Function.update_of_ne different _ _, Iff.rfl⟩
      · exact .refl loop fd
  | modFd other events =>
      have different : fd ≠ other := fun same => apart (congrArg some same.symm)
      simp only [act, eventLoopModFd]
      split_ifs
      · exact .refl loop fd
      · exact ⟨rfl, Function.update_of_ne different _ _, Iff.rfl⟩
  | delFd other =>
      have different : fd ≠ other := fun same => apart (congrArg some same.symm)
      simp only [act, eventLoopDelFd]
      cases findEntry loop other with
      | none => exact .refl loop fd
      | some entry =>
          exact ⟨Function.update_of_ne different _ _, Function.update_of_ne different _ _,
            Iff.rfl⟩
  | addTimer ms cb created =>
      have different : fd ≠ lowestUnused loop.opened :=
        fun same => apart (congrArg some same.symm)
      simp only [act, eventLoopAddTimer]
      split_ifs
      · exact .refl loop fd
      · exact ⟨Function.update_of_ne different _ _, Function.update_of_ne different _ _,
          by simp [Loop.insert, different]⟩
  | open_ =>
      have different : fd ≠ lowestUnused loop.opened :=
        fun same => apart (congrArg some same.symm)
      exact ⟨rfl, rfl, by simp [act, different]⟩
  | close other =>
      have different : fd ≠ other := fun same => apart (congrArg some same.symm)
      exact ⟨rfl, Function.update_of_ne different _ _, by simp [act, different]⟩
  | stop => exact ⟨rfl, rfl, Iff.rfl⟩

/-- No action invokes a callback. -/
theorem act_invoked (loop : Loop Handler) (action : Action Handler) :
    (act loop action).invoked = loop.invoked := by
  cases action with
  | addFd fd events cb accepted =>
      simp only [act, eventLoopAddFd]
      split_ifs <;> rfl
  | modFd fd events =>
      simp only [act, eventLoopModFd]
      split_ifs <;> rfl
  | delFd fd =>
      simp only [act, eventLoopDelFd]
      split <;> rfl
  | addTimer ms cb created =>
      simp only [act, eventLoopAddTimer]
      split_ifs <;> rfl
  | _ => rfl

theorem run_act_invoked (loop : Loop Handler) (acts : List (Action Handler)) :
    (run act loop acts).invoked = loop.invoked := by
  induction acts generalizing loop with
  | nil => rfl
  | cons action rest induction => exact (induction _).trans (act_invoked loop action)

/-! ## Numbering -/

theorem MapMove.numbered {loop result : Loop Handler} (move : MapMove loop result)
    (numbered : Numbered loop) :
    Numbered result := by
  cases move with
  | kept map_eq calls_eq next_eq =>
      constructor
      · rw [map_eq, next_eq]
        exact numbered.below
      · rw [map_eq]
        exact numbered.sorted
  | registered fd entry newest map_eq calls_eq next_eq =>
      constructor
      · intro key other member
        rw [map_eq, Function.update_apply] at member
        rw [next_eq]
        split_ifs at member
        · rcases List.mem_cons.mp member with rfl | member
          · omega
          · exact Nat.lt_succ_of_lt (numbered.below _ _ member)
        · exact Nat.lt_succ_of_lt (numbered.below _ _ member)
      · intro key
        rw [map_eq, Function.update_apply]
        split_ifs
        · refine List.pairwise_cons.mpr ⟨fun other member => ?_, numbered.sorted fd⟩
          rw [newest]
          exact numbered.below fd other member
        · exact numbered.sorted key
  | removed fd entry rest was map_eq calls_eq next_eq =>
      have below := numbered.below fd
      have sorted := numbered.sorted fd
      rw [was] at below sorted
      constructor
      · intro key other member
        rw [map_eq, Function.update_apply] at member
        rw [next_eq]
        split_ifs at member
        · exact below other (List.mem_cons_of_mem _ member)
        · exact numbered.below _ _ member
      · intro key
        rw [map_eq, Function.update_apply]
        split_ifs
        · exact (List.pairwise_cons.mp sorted).2
        · exact numbered.sorted key

theorem numbered_act (loop : Loop Handler) (action : Action Handler) (numbered : Numbered loop) :
    Numbered (act loop action) :=
  (act_mapMove loop action).numbered numbered

/-- An event invokes the callback found for its number, or nothing. -/
theorem dispatchEvent_cases (loop : Loop Handler) (event : Reported Handler) :
    findEntry loop event.fd = none ∧ dispatchEvent loop event = loop ∨
      ∃ entry more acts, findEntry loop event.fd = some entry ∧
        (∀ invocation ∈ more, invocation = ⟨event.fd, entry, loop.calls⟩) ∧ more ≠ [] ∧
        dispatchEvent loop event =
          run act { loop with invoked := more ++ loop.invoked } acts := by
  unfold dispatchEvent
  cases found : findEntry loop event.fd with
  | none => exact Or.inl ⟨rfl, rfl⟩
  | some entry =>
      refine Or.inr ?_
      dsimp only
      cases entry.cb with
      | handler cb =>
          exact ⟨entry, [⟨event.fd, entry, loop.calls⟩], event.acts, rfl, by simp, by simp, rfl⟩
      | timerEventCb =>
          dsimp only [timerEventCb]
          rw [show findEntry (loop.invoke event.fd entry) event.fd = some entry from found]
          dsimp only
          split_ifs
          · exact ⟨entry, [⟨event.fd, entry, loop.calls⟩, ⟨event.fd, entry, loop.calls⟩],
              event.acts, rfl, by simp, by simp, rfl⟩
          · exact ⟨entry, [⟨event.fd, entry, loop.calls⟩], [], rfl, by simp, by simp, rfl⟩

/-- An invariant of the map that actions keep is kept by a dispatched event. -/
theorem dispatchEvent_invariant {invariant : Loop Handler → Prop}
    (keep : ∀ loop action, invariant loop → invariant (act loop action))
    (silent : ∀ loop invoked, invariant loop → invariant { loop with invoked := invoked })
    (loop : Loop Handler) (event : Reported Handler) (start : invariant loop) :
    invariant (dispatchEvent loop event) := by
  rcases dispatchEvent_cases loop event with ⟨-, same⟩ | ⟨entry, more, acts, -, -, -, dispatched⟩
  · rw [same]
    exact start
  · rw [dispatched]
    exact run_invariant keep (silent loop _ start) acts

theorem numbered_dispatchEvent (loop : Loop Handler) (event : Reported Handler)
    (numbered : Numbered loop) :
    Numbered (dispatchEvent loop event) :=
  dispatchEvent_invariant numbered_act (fun _ _ numbered => ⟨numbered.below, numbered.sorted⟩)
    loop event numbered

theorem numbered_iterate (loop : Loop Handler) (wait : Wait Handler) (numbered : Numbered loop) :
    Numbered (iterate loop wait) := by
  unfold iterate
  split_ifs
  · cases wait with
    | interrupted => exact numbered
    | failed => exact ⟨numbered.below, numbered.sorted⟩
    | batch events =>
        have returned : Numbered loop.returned := ⟨numbered.below, numbered.sorted⟩
        exact run_invariant numbered_dispatchEvent returned events
  · exact numbered

theorem numbered_eventLoopRun (setup : List (Action Handler)) (waits : List (Wait Handler)) :
    Numbered (eventLoopRun setup waits) := by
  have created : Numbered (eventLoopCreate : Loop Handler) :=
    ⟨fun _ _ member => absurd member List.not_mem_nil, fun _ => List.Pairwise.nil⟩
  have prepared := run_invariant numbered_act created setup
  have started : Numbered { run act eventLoopCreate setup with running := true } :=
    ⟨prepared.below, prepared.sorted⟩
  exact run_invariant numbered_iterate started waits

/-! ## A batch -/

/-- The entries of one number: those the batch has added, before what is left of the others. -/
structure Layered (start loop : Loop Handler) (fd : Nat)
    (new old : List (FdEntry Handler)) : Prop where
  entries : loop.fdMap fd = new ++ old
  pending : new.length = pendingFor fd loop.calls
  later : ∀ entry ∈ new, start.nextSerial ≤ entry.serial
  earlier : old <:+ start.fdMap fd
  standing : ∀ entry ∈ old, .removed fd entry.serial ∉ loop.calls

/-- What a batch has made of the map so far. -/
structure Since (start loop : Loop Handler) : Prop where
  grown : start.nextSerial ≤ loop.nextSerial
  layers : ∀ fd, ∃ new old, Layered start loop fd new old

theorem since_returned (start : Loop Handler) : Since start start.returned where
  grown := le_rfl
  layers fd := ⟨[], start.fdMap fd, rfl, rfl, by simp, List.suffix_rfl, by simp [Loop.returned]⟩

section Layers

variable {start loop result : Loop Handler} {fd : Nat} {new old : List (FdEntry Handler)}

/-- A call that does not concern the number leaves its layers. -/
theorem Layered.of_same (layers : Layered start loop fd new old)
    (map_eq : result.fdMap fd = loop.fdMap fd)
    (pending_eq : pendingFor fd result.calls = pendingFor fd loop.calls)
    (calls : ∀ serial, .removed fd serial ∈ result.calls → .removed fd serial ∈ loop.calls) :
    Layered start result fd new old where
  entries := map_eq.trans layers.entries
  pending := layers.pending.trans pending_eq.symm
  later := layers.later
  earlier := layers.earlier
  standing entry member removed := layers.standing entry member (calls _ removed)

theorem Layered.registered (layers : Layered start loop fd new old) {entry : FdEntry Handler}
    (newest : start.nextSerial ≤ entry.serial)
    (map_eq : result.fdMap fd = entry :: loop.fdMap fd)
    (calls_eq : result.calls = .registered fd :: loop.calls) :
    Layered start result fd (entry :: new) old where
  entries := by
    rw [map_eq, layers.entries]
    rfl
  pending := by
    rw [calls_eq, pendingFor, if_pos rfl, ← layers.pending]
    rfl
  later := List.forall_mem_cons.mpr ⟨newest, layers.later⟩
  earlier := layers.earlier
  standing other member removed := by
    rw [calls_eq] at removed
    rcases List.mem_cons.mp removed with equal | removed
    · contradiction
    · exact layers.standing other member removed

/-- A removal takes the newest registration: one of the batch if there is one. -/
theorem Layered.removed (layers : Layered start loop fd new old) (numbered : Numbered start)
    {entry : FdEntry Handler} {rest : List (FdEntry Handler)}
    (was : loop.fdMap fd = entry :: rest) (map_eq : result.fdMap fd = rest)
    (calls_eq : result.calls = .removed fd entry.serial :: loop.calls) :
    ∃ new old, Layered start result fd new old := by
  have entries := was.symm.trans layers.entries
  have pending : pendingFor fd result.calls = new.length - 1 := by
    rw [calls_eq, pendingFor, if_pos rfl, layers.pending]
  have standing : ∀ other ∈ old, other.serial ≠ entry.serial →
      .removed fd other.serial ∉ result.calls := by
    intro other member different removed
    rw [calls_eq] at removed
    rcases List.mem_cons.mp removed with equal | removed
    · exact different (Call.removed.inj equal).2
    · exact layers.standing other member removed
  cases new with
  | cons head new =>
      rw [List.cons_append, List.cons.injEq] at entries
      rcases entries with ⟨rfl, rfl⟩
      refine ⟨new, old, map_eq, pending.symm, ?_, layers.earlier, ?_⟩
      · exact fun other member => layers.later other (List.mem_cons_of_mem _ member)
      · intro other member
        apply standing other member
        have before := numbered.below fd other (layers.earlier.subset member)
        have after := layers.later entry List.mem_cons_self
        omega
  | nil =>
      obtain rfl : entry :: rest = old := entries
      have sorted := (numbered.sorted fd).sublist layers.earlier.sublist
      refine ⟨[], rest, map_eq, pending.symm, by simp, ?_, ?_⟩
      · exact (List.suffix_cons entry rest).trans layers.earlier
      · intro other member
        apply standing other (List.mem_cons_of_mem _ member)
        have less := (List.pairwise_cons.mp sorted).1 other member
        omega

end Layers

theorem MapMove.since {start loop result : Loop Handler} (move : MapMove loop result)
    (numbered : Numbered start) (since : Since start loop) :
    Since start result := by
  cases move with
  | kept map_eq calls_eq next_eq =>
      refine ⟨le_of_le_of_eq since.grown next_eq.symm, fun key => ?_⟩
      rcases since.layers key with ⟨new, old, layers⟩
      exact ⟨new, old, layers.of_same (congrFun map_eq key) (by rw [calls_eq])
        (by simp [calls_eq])⟩
  | registered fd entry newest map_eq calls_eq next_eq =>
      refine ⟨by have := since.grown; omega, fun key => ?_⟩
      rcases since.layers key with ⟨new, old, layers⟩
      by_cases same : key = fd
      · subst same
        refine ⟨entry :: new, old, layers.registered ?_ ?_ calls_eq⟩
        · rw [newest]
          exact since.grown
        · rw [map_eq, Function.update_self]
      · refine ⟨new, old, layers.of_same ?_ ?_ ?_⟩
        · rw [map_eq, Function.update_of_ne same]
        · rw [calls_eq, pendingFor, if_neg (Ne.symm same)]
        · simp [calls_eq]
  | removed fd entry rest was map_eq calls_eq next_eq =>
      refine ⟨le_of_le_of_eq since.grown next_eq.symm, fun key => ?_⟩
      rcases since.layers key with ⟨new, old, layers⟩
      by_cases same : key = fd
      · subst same
        exact layers.removed numbered was (by rw [map_eq, Function.update_self]) calls_eq
      · refine ⟨new, old, layers.of_same ?_ ?_ ?_⟩
        · rw [map_eq, Function.update_of_ne same]
        · rw [calls_eq, pendingFor, if_neg (Ne.symm same)]
        · simp [calls_eq, same]

theorem since_act {start : Loop Handler} (numbered : Numbered start) (loop : Loop Handler)
    (action : Action Handler) (since : Since start loop) :
    Since start (act loop action) :=
  (act_mapMove loop action).since numbered since

theorem since_dispatchEvent {start : Loop Handler} (numbered : Numbered start)
    (loop : Loop Handler) (event : Reported Handler) (since : Since start loop) :
    Since start (dispatchEvent loop event) := by
  refine dispatchEvent_invariant (since_act numbered) ?_ loop event since
  intro loop invoked since
  refine ⟨since.grown, fun fd => ?_⟩
  rcases since.layers fd with ⟨new, old, layers⟩
  exact ⟨new, old, layers.entries, layers.pending, layers.later, layers.earlier, layers.standing⟩

/-- The entry found for a number stands exactly if the batch has not added it. -/
theorem Since.standing_iff {start loop : Loop Handler} (since : Since start loop)
    (numbered : Numbered start) {fd : Nat} {entry : FdEntry Handler}
    (found : findEntry loop fd = some entry) :
    Standing start ⟨fd, entry, loop.calls⟩ ↔ pendingFor fd loop.calls = 0 := by
  rcases since.layers fd with ⟨new, old, layers⟩
  rw [← layers.pending]
  rw [findEntry, layers.entries] at found
  cases new with
  | nil =>
      have member : entry ∈ old := List.mem_of_mem_head? found
      simp only [List.length_nil, iff_true]
      exact ⟨layers.earlier.subset member, layers.standing entry member⟩
  | cons head new =>
      obtain rfl : head = entry := Option.some.inj found
      simp only [List.length_cons, Nat.add_one_ne_zero, iff_false]
      rintro ⟨was, -⟩
      have old := numbered.below fd head was
      have new := layers.later head List.mem_cons_self
      omega

theorem Since.pending_of_unused {start loop : Loop Handler} (since : Since start loop) {fd : Nat}
    (unused : findEntry loop fd = none) :
    pendingFor fd loop.calls = 0 := by
  rcases since.layers fd with ⟨new, old, layers⟩
  have empty : loop.fdMap fd = [] := List.head?_eq_none_iff.mp unused
  rw [layers.entries, List.append_eq_nil_iff] at empty
  rw [← layers.pending, empty.1]
  rfl

/-- All callbacks invoked so far belong to standing registrations. -/
def AllStanding (start loop : Loop Handler) : Prop :=
  ∀ invocation ∈ loop.invoked, Standing start invocation

instance [DecidableEq Handler] (start loop : Loop Handler) : Decidable (AllStanding start loop) :=
  inferInstanceAs (Decidable (∀ _ ∈ _, _))

theorem allStanding_dispatchEvent_iff {start loop : Loop Handler} (since : Since start loop)
    (numbered : Numbered start) (event : Reported Handler) :
    AllStanding start (dispatchEvent loop event) ↔
      AllStanding start loop ∧ Unreused loop event := by
  rcases dispatchEvent_cases loop event with
    ⟨unused, same⟩ | ⟨entry, more, acts, found, alike, some_, dispatched⟩
  · rw [same]
    exact (and_iff_left (since.pending_of_unused unused)).symm
  · have standing := since.standing_iff numbered found
    rw [dispatched]
    unfold AllStanding
    rw [run_act_invoked, List.forall_mem_append]
    constructor
    · rintro ⟨new, old⟩
      rcases List.exists_mem_of_ne_nil more some_ with ⟨invocation, member⟩
      refine ⟨old, standing.mp ?_⟩
      rw [← alike invocation member]
      exact new invocation member
    · rintro ⟨old, unreused⟩
      refine ⟨fun invocation member => ?_, old⟩
      rw [alike invocation member]
      exact standing.mpr unreused

theorem allStanding_run_iff {start : Loop Handler} (numbered : Numbered start)
    (batch : List (Reported Handler)) (loop : Loop Handler) (since : Since start loop) :
    AllStanding start (run dispatchEvent loop batch) ↔
      AllStanding start loop ∧ Along dispatchEvent Unreused loop batch := by
  induction batch generalizing loop with
  | nil => simp [Along]
  | cons event rest induction =>
      rw [run_cons, induction _ (since_dispatchEvent numbered loop event since),
        allStanding_dispatchEvent_iff since numbered, and_assoc]
      rfl

/--
Whatever the callbacks of a batch do, all of them belong to registrations
that were there when `epoll_wait` returned and have not been removed since,
exactly if no event comes for a number that the batch has registered.
-/
theorem deliversStanding_iff (setup : List (Action Handler)) (waits : List (Wait Handler))
    (batch : List (Reported Handler)) :
    AllStanding (eventLoopRun setup waits)
        (run dispatchEvent (eventLoopRun setup waits).returned batch) ↔
      Along dispatchEvent Unreused (eventLoopRun setup waits).returned batch := by
  have numbered := numbered_eventLoopRun setup waits
  generalize eventLoopRun setup waits = start at numbered
  rw [allStanding_run_iff numbered batch start.returned (since_returned start)]
  apply and_iff_right
  intro invocation member
  exact absurd member List.not_mem_nil

/-! ## A number that is used again -/

/-- The callbacks of one connection pair. -/
inductive PairHandler where
  | rotationTimerCb
  | connEpollCb
deriving DecidableEq, Repr

/-- A rotation timer and a standby connection, with the numbers four and five. -/
def pairSetup : List (Action PairHandler) :=
  [.open_, .addFd 4 epollIn .rotationTimerCb true, .open_, .addFd 5 epollIn .connEpollCb true]

/-- The timer refreshes the standby while an event of the old connection waits in the batch. -/
def refreshBatch : List (Reported PairHandler) :=
  [⟨4, epollIn, [.delFd 5, .close 5, .open_, .addFd 5 epollIn .connEpollCb true]⟩,
    ⟨5, epollIn, []⟩]

/-- The event of the connection that was closed reaches the one that replaced it. -/
theorem refreshBatch_not_standing :
    Returns (eventLoopRun pairSetup []) refreshBatch ∧
      ¬ AllStanding (eventLoopRun pairSetup [])
        (run dispatchEvent (eventLoopRun pairSetup []).returned refreshBatch) := by
  decide +kernel

end RpcRace.EventLoop
