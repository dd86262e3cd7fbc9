import RpcRace.Outcomes

/-!
# Broadcasts

A `submitblock` or `sendrawtransaction` goes to every reachable node, and the
race is meant to wait for all of them.  `responses_pending` counts the nodes
that are still to answer, but nothing remembers which of them have answered:
a node that is done stays `CONN_RECEIVING` until the race ends, and more
bytes, or an end of the stream, count it again.  `unaborted_of_answersOnce`
says that the count is right as long as no node is heard again after it is
done.
-/

namespace RpcRace.Broadcast

open RpcRace.Library.CString
open RpcRace.Library.Run
open RpcRace.RpcConn
open RpcRace.JsonResponse
open RpcRace.RpcProxy
open RpcRace.Dispatch
open RpcRace.RaceMoves
open RpcRace.ProxyMoves
open RpcRace.SlotMoves
open RpcRace.Requests
open RpcRace.ClientMoves
open RpcRace.Outcomes

variable {n : Nat}

/-! ## The history of a race -/

/-- The request was sent on some connection of this node. -/
def startsNode (node : Fin n) : Effect n → Bool
  | .started other _ _ => other = node
  | _ => false

/-- The node delivered a complete response or failed for good. -/
def finishesNode (node : Fin n) : Effect n → Bool
  | .delivered other _ _ => other = node
  | .gaveUp other => other = node
  | _ => false

/-- The nodes that the request was sent to and that are not done. -/
def openNodes (history : List (Effect n)) : List (Fin n) :=
  (List.finRange n).filter fun node =>
    history.any (startsNode node) && !history.any (finishesNode node)

/-- The race is completed only when every node is done. -/
def CompletedLast (effect : Effect n) (past : List (Effect n)) : Prop :=
  match effect with
  | .raceCompleted => openNodes past = []
  | _ => True

instance (effect : Effect n) (past : List (Effect n)) :
    Decidable (CompletedLast effect past) :=
  match effect with
  | .raceCompleted => inferInstanceAs (Decidable (openNodes past = []))
  | .forwarded _ _ _ _ _ | .closeClient _ _ | .clientAccepted _ | .requestAccepted _ _ _ _
  | .started _ _ _ | .stickySent _ | .transferred _ _ _ _ | .refreshed _ _ _
  | .established _ _ | .delivered _ _ _ | .failed _ _ | .gaveUp _ | .stickySet _
  | .blockNotify | .timerStarted _ | .timerClosed _ | .timerExpired _ _ => .isTrue trivial

/--
`responses_pending` is the number of nodes that are not done, so each of them
counts once, and `race_complete` is not executed before all are done.
-/
structure Unaborted (proxy : Proxy n) : Prop where
  pending : proxy.race.state ≠ .idle →
    proxy.race.responsesPending = (openNodes (sinceRequest proxy.trace)).length
  complete : AtEach CompletedLast (sinceRequest proxy.trace)

instance (proxy : Proxy n) : Decidable (Unaborted proxy) :=
  decidable_of_iff
    ((proxy.race.state ≠ .idle →
        proxy.race.responsesPending = (openNodes (sinceRequest proxy.trace)).length) ∧
      AtEach CompletedLast (sinceRequest proxy.trace))
    ⟨fun both => ⟨both.1, both.2⟩, fun unaborted => ⟨unaborted.pending, unaborted.complete⟩⟩

/-- The effects that change the history of a race in a way that matters here. -/
def isCount : Effect n → Bool
  | .started _ _ _ => true
  | .delivered _ _ _ => true
  | .gaveUp _ => true
  | .raceCompleted => true
  | .requestAccepted _ _ _ _ => true
  | _ => false

theorem sinceRequest_append {added : List (Effect n)}
    (silent : ∀ effect ∈ added, isRequest effect = false) (trace : List (Effect n)) :
    sinceRequest (added ++ trace) = added ++ sinceRequest trace := by
  apply List.takeWhile_append_of_pos
  intro effect member
  simp [silent effect member]

theorem sinceRequest_cons {effect : Effect n} (silent : isRequest effect = false)
    (trace : List (Effect n)) :
    sinceRequest (effect :: trace) = effect :: sinceRequest trace :=
  List.takeWhile_cons_of_pos (by simp [silent])

section Uncounted

variable {added : List (Effect n)} (uncounted : ∀ effect ∈ added, isCount effect = false)

include uncounted

theorem openNodes_append (history : List (Effect n)) :
    openNodes (added ++ history) = openNodes history := by
  apply List.filter_congr
  intro node _
  have noStart : added.any (startsNode node) = false := by
    rw [List.any_eq_false]
    intro effect member
    have other := uncounted effect member
    cases effect with
    | started => simp [isCount] at other
    | _ => simp [startsNode]
  have noFinish : added.any (finishesNode node) = false := by
    rw [List.any_eq_false]
    intro effect member
    have other := uncounted effect member
    cases effect with
    | delivered => simp [isCount] at other
    | gaveUp => simp [isCount] at other
    | _ => simp [finishesNode]
  simp [noStart, noFinish]

theorem completed_append {history : List (Effect n)} (past : AtEach CompletedLast history) :
    AtEach CompletedLast (added ++ history) := by
  refine atEach_append ?_ past
  intro effect member past
  have other := uncounted effect member
  cases effect with
  | raceCompleted => simp [isCount] at other
  | _ => trivial

theorem sinceRequest_uncounted (trace : List (Effect n)) :
    sinceRequest (added ++ trace) = added ++ sinceRequest trace := by
  apply sinceRequest_append
  intro effect member
  have other := uncounted effect member
  cases effect with
  | requestAccepted => simp [isCount] at other
  | _ => rfl

end Uncounted

theorem mem_openNodes {history : List (Effect n)} {node : Fin n} :
    node ∈ openNodes history ↔
      history.any (startsNode node) = true ∧ history.any (finishesNode node) = false := by
  simp [openNodes]

theorem nodup_openNodes (history : List (Effect n)) : (openNodes history).Nodup :=
  (List.nodup_finRange n).filter _

/-- The effect by which one node, and no other, is done. -/
def Finishes (node : Fin n) (effect : Effect n) : Prop :=
  (∃ slot conn, effect = .delivered node slot conn) ∨ effect = .gaveUp node

theorem openNodes_finish {node : Fin n} {effect : Effect n} (finishes : Finishes node effect)
    (history : List (Effect n)) :
    openNodes (effect :: history) = (openNodes history).erase node := by
  rw [(nodup_openNodes history).erase_eq_filter]
  simp only [openNodes, List.filter_filter]
  apply List.filter_congr
  intro other _
  have starts : startsNode other effect = false := by
    rcases finishes with ⟨slot, conn, rfl⟩ | rfl <;> rfl
  have finish : finishesNode other effect = decide (node = other) := by
    rcases finishes with ⟨slot, conn, rfl⟩ | rfl <;> rfl
  rw [List.any_cons, List.any_cons, starts, finish]
  by_cases same : node = other
  · simp [same]
  · have different : other ≠ node := fun equal => same equal.symm
    simp [same, different]

theorem Finishes.isRequest_eq {node : Fin n} {effect : Effect n}
    (finishes : Finishes node effect) :
    isRequest effect = false := by
  rcases finishes with ⟨slot, conn, rfl⟩ | rfl <;> rfl

theorem Finishes.completedLast {node : Fin n} {effect : Effect n}
    (finishes : Finishes node effect) (past : List (Effect n)) :
    CompletedLast effect past := by
  rcases finishes with ⟨slot, conn, rfl⟩ | rfl <;> trivial

/-- A retry does not add a node. -/
theorem openNodes_restart {node : Fin n} {history : List (Effect n)}
    (started : history.any (startsNode node) = true) (slot : Fin 2) (len : Nat) :
    openNodes (.started node slot len :: history) = openNodes history := by
  apply List.filter_congr
  intro other _
  by_cases same : node = other
  · subst same
    simp [startsNode, finishesNode, started]
  · simp [startsNode, finishesNode, same]

/-! ## What one callback does to the count -/

/-- The callbacks during a broadcast, as seen by `responses_pending`. -/
inductive CountMove (proxy : Proxy n) (event : Event n) (result : Proxy n) : Prop where
  | kept (added : List (Effect n)) (trace : result.trace = added ++ proxy.trace)
      (uncounted : ∀ effect ∈ added, isCount effect = false)
      (pending_eq : result.race.responsesPending = proxy.race.responsesPending)
      (all_eq : result.race.allMustComplete = proxy.race.allMustComplete)
      (state_eq : result.race.state = proxy.race.state)
  | restarted (node : Fin n) (slot index : Fin 2) (len : Nat) (earlier : List (Effect n))
      (delivers : Delivers proxy event node slot)
      (trace : result.trace = .started node index len :: (earlier ++ proxy.trace))
      (uncounted : ∀ effect ∈ earlier, isCount effect = false)
      (pending_eq : result.race.responsesPending = proxy.race.responsesPending)
      (all_eq : result.race.allMustComplete = proxy.race.allMustComplete)
      (state_eq : result.race.state = proxy.race.state)
  | counted (node : Fin n) (slot : Fin 2) (later earlier : List (Effect n)) (effect : Effect n)
      (delivers : Delivers proxy event node slot) (finishes : Finishes node effect)
      (trace : result.trace = later ++ effect :: (earlier ++ proxy.trace))
      (uncountedLater : ∀ effect ∈ later, isCount effect = false)
      (uncountedEarlier : ∀ effect ∈ earlier, isCount effect = false)
      (pending_eq : result.race.responsesPending = proxy.race.responsesPending - 1)
      (all_eq : result.race.allMustComplete = proxy.race.allMustComplete)
      (state_eq : result.race.state = proxy.race.state)
  | completed (node : Fin n) (slot : Fin 2) (later earlier : List (Effect n))
      (effect : Effect n) (delivers : Delivers proxy event node slot)
      (finishes : Finishes node effect)
      (trace : result.trace = .raceCompleted :: (later ++ effect :: (earlier ++ proxy.trace)))
      (uncountedLater : ∀ effect ∈ later, isCount effect = false)
      (uncountedEarlier : ∀ effect ∈ earlier, isCount effect = false)
      (last : proxy.race.responsesPending ≤ 1) (idle : result.race.state = .idle)

theorem isCount_cancelEffects (proxy : Proxy n) :
    ∀ effect ∈ cancelEffects proxy, isCount effect = false :=
  forall_cancelEffects proxy fun _ => rfl

theorem ResponseMove.count {env : Env} {proxy : Proxy n} {node : Fin n} {slot : Fin 2}
    {chunk : Memory} {connEvent : ConnEvent} {results : List SendResult} {result : Proxy n}
    (move : ResponseMove env proxy node slot chunk results result)
    (out : connOutcome proxy node slot connEvent =
      some ⟨(proxy.slot node slot).absorb chunk, some .response, [], chunk⟩)
    (patient : (proxy.race.allMustComplete = true ∧ proxy.race.methodIs methodGbt = false) ∨
      responseIsError env.yyjsonRead ((proxy.slot node slot).absorb chunk) = true) :
    CountMove proxy (.conn node slot connEvent results) result := by
  have delivers : Delivers proxy (.conn node slot connEvent results) node slot :=
    ⟨⟨connEvent, results, rfl⟩, Or.inl (by simp [upcallOf, out])⟩
  have finishes : Finishes node
      (.delivered node slot ((proxy.slot node slot).absorb chunk)) :=
    Or.inl ⟨slot, _, rfl⟩
  have moved : ∀ effect ∈ [Effect.transferred node slot [] chunk], isCount effect = false := by
    simp [isCount]
  cases move with
  | counted race inIbd counting more unsent =>
      exact .counted node slot [] _ _ delivers finishes rfl (by simp) moved
        counting.pending_eq counting.all_eq counting.state_eq
  | broadcastWon race inIbd counting more all first valid =>
      exact .counted node slot [forwardEffect proxy node slot chunk inIbd results] _ _ delivers
        finishes (forwarded_trace_eq proxy node slot chunk race inIbd false results)
        (by simp [forwardEffect, isCount]) moved counting.pending_eq counting.all_eq
        counting.state_eq
  | won race inIbd stuck counting more single first valid =>
      simp [single, valid] at patient
  | ended race inIbd counting last won =>
      refine .completed node slot
        (cancelEffects (answered proxy node slot chunk race inIbd)) _ _ delivers finishes ?_
        (isCount_cancelEffects _) moved last.le (raceComplete_state _)
      rw [raceComplete_trace]
      rfl
  | settled race inIbd stuck counting last first =>
      obtain rfl : stuck = false := by
        rw [counting.stuck_eq, Race.isGbtRace]
        rcases patient with ⟨-, broadcast⟩ | error
        · rw [broadcast]
          rfl
        · rw [error]
          exact Bool.and_false _
      let sent := sendUpstreamResponseToClient
        (stick (answered proxy node slot chunk race inIbd) node false) node slot results
      refine .completed node slot
        (cancelEffects sent ++ [forwardEffect proxy node slot chunk inIbd results]) _ _ delivers
        finishes ?_ ?_ moved last.le (raceComplete_state _)
      · rw [raceComplete_trace, forwarded_trace_eq, List.append_assoc]
        rfl
      · refine List.forall_mem_append.mpr ⟨isCount_cancelEffects _, ?_⟩
        simp [forwardEffect, isCount]

theorem FailureMove.count {proxy base result : Proxy n} {event : Event n} {node : Fin n}
    {slot : Fin 2} {earlier : List (Effect n)} (move : FailureMove base node result)
    (delivers : Delivers proxy event node slot)
    (trace : base.trace = earlier ++ proxy.trace)
    (uncounted : ∀ effect ∈ earlier, isCount effect = false)
    (pending_eq : base.race.responsesPending = proxy.race.responsesPending)
    (all_eq : base.race.allMustComplete = proxy.race.allMustComplete)
    (state_eq : base.race.state = proxy.race.state) :
    CountMove proxy event result := by
  have lost_trace : (lost base node).trace = .gaveUp node :: (earlier ++ proxy.trace) := by
    rw [← trace]
    rfl
  have finishes : Finishes node (.gaveUp node : Effect n) := Or.inr rfl
  cases move with
  | counted more =>
      refine .counted node slot [] earlier _ delivers finishes lost_trace (by simp) uncounted ?_
        all_eq state_eq
      change base.race.responsesPending - 1 = _
      rw [pending_eq]
  | ended last won =>
      refine .completed node slot (cancelEffects (lost base node)) earlier _ delivers finishes
        ?_ (isCount_cancelEffects _) uncounted (pending_eq ▸ last) (raceComplete_state _)
      rw [raceComplete_trace, lost_trace]
      rfl
  | closed last unwon =>
      let hungUp := closeClient (lost base node) true
      refine .completed node slot
        (cancelEffects hungUp ++ [.closeClient (lost base node).client.target true]) earlier _
        delivers finishes ?_ ?_ uncounted (pending_eq ▸ last) (raceComplete_state _)
      · rw [raceComplete_trace, closeClient_trace, lost_trace, List.append_assoc]
        rfl
      · refine List.forall_mem_append.mpr ⟨isCount_cancelEffects _, ?_⟩
        simp [isCount]

theorem ErrorMove.count {proxy result : Proxy n} {node : Fin n} {slot : Fin 2}
    {connEvent : ConnEvent} {results : List SendResult}
    (move : ErrorMove (breakage proxy node slot) node result)
    (out : connOutcome proxy node slot connEvent =
      some (.quiet (proxy.slot node slot).dropFd (some .error))) :
    CountMove proxy (.conn node slot connEvent results) result := by
  have delivers : Delivers proxy (.conn node slot connEvent results) node slot :=
    ⟨⟨connEvent, results, rfl⟩, Or.inr (by simp [upcallOf, out, ConnOutcome.quiet])⟩
  have uncounted : ∀ effect ∈ [Effect.failed node slot, .transferred node slot [] []],
      isCount effect = false := by
    simp [isCount]
  cases move with
  | retried retryable =>
      exact .restarted node slot _ _ [.failed node slot, .transferred node slot [] []] delivers
        rfl uncounted rfl rfl rfl
  | twice already result failure =>
      exact FailureMove.count failure delivers rfl uncounted rfl rfl rfl
  | lost first final result failure =>
      exact FailureMove.count failure delivers rfl uncounted rfl rfl rfl

theorem isCount_of_isAside {effect : Effect n} (quiet : isAside effect = true) :
    isCount effect = false := by
  cases effect with
  | started => simp [isAside, isHousekeeping] at quiet
  | delivered => simp [isAside, isHousekeeping] at quiet
  | gaveUp => simp [isAside, isHousekeeping] at quiet
  | raceCompleted => simp [isAside, isHousekeeping] at quiet
  | requestAccepted => simp [isAside, isHousekeeping] at quiet
  | _ => rfl

/-- The event loop calls `rpc_timeout_cb`. -/
def expires (proxy : Proxy n) : Event n → Bool
  | .timeout fd _ => timerRegistered proxy fd
  | _ => false

/-- The event completes a response that `response_is_error` does not reject. -/
def deliversSuccess (env : Env) (proxy : Proxy n) : Event n → Bool
  | .conn node slot connEvent _ =>
      (connOutcome proxy node slot connEvent).any fun outcome =>
        decide (outcome.upcall = some .response) &&
          !responseIsError env.yyjsonRead outcome.conn
  | _ => false

/--
Every callback during a race, other than a timeout, is one of these, as long
as the race is a broadcast or no response of it is a success.
-/
theorem step_count (env : Env) (proxy : Proxy n) (event : Event n)
    (wellFormed : WellFormed proxy) (active : proxy.race.state ≠ .idle)
    (patient : proxy.race.allMustComplete = true ∨ deliversSuccess env proxy event = false)
    (inTime : expires proxy event = false) :
    CountMove proxy event (step env proxy event) := by
  have move := step_raceStep env proxy event wellFormed
  have broadcast := (wellFormed.racing active).broadcast
  generalize step env proxy event = result at move
  cases move with
  | aside event result added trace quiet race_eq waiting =>
      exact .kept added trace (fun effect member => isCount_of_isAside (quiet effect member))
        (by rw [race_eq]) (by rw [race_eq]) (by rw [race_eq])
  | notified => exact .kept [.blockNotify] rfl (by simp [isCount]) rfl rfl rfl
  | request event chunk method result bytes accepted idle acceptance =>
      exact absurd idle active
  | lateResponse node slot event results chunk result added out idle trace quiet race_eq =>
      exact absurd idle active
  | response node slot event results chunk result out complete active move =>
      apply ResponseMove.count move out
      rcases patient with all | fails
      · exact Or.inl ⟨all, broadcast all⟩
      · rw [deliversSuccess, out] at fails
        exact Or.inr (by simpa using fails)
  | lateError node slot event results result added idle trace quiet race_eq =>
      exact absurd idle active
  | error node slot event results result out active move =>
      exact ErrorMove.count move out
  | expired fd results result registered move =>
      simp only [expires] at inTime
      rw [registered] at inTime
      contradiction

/-! ## Which nodes are busy -/

theorem acceptedMethod_of_active {env : Env} {proxy : Proxy n} (event : Event n)
    (active : proxy.race.state ≠ .idle) :
    acceptedMethod env proxy event = none := by
  simp only [acceptedMethod]
  cases storedChunk proxy event with
  | none => rfl
  | some chunk => simp [active]

/-- A slot that is busy after a callback was busy before it, or its node was just sent to. -/
theorem step_startsNode (env : Env) {proxy : Proxy n} (event : Event n)
    (wellFormed : WellFormed proxy) {node : Fin n} {slot : Fin 2}
    (busy : ((step env proxy event).slot node slot).inFlight = true) :
    (sinceRequest (step env proxy event).trace).any (startsNode node) = true ∨
      (proxy.slot node slot).inFlight = true := by
  rcases step_explained env proxy event wellFormed with ⟨added, trace, silent, moves⟩
  rcases SlotMove.busy_cases (moves node slot) busy with ⟨len, starts⟩ | ⟨wasBusy, -⟩
  · refine Or.inl ?_
    rw [trace, sinceRequest_append silent, List.any_append, Bool.or_eq_true]
    refine Or.inl (List.any_eq_true.mpr ?_)
    rcases List.mem_filterMap.mp starts with ⟨effect, member, effect_eq⟩
    refine ⟨effect, member, ?_⟩
    cases effect with
    | started other index length =>
        simp only [slotEffect, Option.ite_none_right_eq_some] at effect_eq
        simp [startsNode, effect_eq.1.1]
    | _ => simp [slotEffect] at effect_eq
  · exact Or.inr wasBusy

/-- Without a new request the history of the race only grows. -/
theorem step_sinceRequest (env : Env) {proxy : Proxy n} (event : Event n)
    (wellFormed : WellFormed proxy) (waiting : acceptedMethod env proxy event = none)
    {p : Effect n → Bool} (before : (sinceRequest proxy.trace).any p = true) :
    (sinceRequest (step env proxy event).trace).any p = true := by
  rcases step_explained env proxy event wellFormed with ⟨added, trace, silent, -⟩
  rw [acceptedRequest_of_acceptedMethod waiting] at trace
  rw [trace, sinceRequest_append silent, List.any_append, Bool.or_eq_true]
  exact Or.inr before

/-! ## The invariant -/

/-- The race goes on and is not timed out. -/
def WithinRace (proxy : Proxy n) (event : Event n) : Prop :=
  proxy.race.state ≠ .idle ∧ expires proxy event = false

instance (proxy : Proxy n) (event : Event n) : Decidable (WithinRace proxy event) :=
  inferInstanceAs (Decidable (_ ∧ _))

/-- No response and no error comes from a node that is done. -/
def AnswersOnce (proxy : Proxy n) (event : Event n) : Prop :=
  ∀ node slot, Delivers proxy event node slot →
    (sinceRequest proxy.trace).any (finishesNode node) = false

instance (proxy : Proxy n) (event : Event n) : Decidable (AnswersOnce proxy event) :=
  inferInstanceAs (Decidable (∀ node slot, Delivers proxy event node slot → _))

/-- What holds during a broadcast that began with no request in flight. -/
structure Counting (proxy : Proxy n) : Prop where
  wellFormed : WellFormed proxy
  unaborted : Unaborted proxy
  all : proxy.race.state ≠ .idle → proxy.race.allMustComplete = true
  started : ∀ node slot, (proxy.slot node slot).inFlight = true →
    (sinceRequest proxy.trace).any (startsNode node) = true

/-- The node that is heard was sent to, and it is not done. -/
theorem mem_openNodes_of_delivers {proxy : Proxy n} {event : Event n} {node : Fin n} {slot : Fin 2}
    (delivers : Delivers proxy event node slot)
    (started : ∀ node slot, (proxy.slot node slot).inFlight = true →
      (sinceRequest proxy.trace).any (startsNode node) = true)
    (once : AnswersOnce proxy event) :
    node ∈ openNodes (sinceRequest proxy.trace) :=
  mem_openNodes.mpr ⟨started node slot delivers.busy, once node slot delivers⟩

/-- While a race goes on, every busy slot belongs to a node that was sent to. -/
theorem step_started (env : Env) {proxy : Proxy n} (event : Event n)
    (wellFormed : WellFormed proxy) (active : proxy.race.state ≠ .idle)
    (started : ∀ node slot, (proxy.slot node slot).inFlight = true →
      (sinceRequest proxy.trace).any (startsNode node) = true) :
    ∀ node slot, ((step env proxy event).slot node slot).inFlight = true →
      (sinceRequest (step env proxy event).trace).any (startsNode node) = true := by
  intro node slot busy
  rcases step_startsNode env event wellFormed busy with sent | wasBusy
  · exact sent
  · exact step_sinceRequest env event wellFormed (acceptedMethod_of_active event active)
      (started node slot wasBusy)

/-- The count stays right as long as the nodes that are heard are not done. -/
theorem CountMove.unaborted {proxy result : Proxy n} {event : Event n}
    (move : CountMove proxy event result) (active : proxy.race.state ≠ .idle)
    (unaborted : Unaborted proxy)
    (opened : ∀ node slot, Delivers proxy event node slot →
      node ∈ openNodes (sinceRequest proxy.trace)) :
    Unaborted result := by
  have pending := unaborted.pending active
  have history := unaborted.complete
  cases move with
  | kept added trace uncounted pending_eq all_eq state_eq =>
      have since_eq := sinceRequest_uncounted uncounted proxy.trace
      rw [← trace] at since_eq
      constructor
      · rw [since_eq, openNodes_append uncounted, pending_eq]
        exact fun _ => pending
      · rw [since_eq]
        exact completed_append uncounted history
  | restarted node slot index len earlier delivers trace uncounted pending_eq all_eq state_eq =>
      have since_eq : sinceRequest result.trace =
          .started node index len :: (earlier ++ sinceRequest proxy.trace) := by
        rw [trace, sinceRequest_cons rfl, sinceRequest_uncounted uncounted]
      have sent : (earlier ++ sinceRequest proxy.trace).any (startsNode node) = true := by
        rw [List.any_append, (mem_openNodes.mp (opened node slot delivers)).1, Bool.or_true]
      constructor
      · rw [since_eq, openNodes_restart sent, openNodes_append uncounted, pending_eq]
        exact fun _ => pending
      · rw [since_eq]
        exact ⟨trivial, completed_append uncounted history⟩
  | counted node slot later earlier effect delivers finishes trace uncountedLater
      uncountedEarlier pending_eq all_eq state_eq =>
      have since_eq : sinceRequest result.trace =
          later ++ effect :: (earlier ++ sinceRequest proxy.trace) := by
        rw [trace, sinceRequest_uncounted uncountedLater,
          sinceRequest_cons finishes.isRequest_eq, sinceRequest_uncounted uncountedEarlier]
      have member := opened node slot delivers
      have nonempty := List.length_pos_of_mem member
      constructor
      · intro _
        rw [since_eq, openNodes_append uncountedLater, openNodes_finish finishes,
          openNodes_append uncountedEarlier, List.length_erase_of_mem member, pending_eq, pending]
        omega
      · rw [since_eq]
        exact completed_append uncountedLater
          ⟨finishes.completedLast _, completed_append uncountedEarlier history⟩
  | completed node slot later earlier effect delivers finishes trace uncountedLater
      uncountedEarlier last idle =>
      have since_eq : sinceRequest result.trace =
          .raceCompleted :: (later ++ effect :: (earlier ++ sinceRequest proxy.trace)) := by
        rw [trace, sinceRequest_cons rfl, sinceRequest_uncounted uncountedLater,
          sinceRequest_cons finishes.isRequest_eq, sinceRequest_uncounted uncountedEarlier]
      have member := opened node slot delivers
      have nonempty := List.length_pos_of_mem member
      have allDone : openNodes (later ++ effect :: (earlier ++ sinceRequest proxy.trace)) = [] := by
        rw [openNodes_append uncountedLater, openNodes_finish finishes,
          openNodes_append uncountedEarlier]
        apply List.eq_nil_of_length_eq_zero
        rw [List.length_erase_of_mem member]
        omega
      constructor
      · exact fun stillActive => absurd idle stillActive
      · rw [since_eq]
        exact ⟨allDone, completed_append uncountedLater
          ⟨finishes.completedLast _, completed_append uncountedEarlier history⟩⟩

/-- A race that goes on keeps its kind. -/
theorem CountMove.all {proxy result : Proxy n} {event : Event n}
    (move : CountMove proxy event result) (all : proxy.race.allMustComplete = true)
    (active : result.race.state ≠ .idle) :
    result.race.allMustComplete = true := by
  cases move with
  | kept added trace uncounted pending_eq all_eq state_eq =>
      rw [all_eq, all]
  | restarted node slot index len earlier delivers trace uncounted pending_eq all_eq state_eq =>
      rw [all_eq, all]
  | counted node slot later earlier effect delivers finishes trace uncountedLater
      uncountedEarlier pending_eq all_eq state_eq =>
      rw [all_eq, all]
  | completed node slot later earlier effect delivers finishes trace uncountedLater
      uncountedEarlier last idle =>
      exact absurd idle active

theorem step_counting (env : Env) (proxy : Proxy n) (event : Event n)
    (counting : Counting proxy) (guarded : WithinRace proxy event ∧ AnswersOnce proxy event) :
    Counting (step env proxy event) := by
  rcases guarded with ⟨⟨active, inTime⟩, once⟩
  have move := step_count env proxy event counting.wellFormed active
    (Or.inl (counting.all active)) inTime
  constructor
  · exact step_wellFormed env proxy event counting.wellFormed
  · apply move.unaborted active counting.unaborted
    intro node slot delivers
    exact mem_openNodes_of_delivers delivers counting.started once
  · exact move.all (counting.all active)
  · exact step_started env event counting.wellFormed active counting.started

/-! ## The beginning of a broadcast -/

theorem any_startEffects (proxy : Proxy n) (nodes : List (Fin n)) (len : Nat) (node : Fin n) :
    (startEffects proxy nodes len).any (startsNode node) = decide (node ∈ nodes) := by
  simp only [startEffects, List.any_reverse, List.any_map]
  rw [Bool.eq_iff_iff]
  simp [startsNode]

/-- Right after the dispatch all the nodes it sent to are open. -/
theorem openNodes_startEffects (proxy : Proxy n) (len : Nat) :
    openNodes (startEffects proxy (fanoutTargets proxy) len) = fanoutTargets proxy := by
  have noFinish : ∀ node, (startEffects proxy (fanoutTargets proxy) len).any
      (finishesNode node) = false := by
    intro node
    rw [List.any_eq_false]
    intro effect member
    simp only [startEffects, List.mem_reverse, List.mem_map] at member
    rcases member with ⟨other, -, rfl⟩
    simp [finishesNode]
  simp only [openNodes, any_startEffects, noFinish, Bool.not_false, Bool.and_true]
  apply List.filter_congr
  intro node _
  simp [fanoutTargets]

theorem isCount_timerEffects (env : Env) (proxy : Proxy n) (created : Bool) :
    ∀ effect ∈ timerEffects proxy env created, isCount effect = false :=
  forall_timerEffects proxy env created fun _ => rfl

/-- The history of a race right after the dispatch to all nodes. -/
theorem sinceRequest_fanout (env : Env) (created : Bool) (proxy base : Proxy n)
    (method : Memory) (past : List (Effect n))
    (trace : base.trace = startEffects proxy (fanoutTargets proxy) proxy.client.recvLen ++
      requestEffect proxy method :: past) :
    sinceRequest (clearRequest (startRpcTimeout env base created)).trace =
      timerEffects base env created ++
        startEffects proxy (fanoutTargets proxy) proxy.client.recvLen := by
  rw [clearRequest_trace, startRpcTimeout_trace,
    sinceRequest_uncounted (isCount_timerEffects env base created), trace, sinceRequest_append]
  · exact congrArg _ (List.append_nil _)
  · intro effect member
    simp only [startEffects, List.mem_reverse, List.mem_map] at member
    rcases member with ⟨node, -, rfl⟩
    rfl

/-- A dispatch completes nothing. -/
theorem completed_startEffects (proxy : Proxy n) (nodes : List (Fin n)) (len : Nat) :
    AtEach CompletedLast (startEffects proxy nodes len) := by
  rw [← List.append_nil (startEffects proxy nodes len)]
  refine atEach_append ?_ trivial
  intro effect member past
  simp only [startEffects, List.mem_reverse, List.mem_map] at member
  rcases member with ⟨node, -, rfl⟩
  trivial

/-- A request that goes to all nodes is counted right. -/
theorem unaborted_of_accepted (env : Env) (proxy : Proxy n) (event : Event n)
    (wellFormed : WellFormed proxy) {method : Memory}
    (accepted : acceptedMethod env proxy event = some method)
    (toAll : (step env proxy event).race.state ≠ .sticky) :
    Unaborted (step env proxy event) := by
  rcases step_of_accepted env proxy event wellFormed accepted with
    ⟨chunk, created, result, -, -, -, acceptance, step_eq⟩
  rw [step_eq] at toAll ⊢
  cases acceptance with
  | fanout race begun state pending reachable =>
      have history := fun base => sinceRequest_fanout env created (withChunk proxy chunk) base
        method proxy.trace
      constructor
      · intro _
        rw [history, openNodes_append (isCount_timerEffects _ _ _), openNodes_startEffects,
          clearRequest_race, startRpcTimeout_race]
        · exact pending
        · rfl
      · rw [history]
        · exact completed_append (isCount_timerEffects _ _ _) (completed_startEffects _ _ _)
        · rfl
  | sticky race begun state pending single node stuck available =>
      rw [clearRequest_race, startRpcTimeout_race] at toAll
      exact absurd state toAll
  | refused race begun state =>
      exact ⟨fun active => absurd state active, ⟨trivial, trivial⟩⟩

/-- After a request that finds no other in flight, the busy slots are those it was sent on. -/
theorem started_of_quiet (env : Env) {proxy : Proxy n} (event : Event n)
    (wellFormed : WellFormed proxy)
    (quiet : ∀ node slot, (proxy.slot node slot).inFlight = false) :
    ∀ node slot, ((step env proxy event).slot node slot).inFlight = true →
      (sinceRequest (step env proxy event).trace).any (startsNode node) = true := by
  intro node slot busy
  rcases step_startsNode env event wellFormed busy with sent | wasBusy
  · exact sent
  · rw [quiet node slot] at wasBusy
    contradiction

/-- A request that must reach all nodes is not sent to the sticky node alone. -/
theorem broadcast_of_accepted (env : Env) (proxy : Proxy n) (event : Event n)
    (wellFormed : WellFormed proxy) {method : Memory}
    (accepted : acceptedMethod env proxy event = some method)
    (broadcast : isBroadcast method = true) :
    (step env proxy event).race.state ≠ .sticky ∧
      ((step env proxy event).race.state ≠ .idle →
        (step env proxy event).race.allMustComplete = true) := by
  rcases step_of_accepted env proxy event wellFormed accepted with
    ⟨chunk, created, result, -, -, -, acceptance, step_eq⟩
  rw [step_eq, clearRequest_race]
  cases acceptance with
  | fanout race begun state pending reachable =>
      rw [startRpcTimeout_race]
      change race.state ≠ .sticky ∧ (race.state ≠ .idle → race.allMustComplete = true)
      rw [state, begun.all_eq, broadcast]
      simp
  | sticky race begun state pending single node stuck available =>
      rw [begun.all_eq, broadcast] at single
      contradiction
  | refused race begun state =>
      change race.state ≠ .sticky ∧ (race.state ≠ .idle → race.allMustComplete = true)
      rw [state]
      simp

/-- A broadcast that is accepted with no request in flight is counted right. -/
theorem counting_of_accepted (env : Env) (proxy : Proxy n) (event : Event n)
    (wellFormed : WellFormed proxy)
    (quiet : ∀ node slot, (proxy.slot node slot).inFlight = false) {method : Memory}
    (accepted : acceptedMethod env proxy event = some method)
    (broadcast : isBroadcast method = true) :
    Counting (step env proxy event) := by
  have kind := broadcast_of_accepted env proxy event wellFormed accepted broadcast
  constructor
  · exact step_wellFormed env proxy event wellFormed
  · exact unaborted_of_accepted env proxy event wellFormed accepted kind.1
  · exact kind.2
  · exact started_of_quiet env event wellFormed quiet

/-! ## Runs -/

/--
A broadcast that is accepted with no request in flight waits for all nodes,
as long as it is not timed out and no node is heard after it is done.
-/
theorem unaborted_of_answersOnce (env : Env) (boot : Boot n) (before after : List (Event n))
    (event : Event n) (method : Memory)
    (quiet : ∀ node slot,
      ((run (step env) (rpcProxyCreate boot) before).slot node slot).inFlight = false)
    (accepted : acceptedMethod env (run (step env) (rpcProxyCreate boot) before) event =
      some method)
    (broadcast : isBroadcast method = true)
    (racing : Along (step env) WithinRace
      (step env (run (step env) (rpcProxyCreate boot) before) event) after)
    (guarded : Along (step env) AnswersOnce
      (step env (run (step env) (rpcProxyCreate boot) before) event) after) :
    Throughout (step env) Unaborted
      (step env (run (step env) (rpcProxyCreate boot) before) event) after := by
  have start := counting_of_accepted env _ event (run_wellFormed env boot before) quiet accepted
    broadcast
  apply Throughout.mono fun proxy (counting : Counting proxy) => counting.unaborted
  exact throughout_of_along (step_counting env) start (racing.and guarded)

/-- The first connection to one of two nodes breaks, the retry succeeds, and both answer. -/
def retriedBroadcast : List (Event 2) :=
  [slotWrites 0 0 1000, slotWrites 1 0 1000,
    slotFails 0 0, slotWrites 0 1 1000,
    slotReads 1 0 doneResponse [.accepted 1000],
    slotReads 0 1 doneResponse [.accepted 1000]]

theorem unaborted_of_answersOnce_retriedBroadcast :
    Along (step exampleEnv) WithinRace
        (step exampleEnv (exampleRun 2 [clientConnects]) (clientSends blockRequest))
        retriedBroadcast ∧
      Along (step exampleEnv) AnswersOnce
        (step exampleEnv (exampleRun 2 [clientConnects]) (clientSends blockRequest))
        retriedBroadcast ∧
      Throughout (step exampleEnv) Unaborted
        (step exampleEnv (exampleRun 2 [clientConnects]) (clientSends blockRequest))
        retriedBroadcast := by
  have facts :
      (∀ node slot, ((exampleRun 2 [clientConnects]).slot node slot).inFlight = false) ∧
        acceptedMethod exampleEnv (exampleRun 2 [clientConnects]) (clientSends blockRequest) =
          some (ascii "submitblock") ∧
        isBroadcast (ascii "submitblock") = true ∧
        Along (step exampleEnv) WithinRace
          (step exampleEnv (exampleRun 2 [clientConnects]) (clientSends blockRequest))
          retriedBroadcast ∧
        Along (step exampleEnv) AnswersOnce
          (step exampleEnv (exampleRun 2 [clientConnects]) (clientSends blockRequest))
          retriedBroadcast := by
    decide +kernel
  rcases facts with ⟨quiet, accepted, broadcast, racing, once⟩
  exact ⟨racing, once, unaborted_of_answersOnce exampleEnv (exampleBoot 2) [clientConnects]
    retriedBroadcast (clientSends blockRequest) (ascii "submitblock") quiet accepted broadcast
    racing once⟩

/-! ## A node that is heard twice -/

/-- One of two nodes answers and sends another byte before the other node answers. -/
def extraByte : List (Event 2) :=
  [slotWrites 0 0 1000, slotWrites 1 0 1000,
    slotReads 0 0 doneResponse [.accepted 1000],
    slotReads 0 0 (ascii "x") []]

/-- The race is completed while the second node still works on the request. -/
theorem extraByte_not_unaborted :
    (∀ node slot, ((exampleRun 2 [clientConnects]).slot node slot).inFlight = false) ∧
      acceptedMethod exampleEnv (exampleRun 2 [clientConnects]) (clientSends blockRequest) =
        some (ascii "submitblock") ∧
      isBroadcast (ascii "submitblock") = true ∧
      Along (step exampleEnv) WithinRace
        (step exampleEnv (exampleRun 2 [clientConnects]) (clientSends blockRequest)) extraByte ∧
      ¬ Throughout (step exampleEnv) Unaborted
        (step exampleEnv (exampleRun 2 [clientConnects]) (clientSends blockRequest))
        extraByte := by
  have facts :
      (∀ node slot, ((exampleRun 2 [clientConnects]).slot node slot).inFlight = false) ∧
        acceptedMethod exampleEnv (exampleRun 2 [clientConnects]) (clientSends blockRequest) =
          some (ascii "submitblock") ∧
        isBroadcast (ascii "submitblock") = true ∧
        Along (step exampleEnv) WithinRace
          (step exampleEnv (exampleRun 2 [clientConnects]) (clientSends blockRequest)) extraByte ∧
        ¬ Unaborted (run (step exampleEnv)
          (step exampleEnv (exampleRun 2 [clientConnects]) (clientSends blockRequest))
          extraByte) := by
    decide +kernel
  rcases facts with ⟨quiet, accepted, broadcast, racing, aborted⟩
  refine ⟨quiet, accepted, broadcast, racing, ?_⟩
  intro unaborted
  exact aborted (throughout_end unaborted)

end RpcRace.Broadcast
