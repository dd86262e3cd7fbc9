import RpcRace.ClientMoves

/-!
# The outcome of a request

A race answers its request in one of two ways: it forwards one response to
the client, or it closes the client.  There are many exits from a race, in
three handlers and in dispatch, but each of them is one of the few outcomes
of `StepOutcome`.  From it follows that every request has exactly one
outcome by the time the proxy is idle again, and no other afterwards.
-/

namespace RpcRace.Outcomes

open RpcRace.Library.CString
open RpcRace.Library.Run
open RpcRace.RpcConn
open RpcRace.JsonResponse
open RpcRace.RpcProxy
open RpcRace.Dispatch
open RpcRace.RaceMoves
open RpcRace.ProxyMoves
open RpcRace.SlotMoves
open RpcRace.Requests
open RpcRace.ClientMoves

variable {n : Nat}

/-! ## Outcomes of one callback -/

/-- The race logic closed the client. -/
def isRaceClose : Effect n → Bool
  | .closeClient _ true => true
  | _ => false

/-- An effect that is neither an outcome nor a new request. -/
def isPlain (effect : Effect n) : Bool :=
  !isForward effect && !isRaceClose effect && !isRequest effect

/-- What a delivered response adds to the trace before it is forwarded. -/
def deliveryEffects (proxy : Proxy n) (node : Fin n) (slot : Fin 2) (chunk : Memory)
    (stuck : Bool) : List (Effect n) :=
  stickEffects node stuck ++
    [.delivered node slot ((proxy.slot node slot).absorb chunk), .transferred node slot [] chunk]

/-- How one callback ends, for the client that waits. -/
inductive StepOutcome (env : Env) (proxy : Proxy n) (event : Event n) (result : Proxy n) :
    Prop where
  /-- Nothing is decided. -/
  | quiet (added : List (Effect n))
      (trace : result.trace = added ++ proxy.trace)
      (plain : ∀ effect ∈ added, isPlain effect = true)
      (state_eq : result.race.state = proxy.race.state)
      (winner_eq : result.race.winnerIdx = proxy.race.winnerIdx)
      (waiting : acceptedMethod env proxy event = none)
  /-- A race begins. -/
  | opened (added : List (Effect n)) (chunk method : Memory)
      (bytes : storedChunk proxy event = some chunk)
      (accepted : acceptedMethod env proxy event = some method)
      (trace : result.trace =
        added ++ requestEffect (withChunk proxy chunk) method :: proxy.trace)
      (plain : ∀ effect ∈ added, isPlain effect = true)
      (idle : proxy.race.state = .idle)
      (active : result.race.state ≠ .idle)
      (unwon : result.race.winnerIdx = none)
      (target_eq : result.client.target = proxy.client.target)
  /-- A request cannot be dispatched. -/
  | refused (chunk method : Memory)
      (bytes : storedChunk proxy event = some chunk)
      (accepted : acceptedMethod env proxy event = some method)
      (trace : result.trace =
        .closeClient proxy.client.target true ::
          requestEffect (withChunk proxy chunk) method :: proxy.trace)
      (wasIdle : proxy.race.state = .idle)
      (idle : result.race.state = .idle)
      (target_eq : result.client.target = none)
  /-- A broadcast that was answered before comes to its end. -/
  | ended (added : List (Effect n))
      (trace : result.trace = added ++ proxy.trace)
      (plain : ∀ effect ∈ added, isPlain effect = true)
      (active : proxy.race.state ≠ .idle)
      (won : proxy.race.winnerIdx ≠ none)
      (idle : result.race.state = .idle)
      (waiting : acceptedMethod env proxy event = none)
      (client_eq : result.client = proxy.client)
  /-- The response that was just delivered is forwarded. -/
  | forwarded (later : List (Effect n)) (node : Fin n) (slot : Fin 2)
      (chunk : Memory) (inIbd stuck : Bool) (connEvent : ConnEvent) (results : List SendResult)
      (event_eq : event = .conn node slot connEvent results)
      (out : connOutcome proxy node slot connEvent =
        some ⟨(proxy.slot node slot).absorb chunk, some .response, [], chunk⟩)
      (trace : result.trace =
        later ++ forwardEffect proxy node slot chunk inIbd results ::
          (deliveryEffects proxy node slot chunk stuck ++ proxy.trace))
      (plain : ∀ effect ∈ later, isPlain effect = true)
      (complete : rpcConnResponseComplete ((proxy.slot node slot).absorb chunk) = true)
      (active : proxy.race.state ≠ .idle)
      (unwon : proxy.race.winnerIdx = none)
      (chosen : responseIsError env.yyjsonRead ((proxy.slot node slot).absorb chunk) = false ∨
        proxy.race.responsesPending = 1)
      (after : result.race.state = .idle ∨
        result.race.state = proxy.race.state ∧ result.race.winnerIdx ≠ none)
      (client_eq : result.client = proxy.client)
  /-- All nodes have failed, or the time is up. -/
  | closed (later earlier : List (Effect n))
      (trace : result.trace =
        later ++ .closeClient proxy.client.target true :: (earlier ++ proxy.trace))
      (plainLater : ∀ effect ∈ later, isPlain effect = true)
      (plainEarlier : ∀ effect ∈ earlier, isPlain effect = true)
      (active : proxy.race.state ≠ .idle)
      (unwon : proxy.race.winnerIdx = none)
      (idle : result.race.state = .idle)
      (waiting : acceptedMethod env proxy event = none)
      (client_eq : result.client = proxy.client.close)

theorem isPlain_cancelEffects (proxy : Proxy n) :
    ∀ effect ∈ cancelEffects proxy, isPlain effect = true :=
  forall_cancelEffects proxy fun _ => rfl

theorem isPlain_timerEffects (env : Env) (proxy : Proxy n) (created : Bool) :
    ∀ effect ∈ timerEffects proxy env created, isPlain effect = true :=
  forall_timerEffects proxy env created fun _ => rfl

/-- What `race_complete` writes is plain. -/
theorem isPlain_raceComplete (proxy : Proxy n) :
    ∀ effect ∈ Effect.raceCompleted :: cancelEffects proxy, isPlain effect = true :=
  forall_raceComplete proxy rfl fun _ => rfl

/-- What a response leaves behind before it is judged is plain. -/
theorem isPlain_delivered (node : Fin n) (slot : Fin 2) (conn : UpstreamConn) (chunk : Memory) :
    ∀ effect ∈ [Effect.delivered node slot conn, .transferred node slot [] chunk],
      isPlain effect = true :=
  List.forall_mem_cons.mpr ⟨rfl, List.forall_mem_singleton.mpr rfl⟩

/-- What a failed connection leaves behind is plain. -/
theorem isPlain_failed (node : Fin n) (slot : Fin 2) :
    ∀ effect ∈ [Effect.failed node slot, .transferred node slot [] []], isPlain effect = true :=
  List.forall_mem_cons.mpr ⟨rfl, List.forall_mem_singleton.mpr rfl⟩

theorem isPlain_deliveryEffects (proxy : Proxy n) (node : Fin n) (slot : Fin 2)
    (chunk : Memory) (stuck : Bool) :
    ∀ effect ∈ deliveryEffects proxy node slot chunk stuck, isPlain effect = true := by
  cases stuck <;>
    simp [deliveryEffects, stickEffects, isPlain, isForward, isRaceClose, isRequest]

/-- The trace after a delivered response was forwarded. -/
theorem forwarded_trace_eq (proxy : Proxy n) (node : Fin n) (slot : Fin 2) (chunk : Memory)
    (race : Race n) (inIbd stuck : Bool) (results : List SendResult) :
    (sendUpstreamResponseToClient (stick (answered proxy node slot chunk race inIbd) node stuck)
        node slot results).trace =
      forwardEffect proxy node slot chunk inIbd results ::
        (deliveryEffects proxy node slot chunk stuck ++ proxy.trace) := by
  rw [forwarded_trace, deliveryEffects, List.append_assoc]
  rfl

theorem ResponseMove.outcome {env : Env} {proxy : Proxy n} {node : Fin n} {slot : Fin 2}
    {chunk : Memory} {connEvent : ConnEvent} {results : List SendResult} {result : Proxy n}
    (move : ResponseMove env proxy node slot chunk results result)
    (out : connOutcome proxy node slot connEvent =
      some ⟨(proxy.slot node slot).absorb chunk, some .response, [], chunk⟩)
    (complete : rpcConnResponseComplete ((proxy.slot node slot).absorb chunk) = true)
    (active : proxy.race.state ≠ .idle) :
    StepOutcome env proxy (.conn node slot connEvent results) result := by
  have client_eq := ResponseMove.client_eq move
  cases move with
  | counted race inIbd counting more unsent =>
      refine .quiet [_, _] rfl (isPlain_delivered node slot _ chunk) counting.state_eq ?_ rfl
      rw [answered_race, counting.winner_eq]
      rcases unsent with error | won
      · rw [error]
        rfl
      · rcases Option.ne_none_iff_exists'.mp won with ⟨winner, winner_eq⟩
        rw [winner_eq]
        split_ifs <;> rfl
  | broadcastWon race inIbd counting more all first valid =>
      refine .forwarded [] node slot chunk inIbd false connEvent results rfl out
        (forwarded_trace_eq proxy node slot chunk race inIbd false results) (by simp) complete
        active first (Or.inl valid) (Or.inr ⟨counting.state_eq, ?_⟩) client_eq
      change race.winnerIdx ≠ none
      rw [counting.winner_eq, valid, first]
      simp
  | won race inIbd stuck counting more single first valid =>
      exact .forwarded [] node slot chunk inIbd stuck connEvent results rfl out
        (forwarded_trace_eq proxy node slot chunk race inIbd stuck results) (by simp) complete
        active first (Or.inl valid) (Or.inl rfl) client_eq
  | ended race inIbd counting last won =>
      let judged := answered proxy node slot chunk race inIbd
      refine .ended (.raceCompleted :: cancelEffects judged ++
        [.delivered node slot ((proxy.slot node slot).absorb chunk),
          .transferred node slot [] chunk]) ?_ ?_ active won (raceComplete_state _) rfl
        client_eq
      · rw [raceComplete_trace, List.append_assoc]
        rfl
      · exact List.forall_mem_append.mpr
          ⟨isPlain_raceComplete judged, isPlain_delivered node slot _ chunk⟩
  | settled race inIbd stuck counting last first =>
      let sent := sendUpstreamResponseToClient
        (stick (answered proxy node slot chunk race inIbd) node stuck) node slot results
      refine .forwarded (.raceCompleted :: cancelEffects sent) node slot chunk inIbd stuck
        connEvent results rfl out ?_ (isPlain_raceComplete _) complete active first
        (Or.inr last) (Or.inl (raceComplete_state _)) client_eq
      rw [raceComplete_trace, forwarded_trace_eq]

theorem FailureMove.outcome {env : Env} {proxy base result : Proxy n} {event : Event n}
    {node : Fin n} {earlier : List (Effect n)} (move : FailureMove base node result)
    (trace : base.trace = earlier ++ proxy.trace)
    (plain : ∀ effect ∈ earlier, isPlain effect = true)
    (state_eq : base.race.state = proxy.race.state)
    (winner_eq : base.race.winnerIdx = proxy.race.winnerIdx)
    (client_eq : base.client = proxy.client)
    (active : proxy.race.state ≠ .idle)
    (waiting : acceptedMethod env proxy event = none) :
    StepOutcome env proxy event result := by
  have gaveUp : ∀ effect ∈ Effect.gaveUp node :: earlier, isPlain effect = true :=
    List.forall_mem_cons.mpr ⟨rfl, plain⟩
  have lost_trace : (lost base node).trace = .gaveUp node :: earlier ++ proxy.trace := by
    rw [List.cons_append, ← trace]
    rfl
  cases move with
  | counted more =>
      exact .quiet (.gaveUp node :: earlier) lost_trace gaveUp state_eq winner_eq waiting
  | ended last won =>
      refine .ended (.raceCompleted :: cancelEffects (lost base node) ++
        .gaveUp node :: earlier) ?_ ?_ active (winner_eq ▸ won) (raceComplete_state _)
        waiting ?_
      · rw [raceComplete_trace, lost_trace, List.append_assoc]
      · exact List.forall_mem_append.mpr ⟨isPlain_raceComplete _, gaveUp⟩
      · rw [raceComplete_client]
        exact client_eq
  | closed last unwon =>
      refine .closed
        (.raceCompleted :: cancelEffects (closeClient (lost base node) true))
        (.gaveUp node :: earlier) ?_ (isPlain_raceComplete _) gaveUp active
        (winner_eq ▸ unwon) (raceComplete_state _) waiting ?_
      · rw [raceComplete_trace, closeClient_trace, lost_trace]
        have client_lost : (lost base node).client = proxy.client := client_eq
        rw [client_lost]
      · rw [raceComplete_client, closeClient_client]
        exact congrArg Client.close client_eq

theorem ErrorMove.outcome {env : Env} {proxy result : Proxy n} {node : Fin n} {slot : Fin 2}
    {connEvent : ConnEvent} {results : List SendResult}
    (move : ErrorMove (breakage proxy node slot) node result)
    (active : proxy.race.state ≠ .idle) :
    StepOutcome env proxy (.conn node slot connEvent results) result := by
  have plain := isPlain_failed node slot
  cases move with
  | retried retryable =>
      exact .quiet [_, _, _] rfl (List.forall_mem_cons.mpr ⟨rfl, plain⟩) rfl rfl rfl
  | twice already result failure =>
      exact FailureMove.outcome failure rfl plain rfl rfl rfl active rfl
  | lost first final result failure =>
      exact FailureMove.outcome failure rfl plain rfl rfl rfl active rfl

theorem TimeoutMove.outcome {env : Env} {proxy result : Proxy n} {fd : Nat}
    {results : List SendResult} (move : TimeoutMove proxy fd result) :
    StepOutcome env proxy (.timeout fd results) result := by
  have expired : ∀ effect ∈ [Effect.timerExpired (n := n) fd proxy.now],
      isPlain effect = true :=
    List.forall_mem_singleton.mpr rfl
  cases move with
  | drained idle =>
      refine .quiet (cancelEffects (unstuck (acknowledged proxy fd)) ++
        [.timerExpired fd proxy.now]) ?_ ?_ ?_ ?_ rfl
      · rw [cancelRpcTimeout_trace, List.append_assoc]
        rfl
      · exact List.forall_mem_append.mpr ⟨isPlain_cancelEffects _, expired⟩
      · rw [cancelRpcTimeout_race]
        rfl
      · rw [cancelRpcTimeout_race]
        rfl
  | ended active won =>
      refine .ended (.raceCompleted :: cancelEffects (uncounted (acknowledged proxy fd)) ++
        [.timerExpired fd proxy.now]) ?_ ?_ active won (raceComplete_state _) rfl ?_
      · rw [raceComplete_trace, List.append_assoc]
        rfl
      · exact List.forall_mem_append.mpr ⟨isPlain_raceComplete _, expired⟩
      · rw [raceComplete_client]
        rfl
  | closed active unwon =>
      refine .closed (.raceCompleted ::
        cancelEffects (closeClient (uncounted (acknowledged proxy fd)) true))
        [.timerExpired fd proxy.now] ?_ (isPlain_raceComplete _) expired active unwon
        (raceComplete_state _) rfl ?_
      · rw [raceComplete_trace]
        rfl
      · rw [raceComplete_client]
        rfl

theorem Acceptance.outcome {env : Env} {proxy result : Proxy n} {event : Event n}
    {chunk method : Memory} {created : Bool}
    (acceptance : Acceptance env (withChunk proxy chunk) method created result)
    (bytes : storedChunk proxy event = some chunk)
    (accepted : acceptedMethod env proxy event = some method)
    (idle : proxy.race.state = .idle) :
    StepOutcome env proxy event (clearRequest result) := by
  cases acceptance with
  | fanout race begun state pending reachable =>
      refine .opened (timerEffects proxy env created ++
        startEffects proxy (fanoutTargets proxy) (withChunk proxy chunk).client.recvLen)
        chunk method bytes accepted ?_ ?_ idle ?_ ?_ ?_
      · rw [clearRequest_trace, startRpcTimeout_trace, List.append_assoc]
        rfl
      · refine List.forall_mem_append.mpr ⟨isPlain_timerEffects _ _ _, ?_⟩
        intro effect member
        simp only [startEffects, List.mem_reverse, List.mem_map] at member
        rcases member with ⟨node, -, rfl⟩
        rfl
      · rw [clearRequest_race, startRpcTimeout_race, state]
        simp
      · rw [clearRequest_race, startRpcTimeout_race]
        exact begun.winner_eq
      · change (startRpcTimeout _ _ _).client.target = _
        rw [startRpcTimeout_client]
        rfl
  | sticky race begun state pending single node stuck available =>
      refine .opened (timerEffects proxy env created ++
        [.stickySent node, .started node (proxy.pairs node).activeIdx
          (withChunk proxy chunk).client.recvLen]) chunk method bytes accepted ?_ ?_ idle ?_ ?_ ?_
      · rw [clearRequest_trace, startRpcTimeout_trace, List.append_assoc]
        rfl
      · refine List.forall_mem_append.mpr ⟨isPlain_timerEffects _ _ _, ?_⟩
        exact List.forall_mem_cons.mpr ⟨rfl, List.forall_mem_singleton.mpr rfl⟩
      · rw [clearRequest_race, startRpcTimeout_race, state]
        simp
      · rw [clearRequest_race, startRpcTimeout_race]
        exact begun.winner_eq
      · change (startRpcTimeout _ _ _).client.target = _
        rw [startRpcTimeout_client]
        rfl
  | refused race begun state =>
      exact .refused chunk method bytes accepted rfl idle state
        (close_target (withChunk proxy chunk).client)

theorem isPlain_of_isAside {effect : Effect n} (quiet : isAside effect = true) :
    isPlain effect = true := by
  cases effect with
  | closeClient client byRace =>
      cases byRace with
      | true => simp [isAside, isHousekeeping] at quiet
      | false => rfl
  | forwarded => simp [isAside, isHousekeeping] at quiet
  | requestAccepted => simp [isAside, isHousekeeping] at quiet
  | _ => rfl

/-- Every callback has one of the outcomes. -/
theorem step_outcome (env : Env) (proxy : Proxy n) (event : Event n)
    (wellFormed : WellFormed proxy) :
    StepOutcome env proxy event (step env proxy event) := by
  have move := step_raceStep env proxy event wellFormed
  generalize step env proxy event = result at move
  cases move with
  | aside event result added trace quiet race_eq waiting =>
      exact .quiet added trace (fun effect member => isPlain_of_isAside (quiet effect member))
        (by rw [race_eq]) (by rw [race_eq]) waiting
  | notified =>
      exact .quiet [.blockNotify] rfl (List.forall_mem_singleton.mpr rfl) rfl rfl rfl
  | request event chunk method result bytes accepted idle acceptance =>
      exact Acceptance.outcome acceptance bytes accepted idle
  | lateResponse node slot event results chunk result added out idle trace quiet race_eq =>
      refine .quiet (added ++
        [.delivered node slot ((proxy.slot node slot).absorb chunk),
          .transferred node slot [] chunk]) ?_ ?_ (by rw [race_eq]) (by rw [race_eq]) rfl
      · rw [trace, List.append_assoc]
        rfl
      · exact List.forall_mem_append.mpr
          ⟨fun effect member => isPlain_of_isAside (quiet effect member),
            isPlain_delivered node slot _ chunk⟩
  | response node slot event results chunk result out complete active move =>
      exact ResponseMove.outcome move out complete active
  | lateError node slot event results result added idle trace quiet race_eq =>
      refine .quiet (added ++ [.failed node slot, .transferred node slot [] []]) ?_ ?_
        (by rw [race_eq]) (by rw [race_eq]) rfl
      · rw [trace, List.append_assoc]
        rfl
      · exact List.forall_mem_append.mpr
          ⟨fun effect member => isPlain_of_isAside (quiet effect member),
            isPlain_failed node slot⟩
  | error node slot event results result out active move =>
      exact ErrorMove.outcome move active
  | expired fd results result registered move => exact TimeoutMove.outcome move

/-! ## Exactly one outcome for each request -/

/-- What happened since the latest request was accepted. -/
def sinceRequest (trace : List (Effect n)) : List (Effect n) :=
  trace.takeWhile fun effect => !isRequest effect

/-- How often a response was forwarded, and the client closed, for the latest request. -/
def outcomes (trace : List (Effect n)) : Nat × Nat :=
  ((sinceRequest trace).countP isForward, (sinceRequest trace).countP isRaceClose)

/--
The latest request has been answered by one response, or its client was
closed, and not both.  Before the first request nothing has happened.
-/
def Settled (trace : List (Effect n)) : Prop :=
  if requestNo trace = 0 then outcomes trace = (0, 0)
  else outcomes trace = (1, 0) ∨ outcomes trace = (0, 1)

/-- A request finds its predecessor settled, and a forwarded response is complete. -/
def Proper (effect : Effect n) (past : List (Effect n)) : Prop :=
  match effect with
  | .requestAccepted _ _ _ _ => Settled past
  | .forwarded _ _ conn _ _ =>
      conn.headersComplete = true ∧ conn.headerLen + conn.contentLength ≤ conn.recvLen
  | _ => True

/-- Every request that is no longer raced has had exactly one outcome. -/
structure OneOutcome (proxy : Proxy n) : Prop where
  settled : proxy.race.state = .idle → Settled proxy.trace
  history : AtEach Proper proxy.trace

/-- The response that an upstream event frames has a size below `2^64`. -/
def Bounded (proxy : Proxy n) (event : Event n) : Prop :=
  match event with
  | .conn node slot connEvent _ =>
      ∀ outcome ∈ connOutcome proxy node slot connEvent,
        outcome.conn.headerLen + outcome.conn.contentLength < sizeModulus
  | _ => True

instance (proxy : Proxy n) (event : Event n) : Decidable (Bounded proxy event) :=
  match event with
  | .conn node slot connEvent _ =>
      inferInstanceAs (Decidable (∀ outcome ∈ connOutcome proxy node slot connEvent,
        outcome.conn.headerLen + outcome.conn.contentLength < sizeModulus))
  | .accept _ => .isTrue trivial
  | .client _ => .isTrue trivial
  | .rotation _ _ => .isTrue trivial
  | .timeout _ _ => .isTrue trivial
  | .blockNotify => .isTrue trivial
  | .elapse _ => .isTrue trivial

section Outcomes

variable {added : List (Effect n)} (plain : ∀ effect ∈ added, isPlain effect = true)

include plain

theorem requestNo_plain (trace : List (Effect n)) :
    requestNo (added ++ trace) = requestNo trace := by
  have none : added.countP isRequest = 0 := by
    rw [List.countP_eq_zero]
    intro effect member
    have := plain effect member
    simp only [isPlain, Bool.and_eq_true, Bool.not_eq_true'] at this
    simp [this.2]
  simp only [requestNo, List.countP_append, none, Nat.zero_add]

theorem outcomes_plain (trace : List (Effect n)) :
    outcomes (added ++ trace) = outcomes trace := by
  induction added with
  | nil => rfl
  | cons effect rest induction =>
      have first := plain effect List.mem_cons_self
      simp only [isPlain, Bool.and_eq_true, Bool.not_eq_true'] at first
      rw [← induction fun other member => plain other (List.mem_cons_of_mem _ member)]
      simp [outcomes, sinceRequest, first.1.1, first.1.2, first.2]

theorem settled_plain {trace : List (Effect n)} (settled : Settled trace) :
    Settled (added ++ trace) := by
  rw [Settled, requestNo_plain plain, outcomes_plain plain]
  exact settled

theorem history_plain {trace : List (Effect n)} (history : AtEach Proper trace) :
    AtEach Proper (added ++ trace) := by
  refine atEach_append ?_ history
  intro effect member past
  have := plain effect member
  cases effect with
  | requestAccepted => simp [isPlain, isRequest] at this
  | forwarded => simp [isPlain, isForward] at this
  | _ => trivial

end Outcomes

theorem outcomes_cons {effect : Effect n} (silent : isRequest effect = false)
    (trace : List (Effect n)) :
    outcomes (effect :: trace) =
      ((outcomes trace).1 + (isForward effect).toNat,
        (outcomes trace).2 + (isRaceClose effect).toNat) := by
  cases forward : isForward effect <;> cases close : isRaceClose effect <;>
    simp [outcomes, sinceRequest, silent, forward, close]

theorem requestNo_cons {effect : Effect n} (silent : isRequest effect = false)
    (trace : List (Effect n)) :
    requestNo (effect :: trace) = requestNo trace := by
  simp [requestNo, silent]

/-- What the handlers know about the outcome of the request that is raced. -/
structure Tracked (proxy : Proxy n) : Prop where
  wellFormed : WellFormed proxy
  oneOutcome : OneOutcome proxy
  asked : proxy.race.state ≠ .idle → requestNo proxy.trace ≠ 0
  unwon : proxy.race.state ≠ .idle → proxy.race.winnerIdx = none →
    outcomes proxy.trace = (0, 0)
  won : proxy.race.state ≠ .idle → proxy.race.winnerIdx ≠ none →
    outcomes proxy.trace = (1, 0)

theorem settled_of_forwarded {trace : List (Effect n)} (asked : requestNo trace ≠ 0)
    (once : outcomes trace = (1, 0)) :
    Settled trace := by
  rw [Settled, if_neg asked]
  exact Or.inl once

theorem settled_of_closed {trace : List (Effect n)} (asked : requestNo trace ≠ 0)
    (once : outcomes trace = (0, 1)) :
    Settled trace := by
  rw [Settled, if_neg asked]
  exact Or.inr once

/-- A framed response below `2^64` bytes is complete when the source says so. -/
theorem complete_of_bounded {conn : UpstreamConn}
    (complete : rpcConnResponseComplete conn = true)
    (bounded : conn.headerLen + conn.contentLength < sizeModulus) :
    conn.headersComplete = true ∧ conn.headerLen + conn.contentLength ≤ conn.recvLen := by
  simp only [rpcConnResponseComplete, Bool.and_eq_true, decide_eq_true_eq] at complete
  rw [UpstreamConn.expected, Nat.mod_eq_of_lt bounded] at complete
  exact complete

theorem step_tracked (env : Env) (proxy : Proxy n) (event : Event n)
    (tracked : Tracked proxy) (bounded : Bounded proxy event) :
    Tracked (step env proxy event) := by
  have wellFormed := step_wellFormed env proxy event tracked.wellFormed
  have outcome := step_outcome env proxy event tracked.wellFormed
  have history := tracked.oneOutcome.history
  generalize step env proxy event = result at outcome wellFormed
  cases outcome with
  | quiet added trace plain state_eq winner_eq waiting =>
      refine ⟨wellFormed, ⟨?_, ?_⟩, ?_, ?_, ?_⟩
      · intro idle
        rw [trace]
        exact settled_plain plain (tracked.oneOutcome.settled (state_eq ▸ idle))
      · rw [trace]
        exact history_plain plain history
      · rw [trace, requestNo_plain plain, state_eq]
        exact tracked.asked
      · rw [trace, outcomes_plain plain, state_eq, winner_eq]
        exact tracked.unwon
      · rw [trace, outcomes_plain plain, state_eq, winner_eq]
        exact tracked.won
  | opened added chunk method bytes accepted trace plain idle active unwon target_eq =>
      have none_yet : outcomes result.trace = (0, 0) := by
        rw [trace, outcomes_plain plain]
        rfl
      refine ⟨wellFormed, ⟨fun finished => absurd finished active, ?_⟩, ?_, fun _ _ => none_yet,
        fun _ won => absurd unwon won⟩
      · rw [trace]
        exact history_plain plain ⟨tracked.oneOutcome.settled idle, history⟩
      · rw [trace, requestNo_plain plain]
        simp [requestNo, requestEffect, isRequest]
  | refused chunk method bytes accepted trace wasIdle idle target_eq =>
      refine ⟨wellFormed, ⟨?_, ?_⟩, fun active => absurd idle active,
        fun active => absurd idle active, fun active => absurd idle active⟩
      · intro _
        rw [trace]
        exact settled_of_closed (by simp [requestNo, requestEffect, isRequest]) rfl
      · rw [trace]
        exact ⟨trivial, tracked.oneOutcome.settled wasIdle, history⟩
  | ended added trace plain active won idle waiting client_eq =>
      refine ⟨wellFormed, ⟨?_, ?_⟩, fun active => absurd idle active,
        fun active => absurd idle active, fun active => absurd idle active⟩
      · intro _
        rw [trace]
        exact settled_plain plain
          (settled_of_forwarded (tracked.asked active) (tracked.won active won))
      · rw [trace]
        exact history_plain plain history
  | forwarded later node slot chunk inIbd stuck connEvent results event_eq out trace
      plain complete active unwon chosen after client_eq =>
      have plainEarlier := isPlain_deliveryEffects proxy node slot chunk stuck
      have once : outcomes result.trace = (1, 0) := by
        rw [trace, outcomes_plain plain, outcomes_cons rfl, outcomes_plain plainEarlier,
          tracked.unwon active unwon]
        rfl
      have asked : requestNo result.trace ≠ 0 := by
        rw [trace, requestNo_plain plain, requestNo_cons rfl, requestNo_plain plainEarlier]
        exact tracked.asked active
      have framed : Proper (forwardEffect proxy node slot chunk inIbd results)
          (deliveryEffects proxy node slot chunk stuck ++ proxy.trace) := by
        subst event_eq
        exact complete_of_bounded complete (bounded _ out)
      refine ⟨wellFormed, ⟨fun _ => settled_of_forwarded asked once, ?_⟩, fun _ => asked, ?_,
        fun _ _ => once⟩
      · rw [trace]
        exact history_plain plain ⟨framed, history_plain plainEarlier history⟩
      · intro stillActive stillUnwon
        rcases after with idle | ⟨-, won⟩
        · exact absurd idle stillActive
        · exact absurd stillUnwon won
  | closed later earlier trace plainLater plainEarlier active unwon idle waiting
      client_eq =>
      have closed : outcomes result.trace = (0, 1) := by
        rw [trace, outcomes_plain plainLater, outcomes_cons rfl, outcomes_plain plainEarlier,
          tracked.unwon active unwon]
        rfl
      have asked : requestNo result.trace ≠ 0 := by
        rw [trace, requestNo_plain plainLater, requestNo_cons rfl,
          requestNo_plain plainEarlier]
        exact tracked.asked active
      refine ⟨wellFormed, ⟨fun _ => settled_of_closed asked closed, ?_⟩,
        fun active => absurd idle active, fun active => absurd idle active,
        fun active => absurd idle active⟩
      rw [trace]
      exact history_plain plainLater ⟨trivial, history_plain plainEarlier history⟩

theorem rpcProxyCreate_tracked (boot : Boot n) : Tracked (rpcProxyCreate boot) where
  wellFormed := rpcProxyCreate_wellFormed boot
  oneOutcome := ⟨fun _ => rfl, trivial⟩
  asked active := absurd rfl active
  unwon active := absurd rfl active
  won active := absurd rfl active

/--
However responses, errors, retries, late events, notifies, rotations and
timeouts are ordered, each request is answered by exactly one complete
response or by exactly one close, before the proxy is idle again, and by
nothing afterwards.
-/
theorem oneOutcome_of_bounded (env : Env) (boot : Boot n) (events : List (Event n))
    (bounded : Along (step env) Bounded (rpcProxyCreate boot) events) :
    Throughout (step env) OneOutcome (rpcProxyCreate boot) events := by
  apply Throughout.mono fun proxy (tracked : Tracked proxy) => tracked.oneOutcome
  exact throughout_of_along (step_tracked env) (rpcProxyCreate_tracked boot) bounded

/--
The first request is answered by the second of two nodes after an error of
the first.  The second request loses both nodes, and its client is closed.
-/
def answeredThenClosed : List (Event 2) :=
  [clientConnects, clientSends addressRequest,
    slotWrites 0 0 1000, slotWrites 1 0 1000,
    slotReads 0 0 errorResponse [.accepted 1000],
    slotReads 1 0 doneResponse [.accepted 1000],
    clientSends blockRequest,
    slotFails 0 0, slotFails 0 1, slotFails 1 0, slotFails 1 1]

theorem oneOutcome_of_bounded_answeredThenClosed :
    Along (step exampleEnv) Bounded (rpcProxyCreate (exampleBoot 2)) answeredThenClosed ∧
      Throughout (step exampleEnv) OneOutcome (rpcProxyCreate (exampleBoot 2))
        answeredThenClosed ∧
      outcomes (exampleRun 2 (answeredThenClosed.take 6)).trace = (1, 0) ∧
      outcomes (exampleRun 2 answeredThenClosed).trace = (0, 1) := by
  have facts :
      Along (step exampleEnv) Bounded (rpcProxyCreate (exampleBoot 2)) answeredThenClosed ∧
        outcomes (exampleRun 2 (answeredThenClosed.take 6)).trace = (1, 0) ∧
        outcomes (exampleRun 2 answeredThenClosed).trace = (0, 1) := by
    decide +kernel
  exact ⟨facts.1,
    oneOutcome_of_bounded exampleEnv (exampleBoot 2) answeredThenClosed facts.1, facts.2⟩

end RpcRace.Outcomes
