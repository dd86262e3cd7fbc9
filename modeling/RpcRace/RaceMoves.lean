import RpcRace.Dispatch

/-!
# How a race moves and ends

The handlers of a response, an error and a timeout end with the same few
state changes.  `ResponseMove`, `ErrorMove` and `TimeoutMove` list them with
the state each leaves.  A race that is being raced satisfies `Racing`, and
that excludes the branches of the source which no run reaches: the height
fallback, and a winner in a race whose first answer already ends it.
-/

namespace RpcRace.RaceMoves

open RpcRace.Library.CString
open RpcRace.RpcConn
open RpcRace.ConnectionPair
open RpcRace.JsonResponse
open RpcRace.PairMoves
open RpcRace.RpcProxy
open RpcRace.Dispatch

variable {n : Nat}

/-! ## Components -/

section Components

variable (proxy : Proxy n) (node : Fin n) (slot : Fin 2)

theorem setSlot_eq (conn : UpstreamConn) :
    proxy.setSlot node slot conn =
      proxy.setPair node ((proxy.pairs node).setSlot slot conn) :=
  rfl

theorem setPair_slot (other : Fin n) (pair : ConnPair) :
    (proxy.setPair node pair).slot other slot =
      if other = node then pair.slots slot else proxy.slot other slot := by
  by_cases same : other = node
  · subst same
    simp [Proxy.slot]
  · simp [Proxy.slot, same]

theorem setSlot_slot (other : Fin n) (index : Fin 2) (conn : UpstreamConn) :
    (proxy.setSlot node slot conn).slot other index =
      if other = node ∧ index = slot then conn else proxy.slot other index := by
  rw [setSlot_eq, setPair_slot]
  by_cases same : other = node
  · subst same
    simp [setSlot_slots, Proxy.slot]
  · simp [same]

@[simp]
theorem setSlot_slot_self (conn : UpstreamConn) :
    (proxy.setSlot node slot conn).slot node slot = conn := by
  simp [setSlot_slot]

@[simp]
theorem emit_slot (effect : Effect n) (other : Fin n) (index : Fin 2) :
    (proxy.emit effect).slot other index = proxy.slot other index :=
  rfl

@[simp]
theorem setSlot_race (conn : UpstreamConn) :
    (proxy.setSlot node slot conn).race = proxy.race :=
  rfl

@[simp]
theorem setSlot_client (conn : UpstreamConn) :
    (proxy.setSlot node slot conn).client = proxy.client :=
  rfl

@[simp]
theorem setSlot_trace (conn : UpstreamConn) :
    (proxy.setSlot node slot conn).trace = proxy.trace :=
  rfl

@[simp]
theorem setSlot_timers (conn : UpstreamConn) :
    (proxy.setSlot node slot conn).timers = proxy.timers :=
  rfl

@[simp]
theorem setSlot_rpcTimeoutTimerFd (conn : UpstreamConn) :
    (proxy.setSlot node slot conn).rpcTimeoutTimerFd = proxy.rpcTimeoutTimerFd :=
  rfl

@[simp]
theorem setSlot_now (conn : UpstreamConn) :
    (proxy.setSlot node slot conn).now = proxy.now :=
  rfl

@[simp]
theorem setSlot_nextFd (conn : UpstreamConn) :
    (proxy.setSlot node slot conn).nextFd = proxy.nextFd :=
  rfl

@[simp]
theorem cancelRpcTimeout_race : (cancelRpcTimeout proxy).race = proxy.race := by
  unfold cancelRpcTimeout
  split <;> rfl

@[simp]
theorem cancelRpcTimeout_client : (cancelRpcTimeout proxy).client = proxy.client := by
  unfold cancelRpcTimeout
  split <;> rfl

@[simp]
theorem cancelRpcTimeout_pairs : (cancelRpcTimeout proxy).pairs = proxy.pairs := by
  unfold cancelRpcTimeout
  split <;> rfl

@[simp]
theorem cancelRpcTimeout_nextFd : (cancelRpcTimeout proxy).nextFd = proxy.nextFd := by
  unfold cancelRpcTimeout
  split <;> rfl

/-- What cancelling adds to the trace. -/
def cancelEffects : List (Effect n) :=
  proxy.rpcTimeoutTimerFd.toList.map .timerClosed

/-- A cancelled timeout closes its timer and does nothing else. -/
theorem forall_cancelEffects {property : Effect n → Prop}
    (closed : ∀ fd, property (.timerClosed fd)) :
    ∀ effect ∈ cancelEffects proxy, property effect := by
  intro effect member
  rcases List.mem_map.mp member with ⟨fd, -, rfl⟩
  exact closed fd

/-- `race_complete` adds its own record and that of the timeout. -/
theorem forall_raceComplete {property : Effect n → Prop} (completed : property .raceCompleted)
    (closed : ∀ fd, property (.timerClosed fd)) :
    ∀ effect ∈ Effect.raceCompleted :: cancelEffects proxy, property effect :=
  List.forall_mem_cons.mpr ⟨completed, forall_cancelEffects proxy closed⟩

theorem cancelRpcTimeout_trace :
    (cancelRpcTimeout proxy).trace = cancelEffects proxy ++ proxy.trace := by
  unfold cancelRpcTimeout cancelEffects
  cases proxy.rpcTimeoutTimerFd <;> rfl

variable (results : List SendResult)

@[simp]
theorem sendUpstreamResponseToClient_race :
    (sendUpstreamResponseToClient proxy node slot results).race = proxy.race :=
  rfl

@[simp]
theorem sendUpstreamResponseToClient_client :
    (sendUpstreamResponseToClient proxy node slot results).client = proxy.client :=
  rfl

@[simp]
theorem sendUpstreamResponseToClient_pairs :
    (sendUpstreamResponseToClient proxy node slot results).pairs = proxy.pairs :=
  rfl

@[simp]
theorem sendUpstreamResponseToClient_timers :
    (sendUpstreamResponseToClient proxy node slot results).timers = proxy.timers :=
  rfl

@[simp]
theorem sendUpstreamResponseToClient_nextFd :
    (sendUpstreamResponseToClient proxy node slot results).nextFd = proxy.nextFd :=
  rfl

variable (env : Env) (created : Bool)

@[simp]
theorem startRpcTimeout_race : (startRpcTimeout env proxy created).race = proxy.race := by
  unfold startRpcTimeout
  split_ifs <;> rfl

@[simp]
theorem startRpcTimeout_client :
    (startRpcTimeout env proxy created).client = proxy.client := by
  unfold startRpcTimeout
  split_ifs <;> rfl

@[simp]
theorem startRpcTimeout_pairs : (startRpcTimeout env proxy created).pairs = proxy.pairs := by
  unfold startRpcTimeout
  split_ifs <;> rfl

theorem startRpcTimeout_nextFd :
    proxy.nextFd ≤ (startRpcTimeout env proxy created).nextFd := by
  simp only [startRpcTimeout]
  split_ifs
  · exact le_rfl
  · exact Nat.le_succ _

/-- What starting adds to the trace. -/
def timerEffects : List (Effect n) :=
  if env.rpcTimeoutMs = 0 ∨ created = false then [] else [.timerStarted proxy.nextFd]

theorem forall_timerEffects {property : Effect n → Prop}
    (started : ∀ fd, property (.timerStarted fd)) :
    ∀ effect ∈ timerEffects proxy env created, property effect := by
  unfold timerEffects
  split_ifs
  · exact List.forall_mem_nil _
  · exact List.forall_mem_singleton.mpr (started _)

theorem startRpcTimeout_trace :
    (startRpcTimeout env proxy created).trace =
      timerEffects proxy env created ++ proxy.trace := by
  unfold startRpcTimeout timerEffects
  split_ifs <;> rfl

@[simp]
theorem raceComplete_race : (raceComplete proxy).race = proxy.race.complete := by
  simp [raceComplete]

/-- `race_complete` leaves the proxy idle. -/
theorem raceComplete_state : (raceComplete proxy).race.state = .idle := by
  rw [raceComplete_race]
  rfl

@[simp]
theorem raceComplete_client : (raceComplete proxy).client = proxy.client := by
  simp [raceComplete]

@[simp]
theorem raceComplete_pairs :
    (raceComplete proxy).pairs node = connPairTick (resetParticipant (proxy.pairs node)) := by
  simp [raceComplete]

@[simp]
theorem raceComplete_nextFd : (raceComplete proxy).nextFd = proxy.nextFd := by
  simp [raceComplete]

theorem raceComplete_trace :
    (raceComplete proxy).trace = .raceCompleted :: cancelEffects proxy ++ proxy.trace := by
  rw [List.cons_append, ← cancelRpcTimeout_trace]
  rfl

end Components

/-! ## The race being raced -/

/-- What holds of the race fields while a request is raced. -/
structure Racing (race : Race n) : Prop where
  pending : 1 ≤ race.responsesPending
  bestNode : race.bestGbtNodeIdx = none
  unmatched : race.gbtHeightMatched = false
  single : race.allMustComplete = false → race.winnerIdx = none
  broadcast : race.allMustComplete = true → race.methodIs methodGbt = false
  requestLen : race.requestLen ≠ 0

/-- A `getblocktemplate` race has no winner while it is raced. -/
theorem Racing.unwon_of_isGbtRace {race : Race n} (racing : Racing race)
    (gbt : race.isGbtRace = true) :
    race.winnerIdx = none := by
  refine racing.single ?_
  by_contra all
  have other := racing.broadcast (by simpa using all)
  simp [Race.isGbtRace, other] at gbt

/-! ## Responses -/

/-- The state in which `on_response` is called after a last chunk arrived. -/
def delivery (proxy : Proxy n) (node : Fin n) (slot : Fin 2) (chunk : Memory) : Proxy n :=
  ((proxy.setSlot node slot ((proxy.slot node slot).absorb chunk)).emit
    (.transferred node slot [] chunk)).emit
      (.delivered node slot ((proxy.slot node slot).absorb chunk))

/-- The state after a delivered response was judged. -/
@[simps]
def answered (proxy : Proxy n) (node : Fin n) (slot : Fin 2) (chunk : Memory)
    (race : Race n) (inIbd : Bool) : Proxy n :=
  { proxy with
    race := race
    pairs :=
      Function.update proxy.pairs node
        ((proxy.pairs node).setSlot slot
          { (proxy.slot node slot).absorb chunk with inIbd := inIbd })
    trace :=
      .delivered node slot ((proxy.slot node slot).absorb chunk) ::
        .transferred node slot [] chunk :: proxy.trace }

/-- Record that a node became sticky. -/
def stick (proxy : Proxy n) (node : Fin n) (stuck : Bool) : Proxy n :=
  if stuck then proxy.emit (.stickySet node) else proxy

/-- What `stick` adds to the trace. -/
def stickEffects (node : Fin n) (stuck : Bool) : List (Effect n) :=
  if stuck then [.stickySet node] else []

theorem stick_trace (proxy : Proxy n) (node : Fin n) (stuck : Bool) :
    (stick proxy node stuck).trace = stickEffects node stuck ++ proxy.trace := by
  cases stuck <;> rfl

/-- The early transition to idle when the winner's own response was just delivered. -/
def released (proxy : Proxy n) (node : Fin n) (slot : Fin 2) : Proxy n :=
  ({ proxy with race := { proxy.race with state := .idle } } : Proxy n).setSlot node slot
    (rpcConnReset (proxy.slot node slot))

/-- The race fields after one response was counted and judged. -/
structure Counted (env : Env) (before : Race n) (conn : UpstreamConn) (node : Fin n)
    (stuck : Bool) (after : Race n) : Prop where
  state_eq : after.state = before.state
  pending_eq : after.responsesPending = before.responsesPending - 1
  all_eq : after.allMustComplete = before.allMustComplete
  method_eq : after.method = before.method
  retried_eq : after.nodeRetried = before.nodeRetried
  requestLen_eq : after.requestLen = before.requestLen
  notify_eq : after.notifyPending = before.notifyPending
  stuck_eq : stuck = (before.isGbtRace && !responseIsError env.yyjsonRead conn)
  sticky_eq : after.stickyNodeIdx = if stuck then some node else before.stickyNodeIdx
  winner_eq :
    after.winnerIdx =
      if responseIsError env.yyjsonRead conn then before.winnerIdx
      else before.winnerIdx.or (some node)
  fallback_eq :
    stuck = false →
      after.bestGbtNodeIdx = before.bestGbtNodeIdx ∧
        after.gbtHeightMatched = before.gbtHeightMatched

/-- What `on_upstream_response` does for a response to the race. -/
inductive ResponseMove (env : Env) (proxy : Proxy n) (node : Fin n) (slot : Fin 2)
    (chunk : Memory) (results : List SendResult) : Proxy n → Prop where
  | counted (race : Race n) (inIbd : Bool)
      (counting : Counted env proxy.race ((proxy.slot node slot).absorb chunk) node false race)
      (more : 1 < proxy.race.responsesPending)
      (unsent :
        responseIsError env.yyjsonRead ((proxy.slot node slot).absorb chunk) = true ∨
          proxy.race.winnerIdx ≠ none) :
      ResponseMove env proxy node slot chunk results
        (answered proxy node slot chunk race inIbd)
  | broadcastWon (race : Race n) (inIbd : Bool)
      (counting : Counted env proxy.race ((proxy.slot node slot).absorb chunk) node false race)
      (more : 1 < proxy.race.responsesPending)
      (all : proxy.race.allMustComplete = true)
      (first : proxy.race.winnerIdx = none)
      (valid : responseIsError env.yyjsonRead ((proxy.slot node slot).absorb chunk) = false) :
      ResponseMove env proxy node slot chunk results
        (sendUpstreamResponseToClient (answered proxy node slot chunk race inIbd)
          node slot results)
  | won (race : Race n) (inIbd stuck : Bool)
      (counting : Counted env proxy.race ((proxy.slot node slot).absorb chunk) node stuck race)
      (more : 1 < proxy.race.responsesPending)
      (single : proxy.race.allMustComplete = false)
      (first : proxy.race.winnerIdx = none)
      (valid : responseIsError env.yyjsonRead ((proxy.slot node slot).absorb chunk) = false) :
      ResponseMove env proxy node slot chunk results
        (released
          (sendUpstreamResponseToClient
            (stick (answered proxy node slot chunk race inIbd) node stuck) node slot results)
          node slot)
  | ended (race : Race n) (inIbd : Bool)
      (counting : Counted env proxy.race ((proxy.slot node slot).absorb chunk) node false race)
      (last : proxy.race.responsesPending = 1)
      (won : proxy.race.winnerIdx ≠ none) :
      ResponseMove env proxy node slot chunk results
        (raceComplete (answered proxy node slot chunk race inIbd))
  | settled (race : Race n) (inIbd stuck : Bool)
      (counting : Counted env proxy.race ((proxy.slot node slot).absorb chunk) node stuck race)
      (last : proxy.race.responsesPending = 1)
      (first : proxy.race.winnerIdx = none) :
      ResponseMove env proxy node slot chunk results
        (raceComplete
          (sendUpstreamResponseToClient
            (stick (answered proxy node slot chunk race inIbd) node stuck) node slot results))

theorem applyJudgement_delivery (proxy : Proxy n) (node : Fin n) (slot : Fin 2)
    (chunk : Memory) (judgement : Judgement n) (results : List SendResult) :
    applyJudgement (delivery proxy node slot chunk) node slot judgement results =
      if judgement.forward then
        sendUpstreamResponseToClient
          (stick (answered proxy node slot chunk judgement.race judgement.inIbd) node
            judgement.sticky) node slot results
      else
        stick (answered proxy node slot chunk judgement.race judgement.inIbd) node
          judgement.sticky := by
  have marked :
      ({ delivery proxy node slot chunk with race := judgement.race } : Proxy n).setSlot
          node slot
          { (delivery proxy node slot chunk).slot node slot with inIbd := judgement.inIbd } =
        answered proxy node slot chunk judgement.race judgement.inIbd := by
    simp [delivery, answered, Proxy.setSlot, Proxy.setPair, Proxy.emit, ConnPair.setSlot,
      Proxy.slot]
  unfold applyJudgement
  rw [marked]
  rfl

/-- Every judgement counts one response, and forwards the first valid one. -/
theorem judgeResponse_counted (env : Env) (race : Race n) (conn : UpstreamConn)
    (node : Fin n) (racing : Racing race) :
    Counted env race conn node (judgeResponse env race.countDown conn node).sticky
        (judgeResponse env race.countDown conn node).race ∧
      (judgeResponse env race.countDown conn node).forward =
        (race.winnerIdx.isNone && !responseIsError env.yyjsonRead conn) := by
  have gbt_eq : race.countDown.isGbtRace = race.isGbtRace := rfl
  unfold judgeResponse
  rw [gbt_eq]
  cases error : responseIsError env.yyjsonRead conn with
  | true =>
      simp only [if_true, judgeError]
      exact ⟨⟨rfl, rfl, rfl, rfl, rfl, rfl, rfl, by simp [error], rfl,
        by simp [error, Race.countDown],
        fun _ => ⟨rfl, rfl⟩⟩, by simp⟩
  | false =>
      cases gbt : race.isGbtRace with
      | true =>
          have unwon := racing.unwon_of_isGbtRace gbt
          have unmatched : race.countDown.gbtHeightMatched = false := racing.unmatched
          simp only [Bool.false_eq_true, if_false, if_true, judgeGbt, unmatched, true_and]
          split_ifs with matches_ fresh
          · exact ⟨⟨rfl, rfl, rfl, rfl, rfl, rfl, rfl, by simp [error, gbt], by simp [Race.wonAt],
              by simp [error, Race.wonAt, unwon], by simp⟩, by simp [unwon]⟩
          · unfold Race.trackBest
            split_ifs
            · exact ⟨⟨rfl, rfl, rfl, rfl, rfl, rfl, rfl, by simp [error, gbt],
                by simp [Race.wonAt], by simp [error, Race.wonAt, unwon], by simp⟩,
                by simp [unwon]⟩
            · exact ⟨⟨rfl, rfl, rfl, rfl, rfl, rfl, rfl, by simp [error, gbt],
                by simp [Race.wonAt], by simp [error, Race.wonAt, unwon], by simp⟩,
                by simp [unwon]⟩
          · exfalso
            apply fresh
            unfold Race.trackBest
            split_ifs <;> exact unwon
      | false =>
          simp only [Bool.false_eq_true, if_false, judgeGeneric]
          cases winner : race.winnerIdx with
          | none =>
              have unwon : race.countDown.winnerIdx = none := winner
              rw [if_pos unwon]
              exact ⟨⟨rfl, rfl, rfl, rfl, rfl, rfl, rfl, by simp [gbt], rfl,
                by simp [error, winner], fun _ => ⟨rfl, rfl⟩⟩, by simp⟩
          | some other =>
              have won : race.countDown.winnerIdx ≠ none := by simp [Race.countDown, winner]
              rw [if_neg won]
              exact ⟨⟨rfl, rfl, rfl, rfl, rfl, rfl, rfl, by simp [gbt], rfl,
                by simp [error, winner, Race.countDown], fun _ => ⟨rfl, rfl⟩⟩, by simp⟩

/-- The just-delivered connection is what the race logic reads next. -/
theorem answered_slot (proxy : Proxy n) (node : Fin n) (slot : Fin 2) (chunk : Memory)
    (race : Race n) (inIbd : Bool) :
    (answered proxy node slot chunk race inIbd).slot node slot =
      { (proxy.slot node slot).absorb chunk with inIbd := inIbd } := by
  simp [answered, Proxy.slot]

@[simp]
theorem stick_race (proxy : Proxy n) (node : Fin n) (stuck : Bool) :
    (stick proxy node stuck).race = proxy.race := by
  cases stuck <;> rfl

@[simp]
theorem stick_pairs (proxy : Proxy n) (node : Fin n) (stuck : Bool) :
    (stick proxy node stuck).pairs = proxy.pairs := by
  cases stuck <;> rfl

@[simp]
theorem stick_client (proxy : Proxy n) (node : Fin n) (stuck : Bool) :
    (stick proxy node stuck).client = proxy.client := by
  cases stuck <;> rfl

/-- The record of forwarding the response that was just delivered. -/
def forwardEffect (proxy : Proxy n) (node : Fin n) (slot : Fin 2) (chunk : Memory)
    (inIbd : Bool) (results : List SendResult) : Effect n :=
  .forwarded node slot { (proxy.slot node slot).absorb chunk with inIbd := inIbd }
    proxy.client.target
    (clientBytesWritten proxy.client
      { (proxy.slot node slot).absorb chunk with inIbd := inIbd } results)

/-- The trace after the response that was just delivered was forwarded. -/
theorem forwarded_trace (proxy : Proxy n) (node : Fin n) (slot : Fin 2) (chunk : Memory)
    (race : Race n) (inIbd stuck : Bool) (results : List SendResult) :
    (sendUpstreamResponseToClient (stick (answered proxy node slot chunk race inIbd) node stuck)
        node slot results).trace =
      forwardEffect proxy node slot chunk inIbd results ::
        (stickEffects node stuck ++ (answered proxy node slot chunk race inIbd).trace) := by
  have slot_eq : (stick (answered proxy node slot chunk race inIbd) node stuck).slot node slot =
      { (proxy.slot node slot).absorb chunk with inIbd := inIbd } := by
    rw [Proxy.slot, stick_pairs]
    exact answered_slot proxy node slot chunk race inIbd
  simp only [sendUpstreamResponseToClient, Proxy.emit_trace, slot_eq, stick_client,
    answered_client, stick_trace, forwardEffect]

/-- After its own response the winner's slot alone is reset. -/
theorem earlyIdle_eq (proxy : Proxy n) (node : Fin n) (slot : Fin 2)
    (active : slot = (proxy.pairs node).activeIdx)
    (busy : (proxy.slot node slot).inFlight = true) :
    earlyIdle proxy node node slot = released proxy node slot := by
  subst active
  have inFlight :
      (({ proxy with race := { proxy.race with state := .idle } } : Proxy n).slot node
        (proxy.pairs node).activeIdx).inFlight = true :=
    busy
  simp only [earlyIdle, resetInFlight, inFlight, if_true, ne_eq, not_true_eq_false, or_self,
    if_false]
  rfl

/-- When only errors came in, the last of them is forwarded. -/
theorem settleWithoutWinner_eq (proxy : Proxy n) (node : Fin n) (slot : Fin 2)
    (isGbtRace : Bool) (results : List SendResult)
    (active : slot = (proxy.pairs node).activeIdx)
    (best : proxy.race.bestGbtNodeIdx = none)
    (failed : proxy.race.lastErrorIdx = some node)
    (received : 0 < (proxy.slot node slot).recvLen) :
    settleWithoutWinner proxy isGbtRace results =
      sendUpstreamResponseToClient proxy node slot results := by
  subst active
  have nonempty : (proxy.active node).recvLen > 0 := received
  unfold settleWithoutWinner
  rw [best, failed]
  cases isGbtRace <;> simp [nonempty]

section FinishResponse

variable (proxy : Proxy n) (node : Fin n) (slot : Fin 2) (isGbtRace : Bool)
variable (results : List SendResult)

theorem finishResponse_of_last_unwon (last : proxy.race.responsesPending ≤ 0)
    (unwon : proxy.race.winnerIdx = none) :
    finishResponse proxy node slot isGbtRace results =
      raceComplete (settleWithoutWinner proxy isGbtRace results) := by
  rw [finishResponse, if_pos last, if_pos unwon]

theorem finishResponse_of_last_won (last : proxy.race.responsesPending ≤ 0)
    (won : proxy.race.winnerIdx ≠ none) :
    finishResponse proxy node slot isGbtRace results = raceComplete proxy := by
  rw [finishResponse, if_pos last, if_neg won]

theorem finishResponse_of_more_single (more : 0 < proxy.race.responsesPending)
    (single : proxy.race.allMustComplete = false) {winner : Fin n}
    (won : proxy.race.winnerIdx = some winner) :
    finishResponse proxy node slot isGbtRace results = earlyIdle proxy winner node slot := by
  unfold finishResponse
  rw [if_neg (not_le.mpr more), single, won]

theorem finishResponse_of_more (more : 0 < proxy.race.responsesPending)
    (stays : proxy.race.allMustComplete = true ∨ proxy.race.winnerIdx = none) :
    finishResponse proxy node slot isGbtRace results = proxy := by
  unfold finishResponse
  rw [if_neg (not_le.mpr more)]
  rcases stays with all | unwon
  · rw [all]
  · rw [unwon]
    cases proxy.race.allMustComplete <;> rfl

end FinishResponse

/-- A response to the race is one of the moves. -/
theorem finishResponse_move (env : Env) (proxy : Proxy n) (node : Fin n) (slot : Fin 2)
    (chunk : Memory) (results : List SendResult) (racing : Racing proxy.race)
    (active : slot = (proxy.pairs node).activeIdx)
    (receiving : (proxy.slot node slot).state = .receiving) (nonempty : chunk ≠ []) :
    ResponseMove env proxy node slot chunk results
      (finishResponse
        (applyJudgement (delivery proxy node slot chunk) node slot
          (judgeResponse env proxy.race.countDown ((proxy.slot node slot).absorb chunk) node)
          results)
        node slot proxy.race.isGbtRace results) := by
  obtain ⟨counting, forward_eq⟩ := judgeResponse_counted env proxy.race
    ((proxy.slot node slot).absorb chunk) node racing
  have errorCase :
      responseIsError env.yyjsonRead ((proxy.slot node slot).absorb chunk) = true →
        (judgeResponse env proxy.race.countDown ((proxy.slot node slot).absorb chunk)
          node).race.lastErrorIdx = some node := by
    intro error
    simp [judgeResponse, error, judgeError]
  rw [applyJudgement_delivery]
  generalize judgeResponse env proxy.race.countDown ((proxy.slot node slot).absorb chunk)
    node = judgement at counting forward_eq errorCase ⊢
  obtain ⟨race, inIbd, stuck, forward⟩ := judgement
  dsimp only at counting forward_eq errorCase ⊢
  have pending := racing.pending
  have pending_eq := counting.pending_eq
  have activeAfter :
      slot = ((answered proxy node slot chunk race inIbd).pairs node).activeIdx := by
    simpa [answered] using active
  have slotAfter := answered_slot proxy node slot chunk race inIbd
  by_cases first : proxy.race.winnerIdx = none
  · cases error : responseIsError env.yyjsonRead ((proxy.slot node slot).absorb chunk) with
    | true =>
        obtain rfl : stuck = false := by rw [counting.stuck_eq, error]; simp
        obtain rfl : forward = false := by rw [forward_eq, error]; simp
        have unwon : (answered proxy node slot chunk race inIbd).race.winnerIdx = none := by
          rw [show (answered proxy node slot chunk race inIbd).race = race from rfl,
            counting.winner_eq, error, first]
          rfl
        change ResponseMove env proxy node slot chunk results
          (finishResponse (answered proxy node slot chunk race inIbd) node slot _ results)
        by_cases last : race.responsesPending ≤ 0
        · rw [finishResponse_of_last_unwon _ _ _ _ _ last unwon,
            settleWithoutWinner_eq _ node slot _ results activeAfter
              ((counting.fallback_eq rfl).1.trans racing.bestNode) (errorCase error) ?_]
          · exact .settled race inIbd false counting (by omega) first
          · rw [slotAfter]
            have := List.length_pos_iff.mpr nonempty
            simp only [absorb_recvLen]
            omega
        · rw [finishResponse_of_more _ _ _ _ _ (not_le.mp last) (Or.inr unwon)]
          exact .counted race inIbd counting (by omega) (Or.inl error)
    | false =>
        obtain rfl : forward = true := by rw [forward_eq, error, first]; rfl
        have won : race.winnerIdx = some node := by
          rw [counting.winner_eq, error, first]; rfl
        rw [if_pos rfl]
        have race_eq : (sendUpstreamResponseToClient
            (stick (answered proxy node slot chunk race inIbd) node stuck)
            node slot results).race = race := by
          simp [sendUpstreamResponseToClient, answered]
        by_cases last : race.responsesPending ≤ 0
        · rw [finishResponse_of_last_won _ _ _ _ _ (by rwa [race_eq]) (by simp [won])]
          exact .settled race inIbd stuck counting (by omega) first
        · cases all : race.allMustComplete with
          | false =>
              rw [finishResponse_of_more_single _ _ _ _ _ (by rw [race_eq]; omega)
                (by rw [race_eq, all]) (by rw [race_eq, won]), earlyIdle_eq]
              · exact .won race inIbd stuck counting (by omega)
                  (counting.all_eq.symm.trans all) first error
              · simpa [sendUpstreamResponseToClient] using activeAfter
              · have slot_eq : (sendUpstreamResponseToClient
                    (stick (answered proxy node slot chunk race inIbd) node stuck)
                    node slot results).slot node slot =
                      (answered proxy node slot chunk race inIbd).slot node slot := by
                  simp [sendUpstreamResponseToClient, Proxy.slot]
                rw [slot_eq, slotAfter]
                simp [UpstreamConn.inFlight, receiving]
          | true =>
              have broadcast := counting.all_eq.symm.trans all
              obtain rfl : stuck = false := by
                rw [counting.stuck_eq, Race.isGbtRace, racing.broadcast broadcast]; rfl
              rw [finishResponse_of_more _ _ _ _ _ (by rw [race_eq]; omega)
                (by rw [race_eq]; exact Or.inl all)]
              exact .broadcastWon race inIbd counting (by omega) broadcast first error
  · -- only a broadcast goes on after its winner
    have all : proxy.race.allMustComplete = true := by
      by_contra other
      exact first (racing.single (by simpa using other))
    obtain rfl : stuck = false := by
      rw [counting.stuck_eq, Race.isGbtRace, racing.broadcast all]; rfl
    obtain ⟨winner, winner_eq⟩ := Option.ne_none_iff_exists'.mp first
    obtain rfl : forward = false := by rw [forward_eq, winner_eq]; rfl
    have won : race.winnerIdx ≠ none := by
      rw [counting.winner_eq, winner_eq]
      split_ifs <;> simp
    change ResponseMove env proxy node slot chunk results
      (finishResponse (answered proxy node slot chunk race inIbd) node slot _ results)
    by_cases last : race.responsesPending ≤ 0
    · rw [finishResponse_of_last_won _ _ _ _ _ last won]
      exact .ended race inIbd counting (by omega) first
    · rw [finishResponse_of_more _ _ _ _ _ (not_le.mp last)
        (Or.inl (counting.all_eq.trans all))]
      exact .counted race inIbd counting (by omega) (Or.inr first)

/-! ## Errors -/

/-- The state in which `on_error` is called. -/
def breakage (proxy : Proxy n) (node : Fin n) (slot : Fin 2) : Proxy n :=
  ((proxy.setSlot node slot (proxy.slot node slot).dropFd).emit
    (.transferred node slot [] [])).emit (.failed node slot)

/-- The state after a node was counted as failed. -/
def lost (proxy : Proxy n) (node : Fin n) : Proxy n :=
  ({ proxy with
    race := { proxy.race.countDown with lastErrorIdx := some node } } : Proxy n).emit
    (.gaveUp node)

/-- What happens once a node has failed for good. -/
inductive FailureMove (proxy : Proxy n) (node : Fin n) : Proxy n → Prop where
  | counted (more : 1 < proxy.race.responsesPending) :
      FailureMove proxy node (lost proxy node)
  | ended (last : proxy.race.responsesPending ≤ 1) (won : proxy.race.winnerIdx ≠ none) :
      FailureMove proxy node (raceComplete (lost proxy node))
  | closed (last : proxy.race.responsesPending ≤ 1) (unwon : proxy.race.winnerIdx = none) :
      FailureMove proxy node (raceComplete (closeClient (lost proxy node) true))

theorem nodeFailed_move (proxy : Proxy n) (node : Fin n) :
    FailureMove proxy node (nodeFailed proxy node) := by
  change FailureMove proxy node
    (if (lost proxy node).race.responsesPending ≤ 0 then
      if (lost proxy node).race.winnerIdx = none then
        raceComplete (closeClient (lost proxy node) true)
      else raceComplete (lost proxy node)
    else lost proxy node)
  have pending_eq :
      (lost proxy node).race.responsesPending = proxy.race.responsesPending - 1 :=
    rfl
  have winner_eq : (lost proxy node).race.winnerIdx = proxy.race.winnerIdx := rfl
  rw [pending_eq, winner_eq]
  split_ifs with last unwon
  · exact .closed (by omega) unwon
  · exact .ended (by omega) unwon
  · exact .counted (by omega)

/-- The state after a retry on the former standby has started. -/
def retrial (proxy : Proxy n) (node : Fin n) : Proxy n :=
  ((swapOnError proxy node).setPair node
    (sendActive ((swapOnError proxy node).pairs node) proxy.race.requestLen)).emit
      (.started node ((swapOnError proxy node).pairs node).activeIdx proxy.race.requestLen)

/-- `on_upstream_error` sends the request again on the former standby. -/
def Retryable (proxy : Proxy n) (node : Fin n) : Prop :=
  proxy.race.nodeRetried node = false ∧
    ((proxy.pairs node).slots (proxy.pairs node).standbyIdx).state = .connected ∧
      proxy.race.requestLen ≠ 0

instance (proxy : Proxy n) (node : Fin n) : Decidable (Retryable proxy node) :=
  inferInstanceAs (Decidable (_ ∧ _ ∧ _))

/-- What `on_upstream_error` does outside the drain branch. -/
inductive ErrorMove (proxy : Proxy n) (node : Fin n) : Proxy n → Prop where
  | retried (retryable : Retryable proxy node) :
      ErrorMove proxy node (retrial proxy node)
  | twice (already : proxy.race.nodeRetried node = true) (result : Proxy n)
      (failure : FailureMove proxy node result) :
      ErrorMove proxy node result
  | lost (first : proxy.race.nodeRetried node = false) (final : ¬ Retryable proxy node)
      (result : Proxy n) (failure : FailureMove (swapOnError proxy node) node result) :
      ErrorMove proxy node result

/-- The pair is available after the swap if its standby is connected. -/
theorem swapOnError_available (proxy : Proxy n) (node : Fin n) :
    connPairIsAvailable ((swapOnError proxy node).pairs node) = true ↔
      ((proxy.pairs node).slots (proxy.pairs node).standbyIdx).state = .connected := by
  simp [swapOnError, connPairIsAvailable, connPairReportError, connPairGetActive,
    setSlot_slots, standbyIdx_ne]

theorem onUpstreamError_move (proxy : Proxy n) (node : Fin n) (slot : Fin 2)
    (active : proxy.race.state ≠ .idle) :
    ErrorMove proxy node (onUpstreamError proxy node slot) := by
  unfold onUpstreamError
  rw [if_neg active]
  split_ifs with already
  · exact .twice already _ (nodeFailed_move proxy node)
  · have first : proxy.race.nodeRetried node = false := by simpa using already
    dsimp only
    split_ifs with available
    · by_cases empty : proxy.race.requestLen = 0
      · have noSend : sendOnActive (swapOnError proxy node) node
            (swapOnError proxy node).race.requestLen = none := by
          simp [sendOnActive, rpcConnSend, swapOnError, empty]
        rw [noSend]
        exact .lost first (fun retryable => retryable.2.2 empty) _ (nodeFailed_move _ node)
      · rw [sendOnActive_eq _ _ (by simpa [swapOnError] using empty) available]
        exact .retried ⟨first, (swapOnError_available proxy node).mp available, empty⟩
    · exact .lost first
        (fun retryable => available ((swapOnError_available proxy node).mpr retryable.2.1))
        _ (nodeFailed_move _ node)

/-! ## Timeouts -/

/-- The state in which `rpc_timeout_cb` looks at the race. -/
def acknowledged (proxy : Proxy n) (fd : Nat) : Proxy n :=
  ({ proxy with timers := acknowledgeTimer proxy.timers fd proxy.now } : Proxy n).emit
    (.timerExpired fd proxy.now)

/-- The state after `responses_pending = 0`. -/
def uncounted (proxy : Proxy n) : Proxy n :=
  { proxy with race := { proxy.race with responsesPending := 0 } }

/-- The drain safety net over all nodes. -/
def unstuck (proxy : Proxy n) : Proxy n :=
  { proxy with pairs := fun node => resetStuck (proxy.pairs node) }

/-- What `rpc_timeout_cb` does. -/
inductive TimeoutMove (proxy : Proxy n) (fd : Nat) : Proxy n → Prop where
  | drained (idle : proxy.race.state = .idle) :
      TimeoutMove proxy fd (cancelRpcTimeout (unstuck (acknowledged proxy fd)))
  | ended (active : proxy.race.state ≠ .idle) (won : proxy.race.winnerIdx ≠ none) :
      TimeoutMove proxy fd (raceComplete (uncounted (acknowledged proxy fd)))
  | closed (active : proxy.race.state ≠ .idle) (unwon : proxy.race.winnerIdx = none) :
      TimeoutMove proxy fd
        (raceComplete (closeClient (uncounted (acknowledged proxy fd)) true))

theorem rpcTimeoutCb_move (proxy : Proxy n) (fd : Nat) (results : List SendResult)
    (racing : proxy.race.state ≠ .idle → Racing proxy.race) :
    TimeoutMove proxy fd (rpcTimeoutCb proxy fd results) := by
  change TimeoutMove proxy fd
    (if proxy.race.state = .idle then cancelRpcTimeout (unstuck (acknowledged proxy fd))
    else if proxy.race.winnerIdx = none then
      raceComplete (timeoutWithoutWinner (uncounted (acknowledged proxy fd)) results)
    else raceComplete (uncounted (acknowledged proxy fd)))
  split_ifs with idle unwon
  · exact .drained idle
  · have best : (uncounted (acknowledged proxy fd)).race.bestGbtNodeIdx = none :=
      (racing idle).bestNode
    have closes : timeoutWithoutWinner (uncounted (acknowledged proxy fd)) results =
        closeClient (uncounted (acknowledged proxy fd)) true := by
      unfold timeoutWithoutWinner
      rw [best]
      cases (uncounted (acknowledged proxy fd)).race.isGbtRace <;> rfl
    rw [closes]
    exact .closed idle unwon
  · exact .ended idle unwon

end RpcRace.RaceMoves
