import RpcRace.Statistics
import RpcRace.StickyNode

/-!
# What the proxy measures

The calls that `rpc_proxy.c` makes into `stats.c`, and the timestamps behind
them.  `eventCalls` lists the calls of one callback.  `Meters` is what they
leave: `request_start_ns` of every connection, `last_notify_ns`, the counters,
and the calls themselves, newest first.  The clock is read by the callbacks,
so its readings come with an event.

Of the three places that record the winner of a race, one is the height
fallback, which no run reaches (`eventCalls_conn`).  The counters therefore
agree with the trace: a race is counted when a node becomes sticky, and a
request when it is passed to dispatch (`Agreeing.countersAgree`).
-/

namespace RpcRace.Measurements

open RpcRace.Library.CString
open RpcRace.Library.Run
open RpcRace.RpcConn
open RpcRace.JsonResponse
open RpcRace.RpcProxy
open RpcRace.Dispatch
open RpcRace.RaceMoves
open RpcRace.ProxyMoves
open RpcRace.SlotMoves
open RpcRace.Requests
open RpcRace.Outcomes
open RpcRace.StickyNode
open RpcRace.Statistics

variable {n : Nat}

/-! ## The calls of a callback -/

/-- `yyjson_arr_size` of a value that passes `yyjson_is_arr`. -/
def arrSize : Json → Option Nat
  | .arr items => some items.length
  | _ => none

/-- The length of the `transactions` of a `getblocktemplate` result, if there are any. -/
def gbtTransactions (read : JsonReader) (conn : UpstreamConn) : Option Nat := do
  let root ← responseRoot read conn
  let result ← (← root.objGet (ascii "result")).asObj
  arrSize (← result.objGet (ascii "transactions"))

/-- `parse_gbt_tx_count`. -/
def parseGbtTxCount (read : JsonReader) (conn : UpstreamConn) : UInt32 :=
  UInt32.ofNat ((gbtTransactions read conn).getD 0)

/-- What `clock_monotonic_ns` returns in a callback: to the handler, and in `rpc_conn_send`. -/
structure Reading (n : Nat) where
  now : UInt64
  sent : Fin n → UInt64

/-- The timestamps, the counters, and the calls that were recorded, newest first. -/
structure Meters (n : Nat) where
  requestStartNs : Fin n → Fin 2 → UInt64
  lastNotifyNs : UInt64
  stats : Stats n
  calls : List (Call n)

/-- `elapsed_us`. -/
def elapsedUs (start now : UInt64) : UInt64 :=
  (if 0 < start then now - start else 0) / 1000

/-- `since_notify_us` for a connection that sent its request at `start`. -/
def sinceNotifyUs (lastNotify start now : UInt64) : UInt64 :=
  if 0 < lastNotify ∧ lastNotify ≤ start then (now - lastNotify) / 1000 else 0

/-- The calls for the winner of a template race. -/
def winnerCalls (env : Env) (node : Fin n) (conn : UpstreamConn) (elapsed since : UInt64) :
    List (Call n) :=
  [.gbt node elapsed (parseGbtTxCount env.yyjsonRead conn) since, .raceWin node,
    .notifyToGbt since]

/-- The calls of the height fallback; `elapsed` is the time of the last response. -/
def fallbackCalls (env : Env) (meters : Meters n) (judged : Proxy n) (isGbtRace : Bool)
    (elapsed now : UInt64) : List (Call n) :=
  match isGbtRace, judged.race.bestGbtNodeIdx with
  | true, some best =>
      if judged.race.responsesPending ≤ 0 ∧ judged.race.winnerIdx = none ∧
          0 < (judged.active best).recvLen then
        winnerCalls env best (judged.active best) elapsed
          (sinceNotifyUs meters.lastNotifyNs
            (meters.requestStartNs best (judged.pairs best).activeIdx) now)
      else []
  | _, _ => []

/-- The calls of `on_upstream_response`. -/
def responseCalls (env : Env) (meters : Meters n) (proxy : Proxy n) (node : Fin n)
    (slot : Fin 2) (results : List SendResult) (now : UInt64) : List (Call n) :=
  let conn := proxy.slot node slot
  if proxy.race.state = .idle ∧ conn.state = .receiving then []
  else
    let judgement := judgeResponse env proxy.race.countDown conn node
    let elapsed := elapsedUs (meters.requestStartNs node slot) now
    (if judgement.sticky then
      winnerCalls env node conn elapsed
        (sinceNotifyUs meters.lastNotifyNs (meters.requestStartNs node slot) now)
    else []) ++
      fallbackCalls env meters (applyJudgement proxy node slot judgement results)
        proxy.race.isGbtRace elapsed now

/-- The calls of one callback, in the order in which they are made. -/
def eventCalls (env : Env) (meters : Meters n) (proxy : Proxy n) (event : Event n)
    (reading : Reading n) : List (Call n) :=
  match event with
  | .client _ => if (acceptedMethod env proxy event).isSome then [.request] else []
  | .conn node slot connEvent results =>
      match connOutcome proxy node slot connEvent with
      | none => []
      | some outcome =>
          if outcome.upcall = some .response then
            responseCalls env meters (proxy.transfer node slot outcome) node slot results
              reading.now
          else []
  | .blockNotify => [.notifyTime reading.now]
  | _ => []

/-! ## The proxy with its meters -/

/-- Make some calls. -/
@[simps]
def Meters.recordAll (meters : Meters n) (calls : List (Call n)) : Meters n :=
  { meters with
    stats := calls.foldl Stats.record meters.stats
    calls := calls.reverse ++ meters.calls }

structure Metered (n : Nat) where
  proxy : Proxy n
  meters : Meters n

/-- A callback has sent a request on this connection. -/
def sentOn (before after : Proxy n) (node : Fin n) (slot : Fin 2) : Bool :=
  before.trace.countP (startsOn node slot) < after.trace.countP (startsOn node slot)

/-- `request_start_ns`: set by `rpc_conn_send`, kept as long as the request is in flight. -/
def startAfter (meters : Meters n) (before after : Proxy n) (reading : Reading n)
    (node : Fin n) (slot : Fin 2) : UInt64 :=
  if sentOn before after node slot then reading.sent node
  else if (after.slot node slot).inFlight then meters.requestStartNs node slot
  else 0

/-- `last_notify_ns`. -/
def notifyAfter (meters : Meters n) (event : Event n) (reading : Reading n) : UInt64 :=
  match event with
  | .blockNotify => reading.now
  | _ => meters.lastNotifyNs

/-- One callback of the event loop, with its calls and timestamps. -/
def meteredStep (env : Env) (state : Metered n) (event : Event n × Reading n) : Metered n where
  proxy := step env state.proxy event.1
  meters :=
    { state.meters.recordAll (eventCalls env state.meters state.proxy event.1 event.2) with
      requestStartNs :=
        startAfter state.meters state.proxy (step env state.proxy event.1) event.2
      lastNotifyNs := notifyAfter state.meters event.1 event.2 }

/-- The meters before the first call; `stats_create` reads the clock. -/
def createMeters (now : UInt64) : Meters n :=
  ⟨fun _ _ => 0, 0, statsCreate now, []⟩

def createMetered (boot : Boot n) (now : UInt64) : Metered n :=
  ⟨rpcProxyCreate boot, createMeters now⟩

/-! ## The winner is recorded once -/

/-- Without a best node there is no fallback, and a winner excludes it. -/
theorem fallbackCalls_eq_nil (env : Env) (meters : Meters n) {judged : Proxy n}
    (none_ : judged.race.bestGbtNodeIdx = none ∨ judged.race.winnerIdx ≠ none)
    (isGbtRace : Bool) (elapsed now : UInt64) :
    fallbackCalls env meters judged isGbtRace elapsed now = [] := by
  unfold fallbackCalls
  split
  · rename_i best found
    rcases none_ with noBest | won
    · rw [noBest] at found
      contradiction
    · exact if_neg fun settled => won settled.2.1
  · rfl

theorem applyJudgement_race (proxy : Proxy n) (node : Fin n) (slot : Fin 2)
    (judgement : Judgement n) (results : List SendResult) :
    (applyJudgement proxy node slot judgement results).race = judgement.race := by
  unfold applyJudgement
  dsimp only
  split_ifs <;> rfl

/-- A response that is no winner of a template race is not recorded. -/
theorem eventCalls_conn (env : Env) (meters : Meters n) {proxy : Proxy n}
    (wellFormed : WellFormed proxy) (node : Fin n) (slot : Fin 2) (connEvent : ConnEvent)
    (results : List SendResult) (reading : Reading n) :
    ∃ conn, eventCalls env meters proxy (.conn node slot connEvent results) reading =
      if winsTemplateRace env proxy (.conn node slot connEvent results) then
        winnerCalls env node conn (elapsedUs (meters.requestStartNs node slot) reading.now)
          (sinceNotifyUs meters.lastNotifyNs (meters.requestStartNs node slot) reading.now)
      else [] := by
  cases out : connOutcome proxy node slot connEvent with
  | none => exact ⟨proxy.slot node slot, by simp [eventCalls, winsTemplateRace, out]⟩
  | some outcome =>
      refine ⟨outcome.conn, ?_⟩
      by_cases response : outcome.upcall = some .response
      · obtain ⟨receiving, chunk, -, rfl, -⟩ := (connOutcome_move out).of_response response
        simp only [eventCalls, winsTemplateRace, out, Option.any_some, decide_true,
          Bool.true_and, if_true]
        have conn_eq : (proxy.transfer node slot
            ⟨(proxy.slot node slot).absorb chunk, some .response, [], chunk⟩).slot node slot =
              (proxy.slot node slot).absorb chunk := by
          simp [Proxy.transfer]
        have race_eq : (proxy.transfer node slot
            ⟨(proxy.slot node slot).absorb chunk, some .response, [], chunk⟩).race =
              proxy.race := rfl
        unfold responseCalls
        dsimp only
        rw [conn_eq, race_eq]
        by_cases idle : proxy.race.state = .idle
        · have state_eq : ((proxy.slot node slot).absorb chunk).state = .receiving := by
            rw [absorb_state, receiving]
          rw [if_pos ⟨idle, state_eq⟩]
          simp [Race.isGbtRace, idle]
        · rw [if_neg fun late => idle late.1]
          obtain ⟨counting, -⟩ := judgeResponse_counted env proxy.race
            ((proxy.slot node slot).absorb chunk) node (wellFormed.racing idle)
          rw [← counting.stuck_eq, fallbackCalls_eq_nil, List.append_nil]
          rw [applyJudgement_race]
          cases stuck : (judgeResponse env proxy.race.countDown
            ((proxy.slot node slot).absorb chunk) node).sticky with
          | false =>
              rw [stuck] at counting
              exact Or.inl ((counting.fallback_eq rfl).1.trans (wellFormed.racing idle).bestNode)
          | true =>
              right
              have valid := counting.stuck_eq
              rw [stuck, eq_comm, Bool.and_eq_true, Bool.not_eq_true'] at valid
              rw [counting.winner_eq, valid.2]
              cases proxy.race.winnerIdx <;> simp
      · simp [eventCalls, winsTemplateRace, out, response]

/-- The node that wins a template race by this event. -/
def templateWinner (env : Env) (proxy : Proxy n) (event : Event n) : Option (Fin n) :=
  match event with
  | .conn node _ _ _ => if winsTemplateRace env proxy event then some node else none
  | _ => none

/-! ## Calls and the trace -/

/-- This node became sticky. -/
def isCrownOf (node : Fin n) : Effect n → Bool
  | .stickySet other => other = node
  | _ => false

/-- A template race was won. -/
def isCrown : Effect n → Bool
  | .stickySet _ => true
  | _ => false

/-- A `getblocktemplate` was passed to dispatch. -/
def isTemplateRequest : Effect n → Bool
  | .requestAccepted _ _ method _ => cString method = methodGbt
  | _ => false

theorem isCrown_eq_false {effect : Effect n} (unmarked : isMark effect = false) :
    isCrown effect = false := by
  cases effect with
  | stickySet => simp [isMark] at unmarked
  | _ => rfl

theorem isTemplateRequest_eq_false {effect : Effect n} (unmarked : isMark effect = false) :
    isTemplateRequest effect = false := by
  cases effect with
  | requestAccepted => simp [isMark] at unmarked
  | _ => rfl

theorem isCrownOf_eq_false {effect : Effect n} (none_ : isCrown effect = false)
    (node : Fin n) :
    isCrownOf node effect = false := by
  cases effect with
  | stickySet => simp [isCrown] at none_
  | _ => rfl

/-- The records that a callback adds, as far as the counters are concerned. -/
structure Crowns (winner : Option (Fin n)) (added : List (Effect n)) : Prop where
  races : added.countP isCrown = winner.toList.length
  wins : ∀ node, added.countP (isCrownOf node) = winner.toList.countP (· = node)

theorem Crowns.of_none {added : List (Effect n)}
    (none_ : ∀ effect ∈ added, isCrown effect = false) :
    Crowns none added := by
  constructor
  · exact List.countP_eq_zero.mpr fun effect member => by simp [none_ effect member]
  · intro node
    refine List.countP_eq_zero.mpr fun effect member => ?_
    simp [isCrownOf_eq_false (none_ effect member) node]

theorem Crowns.of_stickySet {node : Fin n} {later earlier : List (Effect n)}
    (noneLater : ∀ effect ∈ later, isCrown effect = false)
    (noneEarlier : ∀ effect ∈ earlier, isCrown effect = false) :
    Crowns (some node) (later ++ .stickySet node :: earlier) := by
  have after := Crowns.of_none noneLater
  have before := Crowns.of_none noneEarlier
  constructor
  · rw [List.countP_append, List.countP_cons, after.races, before.races]
    rfl
  · intro other
    rw [List.countP_append, List.countP_cons, after.wins, before.wins]
    by_cases same : node = other <;> simp [isCrownOf, same]

theorem isMark_deliveryEffects (proxy : Proxy n) (node : Fin n) (slot : Fin 2)
    (chunk : Memory) :
    ∀ effect ∈ deliveryEffects proxy node slot chunk false, isMark effect = false := by
  simp [deliveryEffects, stickEffects, isMark]

/-- A callback that wins a template race delivers a valid response to it. -/
theorem step_of_wins (env : Env) (proxy : Proxy n) (event : Event n)
    (wellFormed : WellFormed proxy) (wins : winsTemplateRace env proxy event = true) :
    ∃ node slot connEvent results chunk, event = .conn node slot connEvent results ∧
      proxy.race.isGbtRace = true ∧
      responseIsError env.yyjsonRead ((proxy.slot node slot).absorb chunk) = false ∧
      ResponseMove env proxy node slot chunk results (step env proxy event) := by
  cases event with
  | conn node slot connEvent results =>
      cases out : connOutcome proxy node slot connEvent with
      | none => simp [winsTemplateRace, out] at wins
      | some outcome =>
          simp only [winsTemplateRace, out, Option.any_some, Bool.and_eq_true,
            decide_eq_true_eq, Bool.not_eq_true'] at wins
          obtain ⟨⟨response, gbt⟩, valid⟩ := wins
          have active : proxy.race.state ≠ .idle := by
            intro idle
            simp [Race.isGbtRace, idle] at gbt
          obtain ⟨receiving, chunk, nonempty, rfl, -⟩ :=
            (connOutcome_move out).of_response response
          refine ⟨node, slot, connEvent, results, chunk, rfl, gbt, valid, ?_⟩
          rw [step, connEvent_of_response env results out active]
          exact finishResponse_move env proxy node slot chunk results
            (wellFormed.racing active)
            (wellFormed.eq_active (by simp [UpstreamConn.inFlight, receiving])) receiving
            nonempty
  | _ => simp [winsTemplateRace] at wins

/-- The response that wins a template race makes its node sticky. -/
theorem step_crowns_of_wins (env : Env) (proxy : Proxy n) (event : Event n)
    (wellFormed : WellFormed proxy) (wins : winsTemplateRace env proxy event = true) :
    ∃ added, (step env proxy event).trace = added ++ proxy.trace ∧
      Crowns (templateWinner env proxy event) added := by
  rcases step_of_wins env proxy event wellFormed wins with
    ⟨node, slot, connEvent, results, chunk, rfl, gbt, valid, move⟩
  rw [templateWinner, if_pos wins]
  generalize step env proxy (.conn node slot connEvent results) = result at move
  have delivered := fun effect member =>
    isCrown_eq_false (isMark_deliveryEffects proxy node slot chunk effect member)
  have unstuck : ∀ race, ¬ Counted env proxy.race ((proxy.slot node slot).absorb chunk)
      node false race := by
    intro race counting
    have stuck := counting.stuck_eq
    simp [gbt, valid] at stuck
  cases move with
  | counted race inIbd counting => exact absurd counting (unstuck race)
  | broadcastWon race inIbd counting => exact absurd counting (unstuck race)
  | ended race inIbd counting => exact absurd counting (unstuck race)
  | won race inIbd stuck counting =>
      obtain rfl : stuck = true := by simp [counting.stuck_eq, gbt, valid]
      refine ⟨[forwardEffect proxy node slot chunk inIbd results] ++
        .stickySet node :: deliveryEffects proxy node slot chunk false,
        forwarded_trace_eq proxy node slot chunk race inIbd true results, ?_⟩
      exact .of_stickySet (by simp [forwardEffect, isCrown]) delivered
  | settled race inIbd stuck counting =>
      obtain rfl : stuck = true := by simp [counting.stuck_eq, gbt, valid]
      refine ⟨(.raceCompleted :: cancelEffects (sendUpstreamResponseToClient
        (stick (answered proxy node slot chunk race inIbd) node true) node slot
          results) ++ [forwardEffect proxy node slot chunk inIbd results]) ++
        .stickySet node :: deliveryEffects proxy node slot chunk false, ?_, ?_⟩
      · rw [raceComplete_trace,
          forwarded_trace_eq proxy node slot chunk race inIbd true results]
        simp [deliveryEffects, stickEffects]
      · refine .of_stickySet (List.forall_mem_append.mpr ⟨?_, ?_⟩) delivered
        · exact forall_raceComplete _ rfl fun _ => rfl
        · simp [forwardEffect, isCrown]

/-- Every callback makes a node sticky exactly if it wins a template race. -/
theorem step_crowns (env : Env) (proxy : Proxy n) (event : Event n)
    (wellFormed : WellFormed proxy) :
    ∃ added, (step env proxy event).trace = added ++ proxy.trace ∧
      Crowns (templateWinner env proxy event) added := by
  by_cases wins : winsTemplateRace env proxy event = true
  · exact step_crowns_of_wins env proxy event wellFormed wins
  · have lost : templateWinner env proxy event = none := by
      cases event with
      | conn => rw [templateWinner, if_neg wins]
      | _ => rfl
    rw [lost]
    have move := step_sticky env proxy event wellFormed
    generalize step env proxy event = result at move
    cases move with
    | kept added trace unmarked =>
        exact ⟨added, trace, .of_none fun effect member =>
          isCrown_eq_false (unmarked effect member)⟩
    | notified trace =>
        exact ⟨[.blockNotify], trace, .of_none (by simp [isCrown])⟩
    | accepted added node chunk method earlier trace unmarked unmarkedEarlier =>
        refine ⟨added ++ (node.toList.map .stickySent ++
          (earlier ++ [requestEffect (withChunk proxy chunk) method])), ?_, .of_none ?_⟩
        · rw [trace]
          simp
        · have request : ∀ effect ∈ [requestEffect (withChunk proxy chunk) method],
              isCrown effect = false := by
            simp [requestEffect, isCrown]
          have sent : ∀ effect ∈ node.toList.map Effect.stickySent, isCrown effect = false := by
            cases node <;> simp [isCrown]
          exact List.forall_mem_append.mpr
            ⟨fun effect member => isCrown_eq_false (unmarked effect member),
              List.forall_mem_append.mpr ⟨sent, List.forall_mem_append.mpr
                ⟨fun effect member => isCrown_eq_false (unmarkedEarlier effect member),
                  request⟩⟩⟩
    | crowned later earlier node trace unmarkedLater unmarkedEarlier sticky_eq finished won =>
        exact absurd won wins

/-- A callback counts a request exactly if it passes one to dispatch. -/
theorem step_requests (env : Env) (proxy : Proxy n) (event : Event n)
    (wellFormed : WellFormed proxy) {added : List (Effect n)}
    (trace : (step env proxy event).trace = added ++ proxy.trace) :
    added.countP isRequest = (acceptedMethod env proxy event).toList.length := by
  obtain ⟨others, explained, silent, -⟩ := step_explained env proxy event wellFormed
  have added_eq : added = others ++ (acceptedRequest env proxy event).toList := by
    apply List.append_cancel_right
    rw [← trace, explained, List.append_assoc]
  have none_ : others.countP isRequest = 0 :=
    List.countP_eq_zero.mpr fun effect member => by simp [silent effect member]
  rw [added_eq, List.countP_append, none_, Nat.zero_add]
  cases accepted : acceptedMethod env proxy event with
  | none => rw [acceptedRequest_of_acceptedMethod accepted]; rfl
  | some method =>
      cases stored : storedChunk proxy event with
      | none =>
          rw [acceptedMethod_of_storedChunk stored] at accepted
          contradiction
      | some chunk => simp [acceptedRequest, stored, accepted, requestEffect, isRequest]

/-- What calls record, for a request that was accepted and a race that was won. -/
structure Recorded (accepted : Option Memory) (winner : Option (Fin n))
    (calls : List (Call n)) : Prop where
  requests : calls.countP (· = .request) = accepted.toList.length
  races : calls.countP isRaceWin = winner.toList.length
  wins : ∀ node, calls.countP (· = .raceWin node) = winner.toList.countP (· = node)
  times : ∀ node, (gbtTimes node calls).length = winner.toList.countP (· = node)

theorem winnerCalls_recorded (env : Env) (node : Fin n) (conn : UpstreamConn)
    (elapsed since : UInt64) :
    Recorded none (some node) (winnerCalls env node conn elapsed since) := by
  refine ⟨rfl, rfl, ?_, ?_⟩
  · intro other
    by_cases same : node = other <;> simp [winnerCalls, same]
  · intro other
    by_cases same : node = other <;> simp [winnerCalls, gbtTimes, gbtTime, same]

/-- A callback records the request that it passes to dispatch and the race that it decides. -/
theorem eventCalls_recorded (env : Env) (meters : Meters n) (proxy : Proxy n) (event : Event n)
    (reading : Reading n) (wellFormed : WellFormed proxy) :
    Recorded (acceptedMethod env proxy event) (templateWinner env proxy event)
      (eventCalls env meters proxy event reading) := by
  have nothing : Recorded none (none : Option (Fin n)) [] :=
    ⟨rfl, rfl, fun _ => rfl, fun _ => rfl⟩
  cases event with
  | client clientEvent =>
      cases accepted : acceptedMethod env proxy (.client clientEvent) with
      | none => simpa [eventCalls, accepted, templateWinner] using nothing
      | some method =>
          simp only [eventCalls, accepted, templateWinner, Option.isSome_some, if_true]
          exact ⟨by simp, by simp [isRaceWin], by simp, by simp [gbtTimes, gbtTime]⟩
  | conn node slot connEvent results =>
      rcases eventCalls_conn env meters wellFormed node slot connEvent results reading with
        ⟨conn, calls⟩
      have waiting : acceptedMethod env proxy (.conn node slot connEvent results) = none :=
        acceptedMethod_of_storedChunk rfl
      rw [calls, waiting, templateWinner]
      split_ifs
      · exact winnerCalls_recorded env node conn _ _
      · exact nothing
  | blockNotify =>
      exact ⟨by simp [eventCalls, acceptedMethod, storedChunk], by
        simp [eventCalls, isRaceWin, templateWinner], by simp [eventCalls, templateWinner], by
        simp [eventCalls, gbtTimes, gbtTime, templateWinner]⟩
  | accept result => exact nothing
  | rotation node result => exact nothing
  | timeout fd results => exact nothing
  | elapse duration => exact nothing

/-! ## The counters and the trace -/

/-- The recorded calls count the requests and the won races of a trace. -/
structure CallsAgree (calls : List (Call n)) (trace : List (Effect n)) : Prop where
  requests : calls.countP (· = .request) = trace.countP isRequest
  races : calls.countP isRaceWin = trace.countP isCrown
  wins : ∀ node, calls.countP (· = .raceWin node) = trace.countP (isCrownOf node)
  times : ∀ node, (gbtTimes node calls).length = trace.countP (isCrownOf node)

theorem CallsAgree.append {added calls : List (Call n)} {effects trace : List (Effect n)}
    (new : CallsAgree added effects) (old : CallsAgree calls trace) :
    CallsAgree (added.reverse ++ calls) (effects ++ trace) := by
  refine ⟨?_, ?_, ?_, ?_⟩
  · rw [List.countP_append, List.countP_reverse, List.countP_append, new.requests, old.requests]
  · rw [List.countP_append, List.countP_reverse, List.countP_append, new.races, old.races]
  · intro node
    rw [List.countP_append, List.countP_reverse, List.countP_append, new.wins, old.wins]
  · intro node
    rw [gbtTimes, List.filterMap_append, List.filterMap_reverse, List.length_append,
      List.length_reverse, List.countP_append, ← new.times, ← old.times]
    rfl

/-- What holds of the proxy and its meters between any two callbacks. -/
structure Agreeing (state : Metered n) : Prop where
  wellFormed : WellFormed state.proxy
  tallied : Tallied state.meters.calls state.meters.stats
  calls : CallsAgree state.meters.calls state.proxy.trace

theorem createMetered_agreeing (boot : Boot n) (now : UInt64) :
    Agreeing (createMetered boot now) :=
  ⟨rpcProxyCreate_wellFormed boot, statsCreate_tallied now,
    ⟨rfl, rfl, fun _ => rfl, fun _ => rfl⟩⟩

theorem meteredStep_agreeing (env : Env) (state : Metered n) (event : Event n × Reading n)
    (agreeing : Agreeing state) :
    Agreeing (meteredStep env state event) := by
  refine ⟨step_wellFormed env state.proxy event.1 agreeing.wellFormed,
    agreeing.tallied.foldl _, ?_⟩
  rcases step_crowns env state.proxy event.1 agreeing.wellFormed with ⟨added, trace, crowns⟩
  have requests := step_requests env state.proxy event.1 agreeing.wellFormed trace
  have recorded := eventCalls_recorded env state.meters state.proxy event.1 event.2
    agreeing.wellFormed
  have new : CallsAgree (eventCalls env state.meters state.proxy event.1 event.2) added :=
    ⟨recorded.requests.trans requests.symm, recorded.races.trans crowns.races.symm,
      fun node => (recorded.wins node).trans (crowns.wins node).symm,
      fun node => (recorded.times node).trans (crowns.wins node).symm⟩
  have both := new.append agreeing.calls
  rw [← trace] at both
  exact both

/-! ## Races and requests -/

theorem isGbtRace_of_failure {base result : Proxy n} {node : Fin n}
    (move : FailureMove base node result) (gbt : result.race.isGbtRace = true) :
    base.race.isGbtRace = true := by
  cases move with
  | counted => exact gbt
  | ended => rw [raceComplete_race, isGbtRace_complete] at gbt; contradiction
  | closed => rw [raceComplete_race, isGbtRace_complete] at gbt; contradiction

/-- A template race goes on only if it was running before, or its request has just come. -/
theorem step_isGbtRace (env : Env) (proxy : Proxy n) (event : Event n)
    (wellFormed : WellFormed proxy) (waiting : acceptedMethod env proxy event = none)
    (gbt : (step env proxy event).race.isGbtRace = true) :
    proxy.race.isGbtRace = true := by
  have move := ClientMoves.step_raceStep env proxy event wellFormed
  generalize step env proxy event = result at move gbt
  cases move with
  | aside event result added trace quiet race_eq => rwa [race_eq] at gbt
  | notified => exact gbt
  | request event chunk method result bytes accepted =>
      rw [waiting] at accepted
      contradiction
  | lateResponse node slot event results chunk result added out idle trace quiet race_eq =>
      rwa [race_eq] at gbt
  | response node slot event results chunk result out complete active move =>
      cases move with
      | counted race inIbd counting => exact (Counted.isGbtRace_eq counting).symm.trans gbt
      | broadcastWon race inIbd counting => exact (Counted.isGbtRace_eq counting).symm.trans gbt
      | won => simp [released, Race.isGbtRace] at gbt
      | ended => rw [raceComplete_race, isGbtRace_complete] at gbt; contradiction
      | settled => rw [raceComplete_race, isGbtRace_complete] at gbt; contradiction
  | lateError node slot event results result added idle trace quiet race_eq =>
      rwa [race_eq] at gbt
  | error node slot event results result out active move =>
      cases move with
      | retried => exact gbt
      | twice already result move =>
          have running := isGbtRace_of_failure move gbt
          exact running
      | lost first final result move =>
          have running := isGbtRace_of_failure move gbt
          exact running
  | expired fd results result registered move =>
      cases move with
      | drained =>
          rw [cancelRpcTimeout_race] at gbt
          exact gbt
      | ended => rw [raceComplete_race, isGbtRace_complete] at gbt; contradiction
      | closed => rw [raceComplete_race, isGbtRace_complete] at gbt; contradiction

/-- Every template race that is won or still running has a request of its own. -/
structure Asked (proxy : Proxy n) : Prop where
  wellFormed : WellFormed proxy
  bounded : proxy.trace.countP isCrown + (if proxy.race.isGbtRace then 1 else 0) ≤
    proxy.trace.countP isTemplateRequest

theorem rpcProxyCreate_asked (boot : Boot n) : Asked (rpcProxyCreate boot) :=
  ⟨rpcProxyCreate_wellFormed boot, by simp [rpcProxyCreate, Race.isGbtRace]⟩

section Unmarked

variable {added : List (Effect n)} (unmarked : ∀ effect ∈ added, isMark effect = false)

include unmarked

theorem countP_isCrown_eq_zero : added.countP isCrown = 0 :=
  List.countP_eq_zero.mpr fun effect member => by
    simp [isCrown_eq_false (unmarked effect member)]

theorem countP_isTemplateRequest_eq_zero : added.countP isTemplateRequest = 0 :=
  List.countP_eq_zero.mpr fun effect member => by
    simp [isTemplateRequest_eq_false (unmarked effect member)]

end Unmarked

theorem countP_stickySent (node : Option (Fin n)) :
    (node.toList.map Effect.stickySent).countP isCrown = 0 ∧
      (node.toList.map Effect.stickySent).countP isTemplateRequest = 0 := by
  cases node <;> exact ⟨rfl, rfl⟩

theorem step_asked (env : Env) (proxy : Proxy n) (event : Event n) (asked : Asked proxy) :
    Asked (step env proxy event) := by
  refine ⟨step_wellFormed env proxy event asked.wellFormed, ?_⟩
  have before := asked.bounded
  have requests : ∀ added, (step env proxy event).trace = added ++ proxy.trace →
      added.countP isRequest = (acceptedMethod env proxy event).toList.length :=
    fun added trace => step_requests env proxy event asked.wellFormed trace
  have running := step_isGbtRace env proxy event asked.wellFormed
  have move := step_sticky env proxy event asked.wellFormed
  generalize step env proxy event = result at move requests running
  cases move with
  | kept added trace unmarked sticky_eq notify_eq race_eq =>
      rw [trace, List.countP_append, List.countP_append, countP_isCrown_eq_zero unmarked,
        countP_isTemplateRequest_eq_zero unmarked]
      by_cases gbt : result.race.isGbtRace = true
      · rw [if_pos (race_eq gbt)] at before
        rw [if_pos gbt]
        omega
      · rw [if_neg gbt]
        omega
  | notified trace =>
      have none_ : acceptedMethod env proxy event = none := by
        have count := requests [.blockNotify] trace
        cases accepted : acceptedMethod env proxy event with
        | none => rfl
        | some method => simp [accepted, isRequest] at count
      rw [trace, List.countP_cons_of_neg (by simp [isCrown]),
        List.countP_cons_of_neg (by simp [isTemplateRequest])]
      by_cases gbt : result.race.isGbtRace = true
      · rw [if_pos (running none_ gbt)] at before
        rw [if_pos gbt]
        exact before
      · rw [if_neg gbt]
        omega
  | accepted added node chunk method earlier trace unmarked unmarkedEarlier stuck sticky_eq
      method_eq =>
      -- The request itself pays for the race that it may have started.
      rw [trace]
      simp only [List.countP_append, List.countP_cons, countP_isCrown_eq_zero unmarked,
        countP_isTemplateRequest_eq_zero unmarked, countP_isCrown_eq_zero unmarkedEarlier,
        countP_isTemplateRequest_eq_zero unmarkedEarlier, countP_stickySent]
      by_cases gbt : result.race.isGbtRace = true
      · have template : cString method = methodGbt := by
          simp only [Race.isGbtRace, Race.methodIs, method_eq, Bool.and_eq_true,
            decide_eq_true_eq] at gbt
          exact gbt.1
        simp only [gbt, requestEffect, isCrown, isTemplateRequest, template, decide_true,
          Bool.false_eq_true, if_true, if_false]
        omega
      · simp only [gbt, requestEffect, isCrown, Bool.false_eq_true, if_false]
        omega
  | crowned later earlier node trace unmarkedLater unmarkedEarlier sticky_eq finished wins =>
      have idle : result.race.isGbtRace = false := by
        simp [Race.isGbtRace, finished]
      rcases step_of_wins env proxy event asked.wellFormed wins with
        ⟨-, -, -, -, -, -, gbt, -, -⟩
      rw [gbt] at before
      rw [trace, idle]
      simp only [List.countP_append, List.countP_cons, countP_isCrown_eq_zero unmarkedLater,
        countP_isTemplateRequest_eq_zero unmarkedLater, countP_isCrown_eq_zero unmarkedEarlier,
        countP_isTemplateRequest_eq_zero unmarkedEarlier]
      simpa [isCrown, isTemplateRequest] using before

/-! ## Runs -/

/-- The won races are those of all nodes together. -/
theorem countP_isCrown_eq_sum (trace : List (Effect n)) :
    trace.countP isCrown = ∑ node, trace.countP (isCrownOf node) := by
  induction trace with
  | nil => simp
  | cons effect past induction =>
      simp only [List.countP_cons, Finset.sum_add_distrib, ← induction]
      cases effect with
      | stickySet winner => simp [isCrown, isCrownOf]
      | _ => simp [isCrown, isCrownOf]

theorem ofNat_sum (counts : Fin n → Nat) :
    UInt32.ofNat (∑ node, counts node) = ∑ node, UInt32.ofNat (counts node) :=
  map_sum (⟨⟨UInt32.ofNat, rfl⟩, UInt32.ofNat_add⟩ : Nat →+ UInt32) counts Finset.univ

/--
The counters count, as far as their words reach, the requests that were
dispatched and the template races that were won, in total and for each node.
-/
structure CountersAgree (state : Metered n) : Prop where
  requests : state.meters.stats.totalRpcRequests =
    UInt32.ofNat (state.proxy.trace.countP isRequest)
  races : state.meters.stats.totalRaces = UInt32.ofNat (state.proxy.trace.countP isCrown)
  wins : ∀ node, (state.meters.stats.perNode node).gbtWins =
    UInt32.ofNat (state.proxy.trace.countP (isCrownOf node))
  shares : ∑ node, (state.meters.stats.perNode node).gbtWins = state.meters.stats.totalRaces
  bounded : state.proxy.trace.countP isCrown ≤ state.proxy.trace.countP isTemplateRequest

theorem Agreeing.countersAgree {state : Metered n} (agreeing : Agreeing state)
    (asked : Asked state.proxy) :
    CountersAgree state := by
  have wins : ∀ node, (state.meters.stats.perNode node).gbtWins =
      UInt32.ofNat (state.proxy.trace.countP (isCrownOf node)) := by
    intro node
    rw [(agreeing.tallied.nodes node).wins, agreeing.calls.wins]
  have races : state.meters.stats.totalRaces =
      UInt32.ofNat (state.proxy.trace.countP isCrown) := by
    rw [agreeing.tallied.races, agreeing.calls.races]
  refine ⟨?_, races, wins, ?_, ?_⟩
  · rw [agreeing.tallied.requests, agreeing.calls.requests]
  · rw [races, countP_isCrown_eq_sum, ofNat_sum]
    exact Finset.sum_congr rfl fun node _ => wins node
  · exact (Nat.le_add_right _ _).trans asked.bounded

/-- The response times of the races that a node has won, newest first. -/
def winningTimes (state : Metered n) (node : Fin n) : List UInt64 :=
  gbtTimes node state.meters.calls

/-- No counter of the node has wrapped. -/
def Unwrapped (state : Metered n) (node : Fin n) : Prop :=
  (winningTimes state node).length < 2 ^ 32 ∧
    ((winningTimes state node).map UInt64.toNat).sum < 2 ^ 64

instance (state : Metered n) (node : Fin n) : Decidable (Unwrapped state node) :=
  inferInstanceAs (Decidable (_ ∧ _))

/-- All clocks of a callback show the same time, in microseconds. -/
def timed (time : UInt64) (event : Event n) : Event n × Reading n :=
  (event, ⟨time * 1000, fun _ => time * 1000⟩)

/-- A race after a block notify, and a second one without. -/
def timedRaces : List (Event 1 × Reading 1) :=
  [timed 1 clientConnects, timed 2 .blockNotify, timed 5 (clientSends gbtRequest),
    timed 6 (slotWrites 0 0 1000),
    timed 9 (slotReads 0 0 (templateResponse "1") [.accepted 1000]),
    timed 20 .blockNotify, timed 21 (clientSends gbtRequest), timed 22 (slotWrites 0 0 1000),
    timed 28 (slotReads 0 0 (templateResponse "2") [.accepted 1000])]

/-- The clock has not gone back behind a timestamp that is still held. -/
def Forward (state : Metered n) (event : Event n × Reading n) : Prop :=
  state.meters.lastNotifyNs ≤ event.2.now ∧
    ∀ node slot, state.meters.requestStartNs node slot ≤ event.2.now

instance (state : Metered n) (event : Event n × Reading n) : Decidable (Forward state event) :=
  inferInstanceAs (Decidable (_ ∧ ∀ _ _, _))

/-- The last response time is within the time since the notify, if that is known. -/
def Ordered (counters : NodeStats) : Prop :=
  counters.gbtLastSinceNotifyUs = 0 ∨ counters.gbtResponseTimeUs ≤ counters.gbtLastSinceNotifyUs

/-- The response time is part of the time since the notify. -/
theorem elapsedUs_le {lastNotify start now : UInt64} (forward : start ≤ now) :
    sinceNotifyUs lastNotify start now = 0 ∨
      elapsedUs start now ≤ sinceNotifyUs lastNotify start now := by
  unfold sinceNotifyUs
  split_ifs with after
  · right
    have positive : 0 < start := UInt64.lt_of_lt_of_le after.1 after.2
    have past : lastNotify ≤ now := UInt64.le_trans after.2 forward
    rw [elapsedUs, if_pos positive, UInt64.le_iff_toNat_le, UInt64.toNat_div, UInt64.toNat_div,
      UInt64.toNat_sub_of_le _ _ forward, UInt64.toNat_sub_of_le _ _ past]
    have order := UInt64.le_iff_toNat_le.mp after.2
    exact Nat.div_le_div_right (by omega)
  · exact Or.inl rfl

/-- A call that records an ordered pair of times, if any. -/
def Timely : Call n → Prop
  | .gbt _ time _ since => since = 0 ∨ time ≤ since
  | _ => True

theorem eventCalls_timely (env : Env) {state : Metered n} {event : Event n × Reading n}
    (wellFormed : WellFormed state.proxy) (forward : Forward state event) :
    ∀ call ∈ eventCalls env state.meters state.proxy event.1 event.2, Timely call := by
  obtain ⟨event, reading⟩ := event
  cases event with
  | client clientEvent =>
      simp only [eventCalls]
      split_ifs <;> simp [Timely]
  | conn node slot connEvent results =>
      rcases eventCalls_conn env state.meters wellFormed node slot connEvent results reading with
        ⟨conn, calls⟩
      rw [calls]
      split_ifs
      · simp only [winnerCalls, List.forall_mem_cons]
        exact ⟨elapsedUs_le (forward.2 node slot), trivial, trivial, List.forall_mem_nil _⟩
      · exact List.forall_mem_nil _
  | blockNotify => simp [eventCalls, Timely]
  | accept result => exact List.forall_mem_nil _
  | rotation node result => exact List.forall_mem_nil _
  | timeout fd results => exact List.forall_mem_nil _
  | elapse duration => exact List.forall_mem_nil _

theorem record_ordered {stats : Stats n} (ordered : ∀ node, Ordered (stats.perNode node))
    {call : Call n} (timely : Timely call) (node : Fin n) :
    Ordered ((stats.record call).perNode node) := by
  by_cases about : call.about = some node
  · cases call with
    | gbt other time txCount since =>
        obtain rfl : other = node := Option.some.inj about
        rw [Stats.record, statsRecordGbt, Stats.modify_perNode, Function.update_self]
        exact timely
    | raceWin other =>
        obtain rfl : other = node := Option.some.inj about
        rw [Stats.record, statsRecordRaceWin, Stats.modify_perNode, Function.update_self]
        exact ordered other
    | notifyWin other =>
        obtain rfl : other = node := Option.some.inj about
        rw [Stats.record, statsRecordNotifyWin, Stats.modify_perNode, Function.update_self]
        exact ordered other
    | notifyToGbt => exact ordered node
    | request => exact ordered node
    | notifyTime => exact ordered node
  · rw [record_perNode_of_ne stats about]
    exact ordered node

theorem foldl_record_ordered {stats : Stats n} (ordered : ∀ node, Ordered (stats.perNode node))
    {calls : List (Call n)} (timely : ∀ call ∈ calls, Timely call) :
    ∀ node, Ordered ((calls.foldl Stats.record stats).perNode node) := by
  induction calls generalizing stats with
  | nil => exact ordered
  | cons call rest induction =>
      rcases List.forall_mem_cons.mp timely with ⟨first, later⟩
      exact induction (record_ordered ordered first) later

/-- Every node's last times are in order. -/
def AllOrdered (state : Metered n) : Prop :=
  ∀ node, Ordered (state.meters.stats.perNode node)

end RpcRace.Measurements
