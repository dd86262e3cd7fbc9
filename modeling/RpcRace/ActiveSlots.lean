import RpcRace.Requests
import RpcRace.ClientMoves

/-!
# Active slots

The proxy addresses a node by its pair and means the active slot.  The first
part shows that this is sound: whatever the rotations, the errors and the
swaps do, a request in flight is on the active slot, so a callback is about
that slot and a swap disconnects the slot that failed.

The other two parts ask whether the active slot serves the next request as
well as it could.  It need not: a broadcast is sent to the nodes whose active
slot is connected (`beginsSend_iff`), so it skips a node whose active slot is
closed or still draining although the standby is connected
(`reaches_all_iff`), and a winner that ends a race early leaves the slots
blocked that had answered with an error before it
(`noneAnswered_iff_unansweredWins`).
-/

namespace RpcRace.ActiveSlots

open RpcRace.Library.CString
open RpcRace.Library.Run
open RpcRace.RpcConn
open RpcRace.ConnectionPair
open RpcRace.JsonResponse
open RpcRace.RpcProxy
open RpcRace.PairMoves
open RpcRace.Dispatch
open RpcRace.RaceMoves
open RpcRace.ProxyMoves
open RpcRace.SlotMoves
open RpcRace.Requests
open RpcRace.ClientMoves

variable {n : Nat}

/-! ## Requests in flight -/

/-- Every slot with a request in flight is active, keeps its connection and stays active. -/
def SparesBusy (before after : ConnPair) : Prop :=
  ∀ slot, (before.slots slot).inFlight = true →
    before.activeIdx = slot ∧ after.activeIdx = slot ∧ after.slots slot = before.slots slot

/-- `conn_pair_tick` swaps only when the active slot is idle. -/
theorem connPairTick_activeIdx {pair : ConnPair}
    (busy : (connPairGetActive pair).inFlight = true) :
    (connPairTick pair).activeIdx = pair.activeIdx := by
  unfold connPairTick
  split_ifs with ready
  · simp [UpstreamConn.inFlight, ready.2.1] at busy
  · rfl

/-- Neither does an `on_connected` callback, in the recovery case or in the other. -/
theorem runOnConnected_activeIdx {pair : ConnPair} (slot : Fin 2)
    (busy : (connPairGetActive pair).inFlight = true) :
    (runOnConnected pair slot).activeIdx = pair.activeIdx := by
  unfold runOnConnected
  cases (pair.slots slot).onConnected with
  | slotOnConnected => rfl
  | standbyOnConnected =>
      dsimp only
      unfold standbyOnConnected
      dsimp only
      split_ifs with other down
      · rfl
      · simp [UpstreamConn.inFlight, down] at busy
      · exact connPairTick_activeIdx busy

theorem sparesBusy_connPairTick {pair : ConnPair} (quiet : StandbyQuiet pair) :
    SparesBusy pair (connPairTick pair) := by
  intro slot busy
  obtain rfl := quiet.eq_active busy
  exact ⟨rfl, connPairTick_activeIdx busy, congrFun (connPairTick_slots pair) _⟩

theorem sparesBusy_refreshStandby {pair : ConnPair} (quiet : StandbyQuiet pair)
    (result : ConnectResult) (fd : Nat) :
    SparesBusy pair (refreshStandby pair result fd) := by
  intro slot busy
  obtain rfl := quiet.eq_active busy
  have kept : ∀ conn, (pair.setSlot pair.standbyIdx conn).slots pair.activeIdx =
      pair.slots pair.activeIdx := by
    intro conn
    rw [setSlot_slots, if_neg (standbyIdx_ne pair).symm]
  unfold refreshStandby
  dsimp only
  split_ifs with refreshable established
  · refine ⟨rfl, ?_, ?_⟩
    · apply runOnConnected_activeIdx
      rw [connPairGetActive, setSlot_activeIdx, kept]
      exact busy
    · rw [runOnConnected_slots]
      exact kept _
  · exact ⟨rfl, rfl, kept _⟩
  · exact ⟨rfl, rfl, rfl⟩

/-- What a node's pair can rely on, in a state and in all that the next callbacks make of it. -/
structure OnlyActiveBusy (proxy : Proxy n) (node : Fin n) : Prop where
  /-- No standby is `CONN_SENDING` or `CONN_RECEIVING`. -/
  standby : ∀ pair, PairOps (proxy.pairs node) pair →
    (pair.slots pair.standbyIdx).state ≠ .sending ∧
      (pair.slots pair.standbyIdx).state ≠ .receiving
  /-- `on_upstream_response` and `on_upstream_error` are called for the active slot. -/
  callbacks : ∀ slot event outcome, connOutcome proxy node slot event = some outcome →
    outcome.upcall = some .response ∨ outcome.upcall = some .error →
    slot = ((proxy.transfer node slot outcome).pairs node).activeIdx
  /-- When it is called, `conn_pair_report_error` closes the slot that failed and no other. -/
  reportError : ∀ slot event outcome, connOutcome proxy node slot event = some outcome →
    outcome.upcall = some .error →
    (connPairReportError ((proxy.transfer node slot outcome).pairs node)).slots =
      Function.update ((proxy.transfer node slot outcome).pairs node).slots slot
        (rpcConnDisconnect ((proxy.transfer node slot outcome).slot node slot))
  /-- `refresh_standby`, with the callback it may run. -/
  refresh : ∀ pair, PairOps (proxy.pairs node) pair → ∀ result fd,
    SparesBusy pair (refreshStandby pair result fd)
  /-- `conn_pair_tick`, wherever it is called. -/
  tick : ∀ pair, PairOps (proxy.pairs node) pair → SparesBusy pair (connPairTick pair)
  /-- The last call of `rotation_timer_cb`, where `swap_required` has just been set. -/
  rotation : ∀ pair, PairOps (proxy.pairs node) pair → ∀ result fd,
    SparesBusy { refreshStandby pair result fd with swapRequired := true }
      (rotationTimerCb pair result fd)

/-- Requests in flight live only on active slots. -/
theorem onlyActiveBusy (env : Env) (boot : Boot n) (events : List (Event n)) (node : Fin n) :
    OnlyActiveBusy (run (step env) (rpcProxyCreate boot) events) node := by
  have wellFormed := run_wellFormed env boot events
  generalize run (step env) (rpcProxyCreate boot) events = proxy at wellFormed
  have quiet : ∀ pair, PairOps (proxy.pairs node) pair → StandbyQuiet pair := by
    intro pair operations
    exact PairOps.preserve (fun _ _ operation => operation.standbyQuiet) operations
      (wellFormed.standby node)
  have active : ∀ slot event outcome, connOutcome proxy node slot event = some outcome →
      outcome.upcall = some .response ∨ outcome.upcall = some .error →
      slot = ((proxy.transfer node slot outcome).pairs node).activeIdx := by
    intro slot event outcome out upcall
    have delivers : Delivers proxy (.conn node slot event []) node slot :=
      ⟨⟨event, [], rfl⟩, by simpa [upcallOf, out] using upcall⟩
    have same := wellFormed.eq_active delivers.busy
    simpa [Proxy.transfer, Proxy.setSlot] using same
  constructor
  · intro pair operations
    have calm := quiet pair operations
    constructor
    · intro sending
      simp [StandbyQuiet, UpstreamConn.inFlight, sending] at calm
    · intro receiving
      simp [StandbyQuiet, UpstreamConn.inFlight, receiving] at calm
  · exact active
  · intro slot event outcome out error
    have same := active slot event outcome out (Or.inr error)
    generalize proxy.transfer node slot outcome = failing at same
    subst same
    rfl
  · intro pair operations result fd
    exact sparesBusy_refreshStandby (quiet pair operations) result fd
  · intro pair operations
    exact sparesBusy_connPairTick (quiet pair operations)
  · intro pair operations result fd
    apply sparesBusy_connPairTick
    exact (quiet pair operations).refreshStandby result fd

/-! ## Broadcasts -/

/-- The callback began to send the request on a connection of this node. -/
def BeginsSend (before after : Proxy n) (node : Fin n) : Prop :=
  ∃ slot, (before.slot node slot).state = .connected ∧
    after.slot node slot = (before.slot node slot).beginSend after.race.requestLen

/-- Some slot of the node is `CONN_CONNECTED`. -/
def Reachable (proxy : Proxy n) (node : Fin n) : Prop :=
  ∃ slot, (proxy.slot node slot).state = .connected

/-- A connected standby beside an active slot that cannot be used. -/
def Hidden (proxy : Proxy n) (node : Fin n) : Prop :=
  ((proxy.pairs node).slots (proxy.pairs node).standbyIdx).state = .connected ∧
    connPairIsAvailable (proxy.pairs node) = false

instance (proxy : Proxy n) (node : Fin n) : Decidable (Reachable proxy node) :=
  inferInstanceAs (Decidable (∃ _, _))

instance (proxy : Proxy n) (node : Fin n) : Decidable (Hidden proxy node) :=
  inferInstanceAs (Decidable (_ ∧ _))

theorem connPairIsAvailable_iff (pair : ConnPair) :
    connPairIsAvailable pair = true ↔ (pair.slots pair.activeIdx).state = .connected := by
  unfold connPairIsAvailable connPairGetActive
  exact decide_eq_true_iff

/-- A node that is reachable only by its standby is a hidden one. -/
theorem reachable_iff (proxy : Proxy n) (node : Fin n) :
    Reachable proxy node ↔
      connPairIsAvailable (proxy.pairs node) = true ∨ Hidden proxy node := by
  constructor
  · rintro ⟨slot, connected⟩
    cases available : connPairIsAvailable (proxy.pairs node) with
    | true => exact Or.inl rfl
    | false =>
        refine Or.inr ⟨?_, available⟩
        have standby : slot = (proxy.pairs node).standbyIdx := by
          apply eq_standby_of_ne_active
          rintro rfl
          rw [(connPairIsAvailable_iff _).mpr connected] at available
          contradiction
        rw [← standby]
        exact connected
  · rintro (available | hidden)
    · exact ⟨_, (connPairIsAvailable_iff _).mp available⟩
    · exact ⟨_, hidden.1⟩

/-- A connection that is idle before and after a callback was not sent on. -/
theorem not_beginsSend {before after : Proxy n} {node : Fin n}
    (same : after.pairs node = before.pairs node) :
    ¬ BeginsSend before after node := by
  rintro ⟨slot, connected, sent⟩
  rw [Proxy.slot, same] at sent
  have state_eq := congrArg UpstreamConn.state sent
  change (before.slot node slot).state = .sending at state_eq
  rw [connected] at state_eq
  contradiction

/-- What `dispatch_fanout` sends a broadcast to. -/
theorem Acceptance.beginsSend {env : Env} {proxy result : Proxy n} {chunk method : Memory}
    {created : Bool}
    (acceptance : Acceptance env (withChunk proxy chunk) method created result)
    (broadcast : isBroadcast method = true) (node : Fin n) :
    BeginsSend proxy (clearRequest result) node ↔
      connPairIsAvailable (proxy.pairs node) = true := by
  cases acceptance with
  | fanout race begun state pending reachable =>
      have pairs_eq : ∀ base : Proxy n,
          (clearRequest (startRpcTimeout env base created)).pairs = base.pairs :=
        fun base => startRpcTimeout_pairs base env created
      constructor
      · intro begins
        by_contra unavailable
        refine not_beginsSend ?_ begins
        rw [pairs_eq]
        exact if_neg unavailable
      · intro available
        refine ⟨_, (connPairIsAvailable_iff _).mp available, ?_⟩
        have sent : fanoutPairs (withChunk proxy chunk) (withChunk proxy chunk).client.recvLen
            node = sendActive (proxy.pairs node) (withChunk proxy chunk).client.recvLen :=
          if_pos available
        rw [Proxy.slot, pairs_eq, clearRequest_race, startRpcTimeout_race, begun.requestLen_eq]
        exact (congrFun (congrArg ConnPair.slots sent) _).trans (setSlot_slots_self _ _ _)
  | sticky race begun state pending single =>
      rw [begun.all_eq, broadcast] at single
      contradiction
  | refused race begun state unreachable =>
      constructor
      · intro begins
        exact absurd begins (not_beginsSend rfl)
      · intro available
        have member : node ∈ fanoutTargets (withChunk proxy chunk) :=
          List.mem_filter.mpr ⟨List.mem_finRange node, available⟩
        rw [unreachable broadcast] at member
        contradiction

/-- A broadcast is sent to the available nodes and to no others. -/
theorem beginsSend_iff (env : Env) (proxy : Proxy n) (event : Event n)
    (wellFormed : WellFormed proxy) {method : Memory}
    (accepted : acceptedMethod env proxy event = some method)
    (broadcast : isBroadcast method = true) (node : Fin n) :
    BeginsSend proxy (step env proxy event) node ↔
      connPairIsAvailable (proxy.pairs node) = true := by
  rcases step_of_accepted env proxy event wellFormed accepted with
    ⟨chunk, created, result, -, -, -, acceptance, step_eq⟩
  rw [step_eq]
  exact Acceptance.beginsSend acceptance broadcast node

/-- Both nodes are idle when the broadcast comes. -/
theorem beginsSend_iff_bothIdle :
    acceptedMethod exampleEnv (exampleRun 2 [clientConnects]) (clientSends blockRequest) =
        some (ascii "submitblock") ∧
      ∀ node, BeginsSend (exampleRun 2 [clientConnects])
        (step exampleEnv (exampleRun 2 [clientConnects]) (clientSends blockRequest)) node := by
  have facts :
      acceptedMethod exampleEnv (exampleRun 2 [clientConnects]) (clientSends blockRequest) =
          some (ascii "submitblock") ∧
        isBroadcast (ascii "submitblock") = true ∧
        ∀ node, connPairIsAvailable ((exampleRun 2 [clientConnects]).pairs node) = true := by
    decide +kernel
  rcases facts with ⟨accepted, broadcast, available⟩
  exact ⟨accepted, fun node => (beginsSend_iff exampleEnv (exampleRun 2 [clientConnects])
    (clientSends blockRequest) (run_wellFormed exampleEnv (exampleBoot 2) [clientConnects])
    accepted broadcast node).mpr (available node)⟩

/-- A broadcast reaches every node that can be reached exactly if no node is hidden. -/
theorem reaches_all_iff (env : Env) (boot : Boot n) (events : List (Event n)) (event : Event n)
    (method : Memory)
    (accepted :
      acceptedMethod env (run (step env) (rpcProxyCreate boot) events) event = some method)
    (broadcast : isBroadcast method = true) :
    (∀ node, Reachable (run (step env) (rpcProxyCreate boot) events) node →
        BeginsSend (run (step env) (rpcProxyCreate boot) events)
          (step env (run (step env) (rpcProxyCreate boot) events) event) node) ↔
      ∀ node, ¬ Hidden (run (step env) (rpcProxyCreate boot) events) node := by
  have wellFormed := run_wellFormed env boot events
  generalize run (step env) (rpcProxyCreate boot) events = proxy at accepted wellFormed
  have sent : ∀ node, BeginsSend proxy (step env proxy event) node ↔
      connPairIsAvailable (proxy.pairs node) = true := by
    intro node
    rcases step_of_accepted env proxy event wellFormed accepted with
      ⟨chunk, created, result, -, -, -, acceptance, step_eq⟩
    rw [step_eq]
    exact Acceptance.beginsSend acceptance broadcast node
  constructor
  · intro reaches node hidden
    have available := (sent node).mp (reaches node ((reachable_iff proxy node).mpr (Or.inr hidden)))
    rw [hidden.2] at available
    contradiction
  · intro visible node reachable
    rcases (reachable_iff proxy node).mp reachable with available | hidden
    · exact (sent node).mpr available
    · exact absurd hidden (visible node)

/-- One of two nodes answers a raced request; the other still works on its answer. -/
def oneDraining : List (Event 2) :=
  [clientConnects, clientSends addressRequest, slotWrites 0 0 1000, slotWrites 1 0 1000,
    slotReads 0 0 doneResponse [.accepted 1000]]

/-- The node that still works has a connected standby, and the broadcast skips it. -/
theorem oneDraining_skipped :
    acceptedMethod exampleEnv (exampleRun 2 oneDraining) (clientSends blockRequest) =
        some (ascii "submitblock") ∧
      isBroadcast (ascii "submitblock") = true ∧
      Reachable (exampleRun 2 oneDraining) 1 ∧
      ¬ BeginsSend (exampleRun 2 oneDraining)
        (step exampleEnv (exampleRun 2 oneDraining) (clientSends blockRequest)) 1 := by
  have facts :
      acceptedMethod exampleEnv (exampleRun 2 oneDraining) (clientSends blockRequest) =
          some (ascii "submitblock") ∧
        isBroadcast (ascii "submitblock") = true ∧
        Reachable (exampleRun 2 oneDraining) 1 ∧
        ∀ slot, ((step exampleEnv (exampleRun 2 oneDraining)
          (clientSends blockRequest)).slot 1 slot).state ≠ .sending := by
    decide +kernel
  rcases facts with ⟨accepted, broadcast, reachable, unsent⟩
  refine ⟨accepted, broadcast, reachable, ?_⟩
  rintro ⟨slot, -, sent⟩
  exact unsent slot (congrArg UpstreamConn.state sent)

/-! ## Answered slots -/

/-- `CONN_RECEIVING` with a response that is complete. -/
def answeredConn (conn : UpstreamConn) : Bool :=
  conn.state = .receiving && rpcConnResponseComplete conn

/-- While the proxy is idle no active slot holds a complete response. -/
def NoneAnswered (proxy : Proxy n) : Prop :=
  proxy.race.state = .idle → ∀ node, answeredConn (proxy.active node) = false

instance (proxy : Proxy n) : Decidable (NoneAnswered proxy) :=
  inferInstanceAs (Decidable (_ → _))

/--
The node whose response an event completes, if it is a valid response to a
raced request that other nodes have yet to answer.
-/
def winsEarly (env : Env) (proxy : Proxy n) (event : Event n) : Option (Fin n) :=
  match event with
  | .conn node slot event _ =>
      (connOutcome proxy node slot event).bind fun outcome =>
        if outcome.upcall = some .response ∧ proxy.race.state ≠ .idle ∧
            proxy.race.allMustComplete = false ∧ 1 < proxy.race.responsesPending ∧
            responseIsError env.yyjsonRead outcome.conn = false then
          some node
        else none
  | _ => none

/-- A response that wins early finds no other active slot with a complete response. -/
def UnansweredWins (env : Env) (proxy : Proxy n) (event : Event n) : Prop :=
  ∀ winner, winsEarly env proxy event = some winner →
    ∀ node, node ≠ winner → answeredConn (proxy.active node) = false

instance (env : Env) (proxy : Proxy n) (event : Event n) :
    Decidable (UnansweredWins env proxy event) :=
  inferInstanceAs (Decidable (∀ _, _))

theorem answeredConn_of_quiet {conn : UpstreamConn} (quiet : conn.inFlight = false) :
    answeredConn conn = false := by
  cases answered : answeredConn conn with
  | false => rfl
  | true =>
      simp only [answeredConn, Bool.and_eq_true, decide_eq_true_eq] at answered
      simp [UpstreamConn.inFlight, answered.1] at quiet

/-- While the proxy is idle, a callback leaves no slot answered that was not so before. -/
theorem step_answered_of_idle (env : Env) (proxy : Proxy n) (event : Event n)
    (wellFormed : WellFormed proxy) (idle : proxy.race.state = .idle) (node : Fin n)
    (slot : Fin 2) (unanswered : answeredConn (proxy.slot node slot) = false) :
    answeredConn ((step env proxy event).slot node slot) = false := by
  rcases step_explained env proxy event wellFormed with ⟨added, -, -, moves⟩
  have move := moves node slot
  generalize slotTrace node slot added = effects at move
  generalize (step env proxy event).slot node slot = after at move
  cases move with
  | kept => exact unanswered
  | io outcome move noResponse noError =>
      cases move with
      | still => exact unanswered
      | closed quiet => exact answeredConn_of_quiet rfl
      | connected connecting => exact answeredConn_of_quiet rfl
      | broken busy => exact absurd rfl noError
      | wrote sending taken more => simp [answeredConn, sending]
      | wroteAll sending taken bounded finished =>
          simp [answeredConn, UpstreamConn.beginReceive, rpcConnResponseComplete]
      | read receiving chunk nonempty fits incomplete => simp [answeredConn, incomplete]
      | readAll receiving chunk nonempty fits complete => exact absurd rfl noResponse
  | answered chunk inIbd receiving nonempty complete active => exact absurd idle active
  | answeredReset => exact answeredConn_of_quiet (rpcConnReset_inFlight _)
  | broken after busy down => simp [answeredConn, down]
  | started len => simp [answeredConn, UpstreamConn.beginSend]
  | swept => exact answeredConn_of_quiet (rpcConnReset_inFlight _)
  | refreshed result fd standby refreshable =>
      apply answeredConn_of_quiet
      apply rpcConnConnect_inFlight
      simp [UpstreamConn.inFlight, closedStandby_state refreshable]

/-- How a callback makes the proxy idle: by an early winner, or with nothing left in flight. -/
inductive Settling (env : Env) (proxy : Proxy n) (event : Event n) (result : Proxy n) : Prop where
  | quiet (calm : ∀ node slot, (result.slot node slot).inFlight = false)
  | won (winner : Fin n) (early : winsEarly env proxy event = some winner)
      (reset : ∀ slot, (result.slot winner slot).inFlight = false)
      (rest : ∀ node, node ≠ winner → result.pairs node = proxy.pairs node)

/-- `race_complete`, called after any operations on the pairs. -/
theorem settling_of_raceComplete {env : Env} {proxy base : Proxy n} {event : Event n}
    (wellFormed : WellFormed proxy)
    (operations : ∀ node, PairOps (proxy.pairs node) (base.pairs node)) :
    Settling env proxy event (raceComplete base) := by
  apply Settling.quiet
  apply raceComplete_quiet
  intro node
  exact PairOps.preserve (fun _ _ operation => operation.standbyQuiet) (operations node)
    (wellFormed.standby node)

theorem ResponseMove.settling {env : Env} {proxy result : Proxy n} {node : Fin n}
    {slot : Fin 2} {chunk : Memory} {connEvent : ConnEvent} {results : List SendResult}
    (move : ResponseMove env proxy node slot chunk results result)
    (wellFormed : WellFormed proxy)
    (out : connOutcome proxy node slot connEvent =
      some ⟨(proxy.slot node slot).absorb chunk, some .response, [], chunk⟩)
    (active : proxy.race.state ≠ .idle) (idle : result.race.state = .idle) :
    Settling env proxy (.conn node slot connEvent results) result := by
  have operations := fun race inIbd other => (answered_runs out race inIbd other).ops
  cases move with
  | counted race inIbd counting => exact absurd (counting.state_eq.symm.trans idle) active
  | broadcastWon race inIbd counting => exact absurd (counting.state_eq.symm.trans idle) active
  | won race inIbd stuck counting more single first valid =>
      have delivers : Delivers proxy (.conn node slot connEvent results) node slot :=
        ⟨⟨connEvent, results, rfl⟩, Or.inl (by simp [upcallOf, out])⟩
      refine .won node ?_ ?_ ?_
      · simp [winsEarly, out, active, single, more, valid]
      · intro index
        rw [released, setSlot_slot]
        split_ifs with same
        · exact rpcConnReset_inFlight _
        · have kept : (sendUpstreamResponseToClient
              (stick (answered proxy node slot chunk race inIbd) node stuck)
              node slot results).slot node index = proxy.slot node index := by
            rw [Proxy.slot, sendUpstreamResponseToClient_pairs, stick_pairs]
            exact answered_slot_of_ne _ _ _ _ _ _ _ same
          apply Bool.eq_false_of_not_eq_true
          intro busy
          have both := (wellFormed.eq_active (kept ▸ busy)).trans
            (wellFormed.eq_active delivers.busy).symm
          exact same ⟨rfl, both⟩
      · intro other different
        simp [released, Proxy.setSlot, different]
  | ended race inIbd => exact settling_of_raceComplete wellFormed (operations race inIbd)
  | settled race inIbd stuck =>
      apply settling_of_raceComplete wellFormed
      intro other
      rw [sendUpstreamResponseToClient_pairs, stick_pairs]
      exact operations race inIbd other

theorem FailureMove.settling {env : Env} {proxy base result : Proxy n} {event : Event n}
    {node : Fin n} (move : FailureMove base node result) (wellFormed : WellFormed proxy)
    (operations : ∀ node, PairOps (proxy.pairs node) (base.pairs node))
    (active : base.race.state ≠ .idle) (idle : result.race.state = .idle) :
    Settling env proxy event result := by
  cases move with
  | counted => exact absurd idle active
  | ended => exact settling_of_raceComplete wellFormed operations
  | closed => exact settling_of_raceComplete wellFormed operations

theorem step_settling (env : Env) (proxy : Proxy n) (event : Event n)
    (wellFormed : WellFormed proxy) (active : proxy.race.state ≠ .idle)
    (idle : (step env proxy event).race.state = .idle) :
    Settling env proxy event (step env proxy event) := by
  have move := step_raceStep env proxy event wellFormed
  generalize step env proxy event = result at move idle
  cases move with
  | aside event result added trace quiet race_eq =>
      rw [race_eq] at idle
      exact absurd idle active
  | notified => exact absurd idle active
  | request event chunk method result bytes accepted wasIdle => exact absurd wasIdle active
  | lateResponse node slot event results chunk result added out wasIdle =>
      exact absurd wasIdle active
  | response node slot event results chunk result out complete racing move =>
      exact ResponseMove.settling move wellFormed out active idle
  | lateError node slot event results result added wasIdle => exact absurd wasIdle active
  | error node slot event results result out racing move =>
      have broken := fun other => (breakage_runs out other).ops
      cases move with
      | retried => exact absurd idle active
      | twice already result failure =>
          exact FailureMove.settling failure wellFormed broken active idle
      | lost first final result failure =>
          refine FailureMove.settling failure wellFormed (fun other => ?_) active idle
          exact (broken other).trans (swapOnError_runs _ node other).ops
  | expired fd results result registered move =>
      cases move with
      | drained wasIdle => exact absurd wasIdle active
      | ended => exact settling_of_raceComplete wellFormed fun _ => .refl
      | closed => exact settling_of_raceComplete wellFormed fun _ => .refl

theorem winsEarly_eq_some {env : Env} {proxy : Proxy n} {event : Event n} {winner : Fin n}
    (early : winsEarly env proxy event = some winner) :
    proxy.race.state ≠ .idle ∧ proxy.race.allMustComplete = false ∧
      1 < proxy.race.responsesPending ∧
      ∃ slot connEvent results outcome, event = .conn winner slot connEvent results ∧
        connOutcome proxy winner slot connEvent = some outcome ∧
        outcome.upcall = some .response ∧ responseIsError env.yyjsonRead outcome.conn = false := by
  cases event with
  | conn node slot connEvent results =>
      obtain ⟨outcome, out, chosen⟩ := Option.bind_eq_some_iff.mp early
      split_ifs at chosen with wins
      obtain rfl := Option.some.inj chosen
      exact ⟨wins.2.1, wins.2.2.1, wins.2.2.2.1, slot, connEvent, results, outcome, rfl, out,
        wins.1, wins.2.2.2.2⟩
  | _ => simp [winsEarly] at early

/-- An early winner makes the proxy idle and touches no other node. -/
theorem step_of_winsEarly (env : Env) (proxy : Proxy n) (event : Event n)
    (wellFormed : WellFormed proxy) {winner : Fin n}
    (early : winsEarly env proxy event = some winner) :
    (step env proxy event).race.state = .idle ∧
      ∀ node, node ≠ winner → (step env proxy event).pairs node = proxy.pairs node := by
  rcases winsEarly_eq_some early with
    ⟨active, single, more, slot, connEvent, results, outcome, rfl, out, response, valid⟩
  have unwon := (wellFormed.racing active).single single
  have move := step_move env proxy (.conn winner slot connEvent results) wellFormed
  generalize step env proxy (.conn winner slot connEvent results) = result at move
  cases move with
  | ignored _ _ unheard => simp [upcallOf, out, response] at unheard
  | moved _ _ _ _ other out' silent =>
      rw [out] at out'
      cases out'
      simp [response] at silent
  | connected _ _ _ _ other out' upcall =>
      rw [out] at out'
      cases out'
      simp [response] at upcall
  | lateResponse _ _ _ _ chunk nonempty out' receiving complete idle => exact absurd idle active
  | response _ _ _ _ chunk nonempty out' receiving complete _ result move =>
      rw [out] at out'
      cases out'
      cases move with
      | counted race inIbd counting more unsent =>
          rcases unsent with error | won
          · rw [valid] at error
            contradiction
          · exact absurd unwon won
      | broadcastWon race inIbd counting more all =>
          rw [single] at all
          contradiction
      | won race inIbd stuck =>
          refine ⟨rfl, fun node different => ?_⟩
          simp [released, Proxy.setSlot, different]
      | ended race inIbd counting last => omega
      | settled race inIbd stuck counting last => omega
  | lateError _ _ _ _ out' busy idle => exact absurd idle active
  | error _ _ _ _ out' busy _ result move =>
      rw [out] at out'
      cases out'
      simp [ConnOutcome.quiet] at response

/-- In an idle state without an answered active slot no slot at all is answered. -/
theorem NoneAnswered.slot {proxy : Proxy n} (none : NoneAnswered proxy)
    (wellFormed : WellFormed proxy) (idle : proxy.race.state = .idle) (node : Fin n)
    (slot : Fin 2) :
    answeredConn (proxy.slot node slot) = false := by
  by_cases active : slot = (proxy.pairs node).activeIdx
  · rw [active]
    exact none idle node
  · apply answeredConn_of_quiet
    rw [Proxy.slot, eq_standby_of_ne_active _ slot active]
    exact wellFormed.standby node

/-- A step that breaks the condition leaves an answered slot behind, and no other does. -/
theorem step_noneAnswered_iff (env : Env) (proxy : Proxy n) (event : Event n)
    (wellFormed : WellFormed proxy) (before : NoneAnswered proxy) :
    NoneAnswered (step env proxy event) ↔ UnansweredWins env proxy event := by
  constructor
  · intro after winner early node different
    rcases step_of_winsEarly env proxy event wellFormed early with ⟨idle, rest⟩
    have unanswered := after idle node
    rw [Proxy.active, rest node different] at unanswered
    exact unanswered
  · intro guarded idle node
    by_cases wasIdle : proxy.race.state = .idle
    · exact step_answered_of_idle env proxy event wellFormed wasIdle node _
        (before.slot wellFormed wasIdle node _)
    · cases step_settling env proxy event wellFormed wasIdle idle with
      | quiet calm => exact answeredConn_of_quiet (calm node _)
      | won winner early reset rest =>
          by_cases same : node = winner
          · subst same
            exact answeredConn_of_quiet (reset _)
          · rw [Proxy.active, rest node same]
            exact guarded winner early node same

/--
Throughout a run no connection stays blocked with a complete response while
the proxy is idle, exactly if every early winner finds none.
-/
theorem noneAnswered_iff_unansweredWins (env : Env) (boot : Boot n) (events : List (Event n)) :
    Throughout (step env) NoneAnswered (rpcProxyCreate boot) events ↔
      Along (step env) (UnansweredWins env) (rpcProxyCreate boot) events := by
  have keep : ∀ (proxy : Proxy n) event, WellFormed proxy ∧ NoneAnswered proxy →
      UnansweredWins env proxy event →
      WellFormed (step env proxy event) ∧ NoneAnswered (step env proxy event) := by
    rintro proxy event ⟨wellFormed, before⟩ guarded
    exact ⟨step_wellFormed env proxy event wellFormed,
      (step_noneAnswered_iff env proxy event wellFormed before).mpr guarded⟩
  apply throughout_iff_along keep
  · rintro proxy ⟨-, before⟩
    exact before
  · rintro proxy event ⟨wellFormed, before⟩ after
    exact (step_noneAnswered_iff env proxy event wellFormed before).mp after
  · refine ⟨rpcProxyCreate_wellFormed boot, fun _ node => ?_⟩
    exact answeredConn_of_quiet (rpcProxyCreate_quiet boot node _)

/-- One of three nodes answers a raced request with an error, then another wins it. -/
def errorFirst : List (Event 3) :=
  [clientConnects, clientSends addressRequest,
    slotWrites 0 0 1000, slotWrites 1 0 1000, slotWrites 2 0 1000,
    slotReads 0 0 errorResponse [], slotReads 1 0 doneResponse [.accepted 1000]]

/-- The node that answered with an error stays `CONN_RECEIVING`. -/
theorem errorFirst_not_noneAnswered :
    ¬ Throughout (step exampleEnv) NoneAnswered (rpcProxyCreate (exampleBoot 3)) errorFirst := by
  have blocked : ¬ NoneAnswered (exampleRun 3 errorFirst) := by
    decide +kernel
  intro everywhere
  exact blocked (throughout_end everywhere)

end RpcRace.ActiveSlots
