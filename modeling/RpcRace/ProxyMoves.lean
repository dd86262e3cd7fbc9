import RpcRace.RaceMoves

/-!
# What one callback can do

`ProxyMove` lists the outcomes of `step`, one constructor for each kind of
outcome of a handler, with the state it leaves.  `step_move` is the inversion
of `step` in a well-formed state, and `step_wellFormed` says that every state
of a run is well formed.  The properties of later modules are proved by cases
on the moves and never unfold a handler.
-/

namespace RpcRace.ProxyMoves

open RpcRace.Library.CString
open RpcRace.RpcConn
open RpcRace.ConnectionPair
open RpcRace.JsonResponse
open RpcRace.PairMoves
open RpcRace.RpcProxy
open RpcRace.Dispatch
open RpcRace.RaceMoves
open RpcRace.Library.Run

variable {n : Nat}

/-! ## Client events -/

/-- The bytes an event stores in `client_recv_buf`, if it stores any. -/
def storedChunk (proxy : Proxy n) (event : Event n) : Option Memory :=
  match event with
  | .client event =>
      if proxy.client.connected ∧ event.errHup = false ∧ event.epollIn ∧
          socketBufSize - proxy.client.recvLen ≠ 0 then
        match event.recvResult with
        | .data bytes =>
            if bytes.take (socketBufSize - proxy.client.recvLen) = [] then none
            else some (bytes.take (socketBufSize - proxy.client.recvLen))
        | _ => none
      else none
  | _ => none

/-- The method of the request an event passes to dispatch, if it passes one. -/
def acceptedMethod (env : Env) (proxy : Proxy n) (event : Event n) : Option Memory :=
  (storedChunk proxy event).bind fun chunk =>
    if parseHttpRequest (proxy.client.store chunk) ∧ proxy.race.state = .idle then
      extractJsonRpcMethod env.yyjsonRead
        ((proxy.client.store chunk).recvBuf.take (proxy.client.store chunk).recvLen)
    else none

/-- The proxy with one more chunk of client bytes. -/
def withChunk (proxy : Proxy n) (chunk : Memory) : Proxy n :=
  { proxy with client := proxy.client.store chunk }

/-- The record of the request an event passes to dispatch, if it passes one. -/
def acceptedRequest (env : Env) (proxy : Proxy n) (event : Event n) : Option (Effect n) :=
  (storedChunk proxy event).bind fun chunk =>
    (acceptedMethod env proxy event).map (requestEffect (withChunk proxy chunk))

theorem acceptedRequest_of_acceptedMethod {env : Env} {proxy : Proxy n} {event : Event n}
    (waiting : acceptedMethod env proxy event = none) :
    acceptedRequest env proxy event = none := by
  unfold acceptedRequest
  cases storedChunk proxy event <;> simp [waiting]

theorem acceptedMethod_of_storedChunk {env : Env} {proxy : Proxy n} {event : Event n}
    (noBytes : storedChunk proxy event = none) :
    acceptedMethod env proxy event = none := by
  simp [acceptedMethod, noBytes]

/-- A complete request is not empty. -/
theorem recvLen_ne_zero_of_parseHttpRequest {client : Client}
    (complete : parseHttpRequest client = true) :
    client.recvLen ≠ 0 := by
  intro empty
  rw [parseHttpRequest, empty] at complete
  simp [findHeaderEnd] at complete

/-! ## Upstream events -/

/-- `conn_epoll_cb` acts on a connection by one of its moves. -/
theorem connOutcome_move {proxy : Proxy n} {node : Fin n} {slot : Fin 2} {event : ConnEvent}
    {outcome : ConnOutcome} (out : connOutcome proxy node slot event = some outcome) :
    ConnMove proxy.client.recvBuf (proxy.slot node slot) outcome := by
  obtain ⟨interest, -, rfl⟩ := Option.map_eq_some_iff.mp out
  exact connEpollCb_move _ _ _

/-- The callback that an upstream event ends with, if any. -/
def upcallOf (proxy : Proxy n) (event : Event n) : Option Upcall :=
  match event with
  | .conn node slot event _ => (connOutcome proxy node slot event).bind ConnOutcome.upcall
  | _ => none

/-- The event delivers a complete response or a transport error on this slot. -/
def Delivers (proxy : Proxy n) (event : Event n) (node : Fin n) (slot : Fin 2) : Prop :=
  (∃ connEvent results, event = .conn node slot connEvent results) ∧
    (upcallOf proxy event = some .response ∨ upcallOf proxy event = some .error)

instance (proxy : Proxy n) (event : Event n) (node : Fin n) (slot : Fin 2) :
    Decidable (Delivers proxy event node slot) :=
  match event with
  | .conn other index connEvent results =>
      decidable_of_iff
        ((other = node ∧ index = slot) ∧
          (upcallOf proxy (.conn other index connEvent results) = some .response ∨
            upcallOf proxy (.conn other index connEvent results) = some .error))
        (and_congr_left fun _ =>
          ⟨fun ⟨sameNode, sameSlot⟩ => ⟨connEvent, results, by rw [sameNode, sameSlot]⟩,
            fun ⟨_, _, equal⟩ => by cases equal; exact ⟨rfl, rfl⟩⟩)
  | .accept _ => .isFalse fun ⟨⟨_, _, equal⟩, _⟩ => by cases equal
  | .client _ => .isFalse fun ⟨⟨_, _, equal⟩, _⟩ => by cases equal
  | .rotation _ _ => .isFalse fun ⟨⟨_, _, equal⟩, _⟩ => by cases equal
  | .timeout _ _ => .isFalse fun ⟨⟨_, _, equal⟩, _⟩ => by cases equal
  | .blockNotify => .isFalse fun ⟨⟨_, _, equal⟩, _⟩ => by cases equal
  | .elapse _ => .isFalse fun ⟨⟨_, _, equal⟩, _⟩ => by cases equal

/-- A delivery comes from a slot with a request in flight. -/
theorem Delivers.busy {proxy : Proxy n} {event : Event n} {node : Fin n} {slot : Fin 2}
    (delivers : Delivers proxy event node slot) :
    (proxy.slot node slot).inFlight = true := by
  obtain ⟨⟨connEvent, results, rfl⟩, upcall⟩ := delivers
  cases out : connOutcome proxy node slot connEvent with
  | none => simp [upcallOf, out] at upcall
  | some outcome =>
      simp only [upcallOf, out, Option.bind_some] at upcall
      rcases upcall with response | error
      · have receiving := ((connOutcome_move out).of_response response).1
        simp [UpstreamConn.inFlight, receiving]
      · exact ((connOutcome_move out).of_error error).1

/-! ## Well-formed states -/

/-- What holds of the proxy between any two callbacks. -/
structure WellFormed (proxy : Proxy n) : Prop where
  standby : ∀ node, StandbyQuiet (proxy.pairs node)
  racing : proxy.race.state ≠ .idle → Racing proxy.race

/-- A slot with a request in flight is the active one of its node. -/
theorem WellFormed.eq_active {proxy : Proxy n} (wellFormed : WellFormed proxy)
    {node : Fin n} {slot : Fin 2} (busy : (proxy.slot node slot).inFlight = true) :
    slot = (proxy.pairs node).activeIdx :=
  (wellFormed.standby node).eq_active busy

/-! ## The moves -/

/-- The outcomes of one callback. -/
inductive ProxyMove (env : Env) (proxy : Proxy n) : Event n → Proxy n → Prop where
  | ignored (event : Event n) (noBytes : storedChunk proxy event = none)
      (unheard : upcallOf proxy event = none) :
      ProxyMove env proxy event proxy
  | elapsed (duration : Nat) :
      ProxyMove env proxy (.elapse duration) { proxy with now := proxy.now + duration }
  | notified :
      ProxyMove env proxy .blockNotify (rpcProxyOnBlockNotify proxy)
  | replaced (registered : Bool) :
      ProxyMove env proxy (.accept (.accepted registered))
        (listenerCb proxy (.accepted registered))
  | hungUp (event : ClientEvent) (connected : proxy.client.connected = true)
      (noBytes : storedChunk proxy (.client event) = none) :
      ProxyMove env proxy (.client event) (closeClient proxy false)
  | stored (event : ClientEvent) (chunk : Memory)
      (bytes : storedChunk proxy (.client event) = some chunk)
      (waiting : acceptedMethod env proxy (.client event) = none) :
      ProxyMove env proxy (.client event) (withChunk proxy chunk)
  | dropped (event : ClientEvent) (chunk : Memory)
      (bytes : storedChunk proxy (.client event) = some chunk)
      (waiting : acceptedMethod env proxy (.client event) = none) :
      ProxyMove env proxy (.client event) (clearRequest (withChunk proxy chunk))
  | request (event : ClientEvent) (chunk method : Memory) (result : Proxy n)
      (bytes : storedChunk proxy (.client event) = some chunk)
      (accepted : acceptedMethod env proxy (.client event) = some method)
      (idle : proxy.race.state = .idle)
      (nonempty : (withChunk proxy chunk).client.recvLen ≠ 0)
      (acceptance :
        Acceptance env (withChunk proxy chunk) method event.timerCreated result) :
      ProxyMove env proxy (.client event) (clearRequest result)
  | moved (node : Fin n) (slot : Fin 2) (event : ConnEvent) (results : List SendResult)
      (outcome : ConnOutcome) (out : connOutcome proxy node slot event = some outcome)
      (silent : outcome.upcall = none) :
      ProxyMove env proxy (.conn node slot event results) (proxy.transfer node slot outcome)
  | connected (node : Fin n) (slot : Fin 2) (event : ConnEvent) (results : List SendResult)
      (outcome : ConnOutcome) (out : connOutcome proxy node slot event = some outcome)
      (upcall : outcome.upcall = some .connected) :
      ProxyMove env proxy (.conn node slot event results)
        (((proxy.transfer node slot outcome).setPair node
          (runOnConnected ((proxy.transfer node slot outcome).pairs node) slot)).emit
            (.established node slot))
  | lateResponse (node : Fin n) (slot : Fin 2) (event : ConnEvent)
      (results : List SendResult) (chunk : Memory) (nonempty : chunk ≠ [])
      (out : connOutcome proxy node slot event =
        some ⟨(proxy.slot node slot).absorb chunk, some .response, [], chunk⟩)
      (receiving : (proxy.slot node slot).state = .receiving)
      (complete : rpcConnResponseComplete ((proxy.slot node slot).absorb chunk) = true)
      (idle : proxy.race.state = .idle) :
      ProxyMove env proxy (.conn node slot event results)
        (drainSlot (delivery proxy node slot chunk) node slot)
  | response (node : Fin n) (slot : Fin 2) (event : ConnEvent)
      (results : List SendResult) (chunk : Memory) (nonempty : chunk ≠ [])
      (out : connOutcome proxy node slot event =
        some ⟨(proxy.slot node slot).absorb chunk, some .response, [], chunk⟩)
      (receiving : (proxy.slot node slot).state = .receiving)
      (complete : rpcConnResponseComplete ((proxy.slot node slot).absorb chunk) = true)
      (active : proxy.race.state ≠ .idle) (result : Proxy n)
      (move : ResponseMove env proxy node slot chunk results result) :
      ProxyMove env proxy (.conn node slot event results) result
  | lateError (node : Fin n) (slot : Fin 2) (event : ConnEvent) (results : List SendResult)
      (out : connOutcome proxy node slot event =
        some (.quiet (proxy.slot node slot).dropFd (some .error)))
      (busy : (proxy.slot node slot).inFlight = true)
      (idle : proxy.race.state = .idle) :
      ProxyMove env proxy (.conn node slot event results)
        (drainSlot (breakage proxy node slot) node slot)
  | error (node : Fin n) (slot : Fin 2) (event : ConnEvent) (results : List SendResult)
      (out : connOutcome proxy node slot event =
        some (.quiet (proxy.slot node slot).dropFd (some .error)))
      (busy : (proxy.slot node slot).inFlight = true)
      (active : proxy.race.state ≠ .idle) (result : Proxy n)
      (move : ErrorMove (breakage proxy node slot) node result) :
      ProxyMove env proxy (.conn node slot event results) result
  | rotated (node : Fin n) (result : ConnectResult) :
      ProxyMove env proxy (.rotation node result) (rotationEvent proxy node result)
  | expired (fd : Nat) (results : List SendResult) (registered : timerRegistered proxy fd = true)
      (result : Proxy n) (move : TimeoutMove proxy fd result) :
      ProxyMove env proxy (.timeout fd results) result

theorem clientCb_move (env : Env) (proxy : Proxy n) (event : ClientEvent)
    (connected : proxy.client.connected = true) :
    ProxyMove env proxy (.client event) (clientCb env proxy event) := by
  unfold clientCb
  split_ifs with hup quiet full
  · exact .hungUp event connected (by simp [storedChunk, hup])
  · exact .ignored _ (by simp [storedChunk, quiet]) rfl
  · exact .hungUp event connected (by simp [storedChunk, full])
  · have ready : proxy.client.connected = true ∧ event.errHup = false ∧
        event.epollIn = true ∧ socketBufSize - proxy.client.recvLen ≠ 0 :=
      ⟨connected, by simpa using hup, by simpa using quiet, full⟩
    cases received : event.recvResult with
    | again => exact .ignored _ (by simp [storedChunk, received]) rfl
    | failed => exact .hungUp event connected (by simp [storedChunk, received])
    | data bytes =>
        dsimp only
        split_ifs with empty
        · exact .hungUp event connected
            (by simp only [storedChunk, received, empty, if_true, ite_self])
        · have bytes_eq : storedChunk proxy (.client event) =
              some (bytes.take (socketBufSize - proxy.client.recvLen)) := by
            simp only [storedChunk, received]
            rw [if_pos ready, if_neg empty]
          generalize bytes.take (socketBufSize - proxy.client.recvLen) = chunk at *
          change ProxyMove env proxy _ (onClientData env (withChunk proxy chunk) _)
          unfold onClientData
          split_ifs with complete busy
          · refine .dropped event chunk bytes_eq ?_
            have active : proxy.race.state ≠ .idle := busy
            simp [acceptedMethod, bytes_eq, active]
          · have idle : proxy.race.state = .idle := not_not.mp busy
            have method_eq : acceptedMethod env proxy (.client event) =
                extractJsonRpcMethod env.yyjsonRead
                  ((withChunk proxy chunk).client.recvBuf.take
                    (withChunk proxy chunk).client.recvLen) := by
              simp only [acceptedMethod, bytes_eq, Option.bind_some]
              rw [if_pos ⟨complete, idle⟩]
              rfl
            split
            · rename_i none_eq
              exact .dropped event chunk bytes_eq (method_eq.trans none_eq)
            · rename_i method some_eq
              have nonempty := recvLen_ne_zero_of_parseHttpRequest complete
              exact .request event chunk method _ bytes_eq (method_eq.trans some_eq) idle
                nonempty (acceptRequest_acceptance env _ method _ nonempty)
          · refine .stored event chunk bytes_eq ?_
            have incomplete : ¬ parseHttpRequest (proxy.client.store chunk) = true := complete
            simp [acceptedMethod, bytes_eq, incomplete]

/-- The state in which `on_response` is called. -/
theorem transfer_delivered (proxy : Proxy n) (node : Fin n) (slot : Fin 2) (chunk : Memory) :
    (proxy.transfer node slot
        ⟨(proxy.slot node slot).absorb chunk, some .response, [], chunk⟩).emit
      (.delivered node slot
        ((proxy.transfer node slot
          ⟨(proxy.slot node slot).absorb chunk, some .response, [], chunk⟩).slot node slot)) =
      delivery proxy node slot chunk := by
  simp [Proxy.transfer, delivery]

/-- A response that arrives while the proxy is idle is drained. -/
theorem connEvent_of_late (env : Env) {proxy : Proxy n} {node : Fin n} {slot : Fin 2}
    {event : ConnEvent} (results : List SendResult) {chunk : Memory}
    (out : connOutcome proxy node slot event =
      some ⟨(proxy.slot node slot).absorb chunk, some .response, [], chunk⟩)
    (receiving : (proxy.slot node slot).state = .receiving) (idle : proxy.race.state = .idle) :
    connEvent env proxy node slot event results =
      drainSlot (delivery proxy node slot chunk) node slot := by
  have conn_eq : (delivery proxy node slot chunk).slot node slot =
      (proxy.slot node slot).absorb chunk := by
    simp [delivery]
  have state_eq : ((delivery proxy node slot chunk).slot node slot).state = .receiving := by
    rw [conn_eq, absorb_state, receiving]
  have late : (delivery proxy node slot chunk).race.state = .idle := idle
  unfold connEvent
  rw [out]
  change onUpstreamResponse env
    ((proxy.transfer node slot _).emit (.delivered node slot
      ((proxy.transfer node slot _).slot node slot))) node slot results = _
  rw [transfer_delivered]
  unfold onUpstreamResponse
  dsimp only
  rw [if_pos ⟨late, state_eq⟩]

/-- A response that arrives in a race is counted and judged. -/
theorem connEvent_of_response (env : Env) {proxy : Proxy n} {node : Fin n} {slot : Fin 2}
    {event : ConnEvent} (results : List SendResult) {chunk : Memory}
    (out : connOutcome proxy node slot event =
      some ⟨(proxy.slot node slot).absorb chunk, some .response, [], chunk⟩)
    (active : proxy.race.state ≠ .idle) :
    connEvent env proxy node slot event results =
      finishResponse
        (applyJudgement (delivery proxy node slot chunk) node slot
          (judgeResponse env proxy.race.countDown ((proxy.slot node slot).absorb chunk) node)
          results)
        node slot proxy.race.isGbtRace results := by
  have conn_eq : (delivery proxy node slot chunk).slot node slot =
      (proxy.slot node slot).absorb chunk := by
    simp [delivery]
  have early : ¬ (delivery proxy node slot chunk).race.state = .idle := active
  unfold connEvent
  rw [out]
  change onUpstreamResponse env
    ((proxy.transfer node slot _).emit (.delivered node slot
      ((proxy.transfer node slot _).slot node slot))) node slot results = _
  rw [transfer_delivered]
  unfold onUpstreamResponse
  dsimp only
  rw [if_neg fun late => early late.1, conn_eq]
  rfl

theorem connEvent_move (env : Env) (proxy : Proxy n) (node : Fin n) (slot : Fin 2)
    (event : ConnEvent) (results : List SendResult) (wellFormed : WellFormed proxy) :
    ProxyMove env proxy (.conn node slot event results)
      (connEvent env proxy node slot event results) := by
  cases out : connOutcome proxy node slot event with
  | none =>
      rw [connEvent, out]
      exact .ignored _ rfl (by simp [upcallOf, out])
  | some outcome =>
      have move := connOutcome_move out
      cases upcall : outcome.upcall with
      | none =>
          rw [connEvent, out]
          simp only [upcall]
          exact .moved node slot event results outcome out upcall
      | some kind =>
          cases kind with
          | connected =>
              rw [connEvent, out]
              simp only [upcall]
              exact .connected node slot event results outcome out upcall
          | response =>
              obtain ⟨receiving, chunk, nonempty, rfl, complete⟩ := move.of_response upcall
              by_cases idle : proxy.race.state = .idle
              · rw [connEvent_of_late env results out receiving idle]
                exact .lateResponse node slot event results chunk nonempty out receiving complete
                  idle
              · rw [connEvent_of_response env results out idle]
                exact .response node slot event results chunk nonempty out receiving complete
                  idle _
                  (finishResponse_move env proxy node slot chunk results
                    (wellFormed.racing idle)
                    (wellFormed.eq_active (by simp [UpstreamConn.inFlight, receiving]))
                    receiving nonempty)
          | error =>
              obtain ⟨busy, rfl⟩ := move.of_error upcall
              rw [connEvent, out]
              change ProxyMove env proxy _ (onUpstreamError (breakage proxy node slot) node slot)
              by_cases idle : proxy.race.state = .idle
              · have drained : onUpstreamError (breakage proxy node slot) node slot =
                    drainSlot (breakage proxy node slot) node slot := by
                  unfold onUpstreamError
                  rw [if_pos (show (breakage proxy node slot).race.state = .idle from idle)]
                rw [drained]
                exact .lateError node slot event results out busy idle
              · exact .error node slot event results out busy idle _
                  (onUpstreamError_move _ node slot idle)

/-- Every callback is one of the moves. -/
theorem step_move (env : Env) (proxy : Proxy n) (event : Event n)
    (wellFormed : WellFormed proxy) :
    ProxyMove env proxy event (step env proxy event) := by
  cases event with
  | accept result =>
      cases result with
      | failed => exact .ignored _ rfl rfl
      | accepted registered => exact .replaced registered
  | client event =>
      simp only [step]
      split_ifs with connected
      · exact clientCb_move env proxy event connected
      · exact .ignored _ (by simp [storedChunk, connected]) rfl
  | conn node slot event results =>
      exact connEvent_move env proxy node slot event results wellFormed
  | rotation node result => exact .rotated node result
  | timeout fd results =>
      simp only [step]
      split_ifs with registered
      · exact .expired fd results registered _ (rpcTimeoutCb_move proxy fd results wellFormed.racing)
      · exact .ignored _ rfl rfl
  | blockNotify => exact .notified
  | elapse duration => exact .elapsed duration

/-- A callback that delivers a response to the race. -/
theorem step_of_response (env : Env) (proxy : Proxy n) (event : Event n)
    (wellFormed : WellFormed proxy) (active : proxy.race.state ≠ .idle)
    (response : upcallOf proxy event = some .response) :
    ∃ node slot connEvent results chunk, event = .conn node slot connEvent results ∧
      connOutcome proxy node slot connEvent =
        some ⟨(proxy.slot node slot).absorb chunk, some .response, [], chunk⟩ ∧
      ResponseMove env proxy node slot chunk results (step env proxy event) := by
  cases event with
  | conn node slot connEvent results =>
      rcases Option.bind_eq_some_iff.mp response with ⟨outcome, out, upcall⟩
      obtain ⟨receiving, chunk, nonempty, rfl, -⟩ := (connOutcome_move out).of_response upcall
      refine ⟨node, slot, connEvent, results, chunk, rfl, out, ?_⟩
      change ResponseMove env proxy node slot chunk results
        (RpcProxy.connEvent env proxy node slot connEvent results)
      rw [connEvent_of_response env results out active]
      exact finishResponse_move env proxy node slot chunk results (wellFormed.racing active)
        (wellFormed.eq_active (by simp [UpstreamConn.inFlight, receiving])) receiving nonempty
  | _ => simp [upcallOf] at response

/-- A callback that passes a request to dispatch. -/
theorem step_of_accepted (env : Env) (proxy : Proxy n) (event : Event n)
    (wellFormed : WellFormed proxy) {method : Memory}
    (accepted : acceptedMethod env proxy event = some method) :
    ∃ chunk created result, storedChunk proxy event = some chunk ∧
      proxy.race.state = .idle ∧ (withChunk proxy chunk).client.recvLen ≠ 0 ∧
      Acceptance env (withChunk proxy chunk) method created result ∧
      step env proxy event = clearRequest result := by
  have move := step_move env proxy event wellFormed
  generalize step env proxy event = result at move
  cases move with
  | ignored event noBytes unheard =>
      rw [acceptedMethod_of_storedChunk noBytes] at accepted
      contradiction
  | hungUp event connected noBytes =>
      rw [acceptedMethod_of_storedChunk noBytes] at accepted
      contradiction
  | stored event chunk bytes waiting =>
      rw [waiting] at accepted
      contradiction
  | dropped event chunk bytes waiting =>
      rw [waiting] at accepted
      contradiction
  | request event chunk other result bytes accepts idle nonempty acceptance =>
      rw [accepts] at accepted
      cases accepted
      exact ⟨chunk, event.timerCreated, result, bytes, idle, nonempty, acceptance, rfl⟩
  | _ => simp [acceptedMethod, storedChunk] at accepted

/-! ## The listener and the rotation timer -/

@[simp]
theorem listenerCb_pairs (proxy : Proxy n) (registered : Bool) :
    (listenerCb proxy (.accepted registered)).pairs = proxy.pairs := by
  simp only [listenerCb]
  split_ifs <;> rfl

@[simp]
theorem listenerCb_race (proxy : Proxy n) (registered : Bool) :
    (listenerCb proxy (.accepted registered)).race = proxy.race := by
  simp only [listenerCb]
  split_ifs <;> rfl

@[simp]
theorem rotationEvent_pairs (proxy : Proxy n) (node : Fin n) (result : ConnectResult) :
    (rotationEvent proxy node result).pairs =
      Function.update proxy.pairs node
        (rotationTimerCb (proxy.pairs node) result proxy.nextFd) := by
  simp only [rotationEvent]
  split_ifs <;> rfl

@[simp]
theorem rotationEvent_race (proxy : Proxy n) (node : Fin n) (result : ConnectResult) :
    (rotationEvent proxy node result).race = proxy.race := by
  simp only [rotationEvent]
  split_ifs <;> rfl

/-! ## Pairs -/

theorem sendActive_runs (pair : ConnPair) {len : Nat} (nonempty : len ≠ 0)
    (available : connPairIsAvailable pair = true) :
    PairRuns pair (sendActive pair len) :=
  .send (rpcConnSend_eq_some.mpr
    ⟨nonempty, by simpa [connPairIsAvailable] using available, rfl⟩)

theorem resetParticipant_runs (pair : ConnPair) : PairRuns pair (resetParticipant pair) := by
  unfold resetParticipant
  dsimp only
  split_ifs
  · exact .single pair (.reset pair.activeIdx)
  · exact .refl pair

theorem resetStuck_runs (pair : ConnPair) : PairRuns pair (resetStuck pair) := by
  unfold resetStuck
  split_ifs
  · exact .single pair (.reset pair.activeIdx)
  · exact .refl pair

theorem raceComplete_runs (proxy : Proxy n) (node : Fin n) :
    PairRuns (proxy.pairs node) ((raceComplete proxy).pairs node) := by
  rw [raceComplete_pairs]
  exact (resetParticipant_runs _).trans (.single _ .tick)

theorem drainSlot_pairs (proxy : Proxy n) (node : Fin n) (slot : Fin 2) :
    (drainSlot proxy node slot).pairs =
      (proxy.setSlot node slot (rpcConnReset (proxy.slot node slot))).pairs := by
  unfold drainSlot
  dsimp only
  split_ifs <;> simp

/-- A run of the pair of one node is a run, maybe empty, of the pair of every node. -/
theorem setPair_runs (proxy : Proxy n) (node other : Fin n) (pair : ConnPair)
    (runs : PairRuns (proxy.pairs node) pair) :
    PairRuns (proxy.pairs other) ((proxy.setPair node pair).pairs other) := by
  by_cases same : other = node
  · subst same
    simpa using runs
  · simpa [same] using PairRuns.refl (proxy.pairs other)

theorem drainSlot_runs (proxy : Proxy n) (node other : Fin n) (slot : Fin 2) :
    PairRuns (proxy.pairs other) ((drainSlot proxy node slot).pairs other) := by
  rw [drainSlot_pairs]
  exact setPair_runs proxy node other _ (.single (proxy.pairs node) (.reset slot))

/-- Traffic on a slot, unless it completes a connect. -/
theorem io_runs {proxy : Proxy n} {node : Fin n} {slot : Fin 2} {event : ConnEvent}
    {outcome : ConnOutcome} (out : connOutcome proxy node slot event = some outcome)
    (silent : outcome.upcall ≠ some .connected) :
    PairRuns (proxy.pairs node) ((proxy.pairs node).setSlot slot outcome.conn) := by
  obtain ⟨interest, -, out⟩ := Option.map_eq_some_iff.mp out
  exact .io out silent

theorem answered_runs {proxy : Proxy n} {node : Fin n} {slot : Fin 2} {chunk : Memory}
    {event : ConnEvent} (out : connOutcome proxy node slot event =
      some ⟨(proxy.slot node slot).absorb chunk, some .response, [], chunk⟩)
    (race : Race n) (inIbd : Bool) (other : Fin n) :
    PairRuns (proxy.pairs other) ((answered proxy node slot chunk race inIbd).pairs other) := by
  refine setPair_runs proxy node other _ ?_
  have marked := PairRuns.single ((proxy.pairs node).setSlot slot
    ((proxy.slot node slot).absorb chunk)) (.mark slot inIbd)
  simp only [pairStep, setSlot_slots_self] at marked
  refine (io_runs out (by simp)).trans ?_
  simpa [ConnPair.setSlot] using marked

theorem breakage_runs {proxy : Proxy n} {node : Fin n} {slot : Fin 2} {event : ConnEvent}
    (out : connOutcome proxy node slot event =
      some (.quiet (proxy.slot node slot).dropFd (some .error))) (other : Fin n) :
    PairRuns (proxy.pairs other) ((breakage proxy node slot).pairs other) :=
  setPair_runs proxy node other _ (io_runs out (by simp [ConnOutcome.quiet]))

theorem ResponseMove.runs {env : Env} {proxy : Proxy n} {node : Fin n} {slot : Fin 2}
    {chunk : Memory} {results : List SendResult} {result : Proxy n}
    (move : ResponseMove env proxy node slot chunk results result) {event : ConnEvent}
    (out : connOutcome proxy node slot event =
      some ⟨(proxy.slot node slot).absorb chunk, some .response, [], chunk⟩) (other : Fin n) :
    PairRuns (proxy.pairs other) (result.pairs other) := by
  have judged := fun race inIbd => answered_runs out race inIbd other
  cases move with
  | counted race inIbd => exact judged race inIbd
  | broadcastWon race inIbd => exact judged race inIbd
  | won race inIbd stuck =>
      refine (judged race inIbd).trans ?_
      have pairs_eq : (sendUpstreamResponseToClient
          (stick (answered proxy node slot chunk race inIbd) node stuck) node slot results).pairs =
            (answered proxy node slot chunk race inIbd).pairs := by
        simp
      rw [← pairs_eq]
      exact setPair_runs _ node other _ (.single _ (.reset slot))
  | ended race inIbd => exact (judged race inIbd).trans (raceComplete_runs _ other)
  | settled race inIbd stuck =>
      refine (judged race inIbd).trans ?_
      have complete := raceComplete_runs
        (sendUpstreamResponseToClient (stick (answered proxy node slot chunk race inIbd) node
          stuck) node slot results) other
      simpa using complete

theorem FailureMove.runs {proxy result : Proxy n} {node : Fin n}
    (move : FailureMove proxy node result) (other : Fin n) :
    PairRuns (proxy.pairs other) (result.pairs other) := by
  cases move with
  | counted => exact .refl _
  | ended => exact raceComplete_runs (lost proxy node) other
  | closed => exact raceComplete_runs (closeClient (lost proxy node) true) other

theorem swapOnError_runs (proxy : Proxy n) (node other : Fin n) :
    PairRuns (proxy.pairs other) ((swapOnError proxy node).pairs other) :=
  setPair_runs { proxy with race := _ } node other _ (.single (proxy.pairs node) .reportError)

theorem ErrorMove.runs {proxy result : Proxy n} {node : Fin n}
    (move : ErrorMove proxy node result) (other : Fin n) :
    PairRuns (proxy.pairs other) (result.pairs other) := by
  cases move with
  | retried retryable =>
      refine (swapOnError_runs proxy node other).trans ?_
      exact setPair_runs (swapOnError proxy node) node other _
        (sendActive_runs _ retryable.2.2
          ((swapOnError_available proxy node).mpr retryable.2.1))
  | twice already result failure => exact FailureMove.runs failure other
  | lost first final result failure =>
      exact (swapOnError_runs proxy node other).trans (FailureMove.runs failure other)

theorem TimeoutMove.runs {proxy result : Proxy n} {fd : Nat}
    (move : TimeoutMove proxy fd result) (other : Fin n) :
    PairRuns (proxy.pairs other) (result.pairs other) := by
  cases move with
  | drained =>
      rw [cancelRpcTimeout_pairs]
      exact resetStuck_runs (proxy.pairs other)
  | ended => exact raceComplete_runs (uncounted (acknowledged proxy fd)) other
  | closed =>
      exact raceComplete_runs (closeClient (uncounted (acknowledged proxy fd)) true) other

theorem Acceptance.runs {env : Env} {proxy result : Proxy n} {method : Memory} {created : Bool}
    (acceptance : Acceptance env proxy method created result)
    (nonempty : proxy.client.recvLen ≠ 0) (other : Fin n) :
    PairRuns (proxy.pairs other) (result.pairs other) := by
  cases acceptance with
  | fanout =>
      simp only [startRpcTimeout_pairs, fanoutPairs]
      split_ifs with available
      · exact sendActive_runs _ nonempty available
      · exact .refl _
  | sticky race begun state pending single node stuck available =>
      simp only [startRpcTimeout_pairs]
      exact setPair_runs proxy node other _ (sendActive_runs _ nonempty available)
  | refused => exact .refl _

/-- Every callback acts on each pair by a run of it. -/
theorem ProxyMove.runs {env : Env} {proxy result : Proxy n} {event : Event n}
    (move : ProxyMove env proxy event result) (other : Fin n) :
    PairRuns (proxy.pairs other) (result.pairs other) := by
  have io : ∀ node slot event outcome, connOutcome proxy node slot event = some outcome →
      outcome.upcall ≠ some .connected →
      PairRuns (proxy.pairs other) ((proxy.setSlot node slot outcome.conn).pairs other) :=
    fun node slot event outcome out silent =>
      setPair_runs proxy node other _ (io_runs out silent)
  cases move with
  | ignored => exact .refl _
  | elapsed => exact .refl _
  | notified => exact .refl _
  | replaced registered =>
      rw [listenerCb_pairs]
      exact .refl _
  | hungUp => exact .refl _
  | stored => exact .refl _
  | dropped => exact .refl _
  | request event chunk method result bytes accepted idle nonempty acceptance =>
      exact Acceptance.runs acceptance nonempty other
  | moved node slot event results outcome out silent =>
      exact io node slot event outcome out (by simp [silent])
  | connected node slot event results outcome out upcall =>
      obtain ⟨interest, -, out⟩ := Option.map_eq_some_iff.mp out
      by_cases same : other = node
      · subst same
        simpa [Proxy.transfer, Proxy.setSlot] using PairRuns.connected out upcall
      · simpa [Proxy.transfer, Proxy.setSlot, same] using PairRuns.refl (proxy.pairs other)
  | lateResponse node slot event results chunk nonempty out =>
      exact (io node slot event _ out (by simp)).trans
        (drainSlot_runs (delivery proxy node slot chunk) node other slot)
  | response node slot event results chunk nonempty out receiving complete active result move =>
      exact ResponseMove.runs move out other
  | lateError node slot event results out =>
      exact (breakage_runs out other).trans (drainSlot_runs _ node other slot)
  | error node slot event results out busy active result move =>
      exact (breakage_runs out other).trans (ErrorMove.runs move other)
  | rotated node result =>
      rw [rotationEvent_pairs]
      exact setPair_runs proxy node other _
        (.single (proxy.pairs node) (.rotate result proxy.nextFd))
  | expired fd results registered result move => exact TimeoutMove.runs move other

/-! ## Descriptors -/

theorem ResponseMove.nextFd_eq {env : Env} {proxy : Proxy n} {node : Fin n} {slot : Fin 2}
    {chunk : Memory} {results : List SendResult} {result : Proxy n}
    (move : ResponseMove env proxy node slot chunk results result) :
    result.nextFd = proxy.nextFd := by
  cases move with
  | counted => rfl
  | broadcastWon => rfl
  | won race inIbd stuck =>
      cases stuck <;> rfl
  | ended => simp
  | settled race inIbd stuck =>
      rw [raceComplete_nextFd, sendUpstreamResponseToClient_nextFd]
      cases stuck <;> rfl

theorem FailureMove.nextFd_eq {proxy result : Proxy n} {node : Fin n}
    (move : FailureMove proxy node result) :
    result.nextFd = proxy.nextFd := by
  cases move with
  | counted => rfl
  | ended => rw [raceComplete_nextFd]; rfl
  | closed => rw [raceComplete_nextFd]; rfl

theorem ErrorMove.nextFd_eq {proxy result : Proxy n} {node : Fin n}
    (move : ErrorMove proxy node result) :
    result.nextFd = proxy.nextFd := by
  cases move with
  | retried => rfl
  | twice already result failure => exact FailureMove.nextFd_eq failure
  | lost first final result failure =>
      have same := FailureMove.nextFd_eq failure
      exact same

theorem TimeoutMove.nextFd_eq {proxy result : Proxy n} {fd : Nat}
    (move : TimeoutMove proxy fd result) :
    result.nextFd = proxy.nextFd := by
  cases move with
  | drained => rw [cancelRpcTimeout_nextFd]; rfl
  | ended => rw [raceComplete_nextFd]; rfl
  | closed => rw [raceComplete_nextFd]; rfl

theorem Acceptance.nextFd_le {env : Env} {proxy result : Proxy n} {method : Memory}
    {created : Bool} (acceptance : Acceptance env proxy method created result) :
    proxy.nextFd ≤ result.nextFd := by
  cases acceptance with
  | fanout =>
      refine le_trans ?_ (startRpcTimeout_nextFd _ env created)
      exact le_rfl
  | sticky =>
      refine le_trans ?_ (startRpcTimeout_nextFd _ env created)
      exact le_rfl
  | refused => exact le_rfl

theorem drainSlot_nextFd (proxy : Proxy n) (node : Fin n) (slot : Fin 2) :
    (drainSlot proxy node slot).nextFd = proxy.nextFd := by
  simp only [drainSlot]
  split_ifs
  · rfl
  · rw [cancelRpcTimeout_nextFd]
    rfl

/-- Descriptor numbers only grow. -/
theorem ProxyMove.nextFd_le {env : Env} {proxy result : Proxy n} {event : Event n}
    (move : ProxyMove env proxy event result) :
    proxy.nextFd ≤ result.nextFd := by
  cases move with
  | replaced registered =>
      simp only [listenerCb]
      split_ifs <;> first | exact le_rfl | exact Nat.le_succ _
  | request event chunk method result bytes accepted idle nonempty acceptance =>
      have grows := Acceptance.nextFd_le acceptance
      exact grows
  | lateResponse =>
      rw [drainSlot_nextFd]
      exact le_rfl
  | response node slot event results chunk nonempty out receiving complete active result move =>
      exact (ResponseMove.nextFd_eq move).ge
  | lateError =>
      rw [drainSlot_nextFd]
      exact le_rfl
  | error node slot event results out busy active result move =>
      have same := ErrorMove.nextFd_eq move
      exact same.ge
  | rotated node result =>
      simp only [rotationEvent]
      split_ifs <;> exact Nat.le_succ _
  | expired fd results registered result move => exact (TimeoutMove.nextFd_eq move).ge
  | _ => exact le_rfl

theorem step_nextFd_le (env : Env) (proxy : Proxy n) (event : Event n)
    (wellFormed : WellFormed proxy) :
    proxy.nextFd ≤ (step env proxy event).nextFd :=
  (step_move env proxy event wellFormed).nextFd_le

/-! ## Every state of a run is well formed -/

theorem Counted.racing {env : Env} {before after : Race n} {conn : UpstreamConn}
    {node : Fin n} (counting : Counted env before conn node false after)
    (racing : Racing before) (more : 1 < before.responsesPending)
    (stays : after.allMustComplete = false → after.winnerIdx = none) :
    Racing after where
  pending := by
    rw [counting.pending_eq]
    omega
  bestNode := (counting.fallback_eq rfl).1.trans racing.bestNode
  unmatched := (counting.fallback_eq rfl).2.trans racing.unmatched
  single := stays
  broadcast := by
    rw [counting.all_eq, Race.methodIs, counting.method_eq]
    exact racing.broadcast
  requestLen := by
    rw [counting.requestLen_eq]
    exact racing.requestLen

theorem ResponseMove.racing {env : Env} {proxy : Proxy n} {node : Fin n} {slot : Fin 2}
    {chunk : Memory} {results : List SendResult} {result : Proxy n}
    (move : ResponseMove env proxy node slot chunk results result)
    (racing : Racing proxy.race) (active : result.race.state ≠ .idle) :
    Racing result.race := by
  cases move with
  | counted race inIbd counting more unsent =>
      refine Counted.racing counting racing more fun (single : race.allMustComplete = false) => ?_
      have unwon := racing.single (counting.all_eq.symm.trans single)
      rcases unsent with error | won
      · rw [answered_race, counting.winner_eq, error, unwon]
        rfl
      · exact absurd unwon won
  | broadcastWon race inIbd counting more all =>
      refine Counted.racing counting racing more fun (single : race.allMustComplete = false) => ?_
      rw [counting.all_eq, all] at single
      contradiction
  | won => exact absurd rfl active
  | ended => simp [Race.complete] at active
  | settled => simp [Race.complete] at active

theorem FailureMove.racing {proxy result : Proxy n} {node : Fin n}
    (move : FailureMove proxy node result) (racing : Racing proxy.race)
    (active : result.race.state ≠ .idle) :
    Racing result.race := by
  cases move with
  | counted more =>
      exact ⟨by simp [lost, Race.countDown]; omega, racing.bestNode, racing.unmatched,
        racing.single, racing.broadcast, racing.requestLen⟩
  | ended => simp [Race.complete] at active
  | closed => simp [Race.complete] at active

theorem swapOnError_racing {proxy : Proxy n} (racing : Racing proxy.race) (node : Fin n) :
    Racing (swapOnError proxy node).race :=
  ⟨racing.pending, racing.bestNode, racing.unmatched, racing.single, racing.broadcast,
    racing.requestLen⟩

theorem ErrorMove.racing {proxy result : Proxy n} {node : Fin n}
    (move : ErrorMove proxy node result) (racing : Racing proxy.race)
    (active : result.race.state ≠ .idle) :
    Racing result.race := by
  cases move with
  | retried => exact swapOnError_racing racing node
  | twice already result failure => exact FailureMove.racing failure racing active
  | lost first final result failure =>
      exact FailureMove.racing failure (swapOnError_racing racing node) active

theorem Acceptance.racing {env : Env} {proxy result : Proxy n} {method : Memory}
    {created : Bool} (acceptance : Acceptance env proxy method created result)
    (nonempty : proxy.client.recvLen ≠ 0) (active : result.race.state ≠ .idle) :
    Racing result.race := by
  have opened : ∀ race : Race n, Begun proxy.race method proxy.client.recvLen race →
      1 ≤ race.responsesPending → Racing race := by
    intro race begun pending
    refine ⟨pending, begun.bestNode_eq, begun.matched_eq, fun _ => begun.winner_eq,
      fun all => methodIs_gbt_of_isBroadcast ?_, ?_⟩
    · rw [begun.method_eq, ← begun.all_eq]
      exact all
    rw [begun.requestLen_eq]
    exact nonempty
  cases acceptance with
  | fanout race begun state pending reachable =>
      rw [startRpcTimeout_race]
      refine opened race begun ?_
      have := List.length_pos_iff.mpr reachable
      omega
  | sticky race begun state pending =>
      rw [startRpcTimeout_race]
      exact opened race begun (by omega)
  | refused race begun state => exact absurd state active

theorem drainSlot_race (proxy : Proxy n) (node : Fin n) (slot : Fin 2) :
    (drainSlot proxy node slot).race = proxy.race := by
  unfold drainSlot
  dsimp only
  split_ifs <;> simp

theorem ProxyMove.racing {env : Env} {proxy result : Proxy n} {event : Event n}
    (move : ProxyMove env proxy event result)
    (racing : proxy.race.state ≠ .idle → Racing proxy.race)
    (active : result.race.state ≠ .idle) :
    Racing result.race := by
  cases move with
  | notified =>
      have before := racing active
      exact ⟨before.pending, before.bestNode, before.unmatched, before.single,
        before.broadcast, before.requestLen⟩
  | replaced registered =>
      rw [listenerCb_race] at active ⊢
      exact racing active
  | request event chunk method result bytes accepted idle nonempty acceptance =>
      rw [clearRequest_race] at active ⊢
      exact Acceptance.racing acceptance nonempty active
  | lateResponse =>
      rw [drainSlot_race] at active ⊢
      exact racing active
  | response node slot event results chunk nonempty out receiving complete wasActive result
      move =>
      exact ResponseMove.racing move (racing wasActive) active
  | lateError =>
      rw [drainSlot_race] at active ⊢
      exact racing active
  | error node slot event results out busy wasActive result move =>
      exact ErrorMove.racing move (racing wasActive) active
  | rotated node result =>
      rw [rotationEvent_race] at active ⊢
      exact racing active
  | expired fd results registered result move =>
      cases move with
      | drained idle =>
          rw [cancelRpcTimeout_race] at active
          exact absurd idle active
      | ended => simp [Race.complete] at active
      | closed => simp [Race.complete] at active
  | _ => exact racing active

/-- Every callback keeps the proxy well formed. -/
theorem step_wellFormed (env : Env) (proxy : Proxy n) (event : Event n)
    (wellFormed : WellFormed proxy) :
    WellFormed (step env proxy event) where
  standby node :=
    PairOps.preserve (fun _ _ operation => operation.standbyQuiet)
      ((step_move env proxy event wellFormed).runs node).ops (wellFormed.standby node)
  racing := (step_move env proxy event wellFormed).racing wellFormed.racing

theorem rpcProxyCreate_wellFormed (boot : Boot n) : WellFormed (rpcProxyCreate boot) where
  standby node := connPairInit_standbyQuiet (boot.pair node) _
  racing active := absurd rfl active

/-- Every state that a run reaches is well formed. -/
theorem run_wellFormed (env : Env) (boot : Boot n) (events : List (Event n)) :
    WellFormed (run (step env) (rpcProxyCreate boot) events) :=
  run_invariant (step_wellFormed env) (rpcProxyCreate_wellFormed boot) events

/-- Each pair makes a run of its own, from `conn_pair_init` on. -/
theorem run_pairRuns (env : Env) (boot : Boot n) (events : List (Event n)) (node : Fin n) :
    PairRuns ((rpcProxyCreate boot).pairs node)
      ((run (step env) (rpcProxyCreate boot) events).pairs node) := by
  have keep : ∀ (proxy : Proxy n) event,
      WellFormed proxy ∧ PairRuns ((rpcProxyCreate boot).pairs node) (proxy.pairs node) →
      WellFormed (step env proxy event) ∧
        PairRuns ((rpcProxyCreate boot).pairs node) ((step env proxy event).pairs node) := by
    rintro proxy event ⟨wellFormed, runs⟩
    exact ⟨step_wellFormed env proxy event wellFormed,
      runs.trans ((step_move env proxy event wellFormed).runs node)⟩
  exact (run_invariant keep ⟨rpcProxyCreate_wellFormed boot, .refl _⟩ events).2

/-- A callback keeps what every operation on a connection keeps. -/
theorem step_connInvariant {property : UpstreamConn → Prop} (invariant : ConnInvariant property)
    (env : Env) (proxy : Proxy n) (event : Event n) (wellFormed : WellFormed proxy)
    (all : ∀ node slot, property (proxy.slot node slot)) (node : Fin n) :
    ∀ slot, property ((step env proxy event).slot node slot) :=
  PairOps.preserve (fun _ _ operation => invariant.slots operation)
    ((step_move env proxy event wellFormed).runs node).ops (all node)

/-- So does a run, from new connections on. -/
theorem run_connInvariant {property : UpstreamConn → Prop} (invariant : ConnInvariant property)
    (fresh : ∀ recvBuf callback, property (rpcConnInit recvBuf callback))
    (env : Env) (boot : Boot n) (events : List (Event n)) (node : Fin n) :
    ∀ slot, property ((run (step env) (rpcProxyCreate boot) events).slot node slot) := by
  apply PairOps.preserve (fun _ _ operation => invariant.slots operation)
    (run_pairRuns env boot events node).ops
  apply connPairInit_slots property
  intro slot callback
  exact invariant.connect _ _ _ (fresh _ callback)

end RpcRace.ProxyMoves
