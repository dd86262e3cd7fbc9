import RpcRace.ConnectionPair
import RpcRace.JsonResponse

/-!
# The RPC proxy

The model of `rpc_proxy.c` with everything it drives: the client connection,
the connection pairs of `n` nodes, the race between them and the timeout
timer.  `step` runs one callback of the event loop to its end.  An event
carries the kernel's answers to the system calls its handler may make, so a
list of events is one interleaving of client requests, upstream traffic,
rotations, block notifies and timer expiries.

`trace` records, newest first, what each handler does to the outside world
and which handlers ran.  It is written by the handlers and read by none of
them: the properties of later modules are stated over it.

Descriptors are named in the order of their creation, and an event reaches only
a descriptor that is registered when it is delivered.  The kernel reuses the
number of a descriptor that was closed, and `event_loop_run` goes through a
batch of events that was collected before: an event meant for the closed
descriptor then reaches the new one.  Here it is an event of the new descriptor
that the new descriptor has not caused.  For a connection this is an event with
some answers of the kernel like any other; for a timer it is a call of
`rpc_timeout_cb` before the deadline.  So `step` delivers an event to every
timer that is registered, whether it has expired or not.

Log messages and statistics are left out, and with them the timestamps that
only they read.
-/

namespace RpcRace.RpcProxy

open RpcRace.Library.CString
open RpcRace.RpcConn
open RpcRace.ConnectionPair
open RpcRace.JsonResponse

/-! ## State -/

/-- `race_state_t`. -/
inductive RaceState where
  | idle
  | fanout
  | sticky
deriving DecidableEq, Repr

/--
The race fields of `struct rpc_proxy`.  Node indices that the source sets to
`-1` are `none` here.
-/
structure Race (n : Nat) where
  state : RaceState
  stickyNodeIdx : Option (Fin n)
  lastBlockHeight : Int
  notifyPending : Bool
  responsesPending : Int
  winnerIdx : Option (Fin n)
  lastErrorIdx : Option (Fin n)
  allMustComplete : Bool
  bestGbtHeight : Int
  bestGbtNodeIdx : Option (Fin n)
  gbtHeightMatched : Bool
  method : Memory
  nodeRetried : Fin n → Bool
  requestLen : Nat

/-- The client fields of `struct rpc_proxy`. -/
structure Client where
  fd : Option Nat
  recvBuf : Memory
  recvLen : Nat
  connected : Bool

/-- The client connection that a write or a close reaches. -/
def Client.target (client : Client) : Option Nat :=
  if client.connected then client.fd else none

/-- An open timerfd that is registered with `rpc_timeout_cb`. -/
structure Timer where
  fd : Nat
  deadline : Nat
  armed : Bool
deriving DecidableEq, Repr

/-- What a handler does to the outside world, and the calls between modules. -/
inductive Effect (n : Nat) where
  /-- `listener_cb` registered a client connection. -/
  | clientAccepted (client : Nat)
  /-- `close_client` was called; `byRace` unless the client or its socket was the reason. -/
  | closeClient (client : Option Nat) (byRace : Bool)
  /-- `client_cb` passes a request to dispatch. -/
  | requestAccepted (client : Option Nat) (request method : Memory) (time : Nat)
  /-- `rpc_conn_send` returned zero. -/
  | started (node : Fin n) (slot : Fin 2) (len : Nat)
  /-- `dispatch_sticky` sent the request to this node alone. -/
  | stickySent (node : Fin n)
  /-- `conn_epoll_cb` moved these bytes with `send` and `recv`. -/
  | transferred (node : Fin n) (slot : Fin 2) (written received : Memory)
  /-- `refresh_standby` gave the slot a new connection, if `connect` did not fail. -/
  | refreshed (node : Fin n) (slot : Fin 2) (result : ConnectResult)
  /-- `on_connected` was called from the event loop. -/
  | established (node : Fin n) (slot : Fin 2)
  /-- `on_response` was called with this connection. -/
  | delivered (node : Fin n) (slot : Fin 2) (conn : UpstreamConn)
  /-- `on_error` was called. -/
  | failed (node : Fin n) (slot : Fin 2)
  /-- `on_upstream_error` counted the node as failed. -/
  | gaveUp (node : Fin n)
  /-- `send_upstream_response_to_client` was called and wrote so many bytes. -/
  | forwarded (node : Fin n) (slot : Fin 2) (conn : UpstreamConn)
      (client : Option Nat) (written : Nat)
  /-- A `getblocktemplate` fan-out race made this node sticky. -/
  | stickySet (node : Fin n)
  /-- `rpc_proxy_on_block_notify`. -/
  | blockNotify
  /-- `race_complete` was called. -/
  | raceCompleted
  /-- `start_rpc_timeout` registered a timer. -/
  | timerStarted (fd : Nat)
  /-- `cancel_rpc_timeout` closed a timer. -/
  | timerClosed (fd : Nat)
  /-- `rpc_timeout_cb` ran for this timer. -/
  | timerExpired (fd : Nat) (time : Nat)

/-- `struct rpc_proxy`, the kernel's clock and timers, and the trace. -/
structure Proxy (n : Nat) where
  race : Race n
  client : Client
  pairs : Fin n → ConnPair
  rpcTimeoutTimerFd : Option Nat
  timers : List Timer
  nextFd : Nat
  now : Nat
  trace : List (Effect n)

/-- The configuration and the JSON parser the proxy is linked with. -/
structure Env where
  rpcTimeoutMs : Nat
  yyjsonRead : JsonReader

variable {n : Nat}

/-- One of the two connections of a node. -/
def Proxy.slot (proxy : Proxy n) (node : Fin n) (slot : Fin 2) : UpstreamConn :=
  (proxy.pairs node).slots slot

/-- The active connection of a node. -/
def Proxy.active (proxy : Proxy n) (node : Fin n) : UpstreamConn :=
  connPairGetActive (proxy.pairs node)

/-- Replace the pair of one node. -/
@[simps]
def Proxy.setPair (proxy : Proxy n) (node : Fin n) (pair : ConnPair) : Proxy n :=
  { proxy with pairs := Function.update proxy.pairs node pair }

/-- Replace one connection. -/
def Proxy.setSlot (proxy : Proxy n) (node : Fin n) (slot : Fin 2)
    (conn : UpstreamConn) : Proxy n :=
  proxy.setPair node ((proxy.pairs node).setSlot slot conn)

/-- Record one effect. -/
@[simps]
def Proxy.emit (proxy : Proxy n) (effect : Effect n) : Proxy n :=
  { proxy with trace := effect :: proxy.trace }

/-! ## Method routing -/

/-- `METHOD_GBT`. -/
def methodGbt : Memory := ascii "getblocktemplate"

/-- `METHOD_SUBMITBLOCK`. -/
def methodSubmitblock : Memory := ascii "submitblock"

/-- `METHOD_SENDRAWTX`. -/
def methodSendrawtx : Memory := ascii "sendrawtransaction"

/-- `METHOD_PRECIOUSBLOCK`. -/
def methodPreciousblock : Memory := ascii "preciousblock"

/-- `strcmp(proxy->method, name) == 0`. -/
def Race.methodIs (race : Race n) (name : Memory) : Bool :=
  cString race.method = name

/-- `route_strategy_t`. -/
inductive Route where
  | race
  | broadcast
  | sticky
deriving DecidableEq, Repr

/--
`classify_method`, with the race fields it leaves.  `validateaddress`,
`decoderawtransaction` and unknown methods all take the last branch.
-/
def classifyMethod (race : Race n) : Route × Race n :=
  if race.methodIs methodGbt then
    if race.notifyPending ∨ race.stickyNodeIdx = none then
      (.race, { race with notifyPending := false })
    else (.sticky, race)
  else if race.methodIs methodSubmitblock then (.broadcast, race)
  else if race.methodIs methodSendrawtx then (.broadcast, race)
  else if race.methodIs methodPreciousblock then (.sticky, race)
  else (.race, race)

/-! ## The client connection -/

/-- The fields `close_client` leaves. -/
def Client.close (client : Client) : Client :=
  if client.connected then { client with fd := none, connected := false, recvLen := 0 }
  else client

/-- `close_client`. -/
@[simps]
def closeClient (proxy : Proxy n) (byRace : Bool) : Proxy n :=
  { proxy with
    client := proxy.client.close
    trace := .closeClient proxy.client.target byRace :: proxy.trace }

/-- The kernel's answers in `listener_cb`: to `accept4` and to the registration. -/
inductive AcceptResult where
  | failed
  | accepted (registered : Bool)
deriving DecidableEq, Repr

/-- `listener_cb`. -/
def listenerCb (proxy : Proxy n) (result : AcceptResult) : Proxy n :=
  match result with
  | .failed => proxy
  | .accepted registered =>
      let dropped := if proxy.client.connected then closeClient proxy false else proxy
      if registered then
        { dropped with
          client := { dropped.client with
            fd := some proxy.nextFd, connected := true, recvLen := 0 }
          nextFd := proxy.nextFd + 1
          trace := .clientAccepted proxy.nextFd :: dropped.trace }
      else dropped

/-- `parse_http_request`. -/
def parseHttpRequest (client : Client) : Bool :=
  match findHeaderEnd (client.recvBuf.take client.recvLen) with
  | none => false
  | some headerEnd =>
      (headerEnd + contentLengthField client.recvBuf headerEnd) % sizeModulus ≤ client.recvLen

/-- Store a received chunk in `client_recv_buf`. -/
def Client.store (client : Client) (chunk : Memory) : Client :=
  { client with
    recvBuf := writeAt client.recvBuf client.recvLen chunk
    recvLen := client.recvLen + chunk.length }

/-- The loop of `send_upstream_response_to_client`: how many bytes are written. -/
def clientSendLoop (total : Nat) (sent : Nat) : List SendResult → Nat
  | [] => sent
  | result :: rest =>
      if sent < total then
        match result with
        | .accepted count => clientSendLoop total (sent + min count (total - sent)) rest
        | _ => sent
      else sent

/--
How many bytes of a response reach the client.  `results` answers the
successive `send` calls; a socket that has no more answers would block.
-/
def clientBytesWritten (client : Client) (conn : UpstreamConn) (results : List SendResult) : Nat :=
  if client.connected then
    if conn.expected = 0 ∨ conn.recvLen < conn.expected then 0
    else clientSendLoop conn.expected 0 results
  else 0

/-- `send_upstream_response_to_client` for the connection in `slot` of `node`. -/
def sendUpstreamResponseToClient (proxy : Proxy n) (node : Fin n) (slot : Fin 2)
    (results : List SendResult) : Proxy n :=
  proxy.emit
    (.forwarded node slot (proxy.slot node slot) proxy.client.target
      (clientBytesWritten proxy.client (proxy.slot node slot) results))

/-! ## The timeout timer -/

/-- `start_rpc_timeout`; `created` says that its system calls succeed. -/
def startRpcTimeout (env : Env) (proxy : Proxy n) (created : Bool) : Proxy n :=
  if env.rpcTimeoutMs = 0 ∨ created = false then proxy
  else
    { proxy with
      rpcTimeoutTimerFd := some proxy.nextFd
      timers := ⟨proxy.nextFd, proxy.now + env.rpcTimeoutMs, true⟩ :: proxy.timers
      nextFd := proxy.nextFd + 1
      trace := .timerStarted proxy.nextFd :: proxy.trace }

/-- `cancel_rpc_timeout`. -/
def cancelRpcTimeout (proxy : Proxy n) : Proxy n :=
  match proxy.rpcTimeoutTimerFd with
  | none => proxy
  | some fd =>
      { proxy with
        rpcTimeoutTimerFd := none
        timers := proxy.timers.filter fun timer => timer.fd ≠ fd
        trace := .timerClosed fd :: proxy.trace }

/-! ## Dispatch -/

/--
`rpc_conn_send` of the first `len` bytes of the client buffer on the active
connection of a node; `none` is the result `-1`.
-/
def sendOnActive (proxy : Proxy n) (node : Fin n) (len : Nat) : Option (Proxy n) :=
  (rpcConnSend (proxy.active node) len).map fun conn =>
    (proxy.setSlot node (proxy.pairs node).activeIdx conn).emit
      (.started node (proxy.pairs node).activeIdx len)

/-- One iteration of the loop of `dispatch_fanout`. -/
def fanoutStep (dispatched : Proxy n × Nat) (node : Fin n) : Proxy n × Nat :=
  if connPairIsAvailable (dispatched.1.pairs node) then
    match sendOnActive dispatched.1 node dispatched.1.client.recvLen with
    | some sent => (sent, dispatched.2 + 1)
    | none => dispatched
  else dispatched

/-- The fields both dispatch functions reset first. -/
def prepareDispatch (proxy : Proxy n) : Proxy n :=
  { proxy with
    race := { proxy.race with
      nodeRetried := fun _ => false
      requestLen := proxy.client.recvLen } }

/-- `dispatch_fanout`, with the number of nodes it sent to. -/
def dispatchFanout (proxy : Proxy n) : Proxy n × Nat :=
  let dispatched := (List.finRange n).foldl fanoutStep (prepareDispatch proxy, 0)
  ({ dispatched.1 with
      race := { dispatched.1.race with responsesPending := dispatched.2 } },
    dispatched.2)

/--
A fan-out dispatch whose failure closes the client.  The Boolean says that
the request was sent to some node.
-/
def fanoutOrClose (proxy : Proxy n) : Proxy n × Bool :=
  let dispatched := dispatchFanout proxy
  if dispatched.2 = 0 then (closeClient dispatched.1 true, false)
  else (dispatched.1, true)

/-- The fall back of a sticky `getblocktemplate` to a fan-out race. -/
def fallBackToFanout (proxy : Proxy n) : Proxy n × Bool :=
  fanoutOrClose
    { proxy with
      race := { proxy.race with
        state := .fanout
        allMustComplete := false
        bestGbtHeight := -1
        bestGbtNodeIdx := none
        gbtHeightMatched := false } }

/-- The three failures of `dispatch_sticky`: close for `preciousblock`, else fan out. -/
def stickyUnavailable (proxy : Proxy n) : Proxy n × Bool :=
  if proxy.race.methodIs methodPreciousblock then (closeClient proxy true, false)
  else fallBackToFanout proxy

/-- `dispatch_sticky`; the Boolean is false for the result `-1`. -/
def dispatchSticky (proxy : Proxy n) : Proxy n × Bool :=
  let prepared := prepareDispatch proxy
  match prepared.race.stickyNodeIdx with
  | none => stickyUnavailable prepared
  | some node =>
      if connPairIsAvailable (prepared.pairs node) then
        match sendOnActive prepared node prepared.client.recvLen with
        | none => stickyUnavailable prepared
        | some sent =>
            (({ sent with race := { sent.race with responsesPending := 1 } }).emit
              (.stickySent node), true)
      else stickyUnavailable prepared

/-- The race fields that `client_cb` sets before every dispatch. -/
def Race.begin (race : Race n) (state : RaceState) (allMustComplete : Bool) : Race n :=
  { race with
    state := state
    allMustComplete := allMustComplete
    winnerIdx := none
    lastErrorIdx := none
    bestGbtHeight := -1
    bestGbtNodeIdx := none
    gbtHeightMatched := false }

/-- The dispatch of `client_cb` by routing strategy. -/
def dispatchRoute (proxy : Proxy n) (route : Route) : Proxy n × Bool :=
  match route with
  | .race => fanoutOrClose { proxy with race := proxy.race.begin .fanout false }
  | .broadcast => fanoutOrClose { proxy with race := proxy.race.begin .fanout true }
  | .sticky => dispatchSticky { proxy with race := proxy.race.begin .sticky false }

/-- `client_cb` from the classification of an accepted request on. -/
def acceptRequest (env : Env) (proxy : Proxy n) (method : Memory) (timerCreated : Bool) :
    Proxy n :=
  let classified := classifyMethod { proxy.race with method := method }
  let accepted :=
    ({ proxy with race := classified.2 } : Proxy n).emit
      (.requestAccepted proxy.client.target
        (proxy.client.recvBuf.take proxy.client.recvLen) method proxy.now)
  let dispatched := dispatchRoute accepted classified.1
  if dispatched.2 then startRpcTimeout env dispatched.1 timerCreated
  else { dispatched.1 with race := { dispatched.1.race with state := .idle } }

/-- `client_recv_len = 0`. -/
@[simps race pairs rpcTimeoutTimerFd timers nextFd now trace]
def clearRequest (proxy : Proxy n) : Proxy n :=
  { proxy with client := { proxy.client with recvLen := 0 } }

/-- `client_cb` after new bytes were stored. -/
def onClientData (env : Env) (proxy : Proxy n) (timerCreated : Bool) : Proxy n :=
  if parseHttpRequest proxy.client then
    if proxy.race.state ≠ .idle then clearRequest proxy
    else
      match extractJsonRpcMethod env.yyjsonRead
          (proxy.client.recvBuf.take proxy.client.recvLen) with
      | none => clearRequest proxy
      | some method => clearRequest (acceptRequest env proxy method timerCreated)
  else proxy

/-- One epoll event on the client descriptor. -/
structure ClientEvent where
  errHup : Bool
  epollIn : Bool
  recvResult : RecvResult
  timerCreated : Bool

/-- `client_cb`. -/
def clientCb (env : Env) (proxy : Proxy n) (event : ClientEvent) : Proxy n :=
  if event.errHup then closeClient proxy false
  else if event.epollIn = false then proxy
  else if socketBufSize - proxy.client.recvLen = 0 then closeClient proxy false
  else
    match event.recvResult with
    | .again => proxy
    | .failed => closeClient proxy false
    | .data bytes =>
        let chunk := bytes.take (socketBufSize - proxy.client.recvLen)
        if chunk = [] then closeClient proxy false
        else onClientData env { proxy with client := proxy.client.store chunk } event.timerCreated

/-! ## Race completion -/

/-- The loop body of `race_complete` that resets a participating pair. -/
def resetParticipant (pair : ConnPair) : ConnPair :=
  let active := connPairGetActive pair
  if active.sendBuf ∨ active.inFlight then pair.setSlot pair.activeIdx (rpcConnReset active)
  else pair

/-- The race fields `race_complete` leaves. -/
def Race.complete (race : Race n) : Race n :=
  { race with
    state := .idle
    responsesPending := 0
    winnerIdx := none
    lastErrorIdx := none
    bestGbtHeight := -1
    bestGbtNodeIdx := none
    gbtHeightMatched := false }

/-- `race_complete`. -/
def raceComplete (proxy : Proxy n) : Proxy n :=
  let cancelled := cancelRpcTimeout proxy
  { cancelled with
    pairs := fun node => connPairTick (resetParticipant (cancelled.pairs node))
    race := cancelled.race.complete
    trace := .raceCompleted :: cancelled.trace }

/-! ## Upstream responses -/

/-- Some active connection still has a request in flight. -/
def stillDraining (proxy : Proxy n) : Bool :=
  (List.finRange n).any fun node => (proxy.active node).inFlight

/-- The late-response and late-error branch: reset one connection while idle. -/
def drainSlot (proxy : Proxy n) (node : Fin n) (slot : Fin 2) : Proxy n :=
  let drained := proxy.setSlot node slot (rpcConnReset (proxy.slot node slot))
  if stillDraining drained then drained else cancelRpcTimeout drained

/-- `is_gbt_race`. -/
def Race.isGbtRace (race : Race n) : Bool :=
  race.methodIs methodGbt && race.state = .fanout

/-- Verdict on one response: the race and IBD flag it leaves, and what to do. -/
structure Judgement (n : Nat) where
  race : Race n
  inIbd : Bool
  sticky : Bool
  forward : Bool

/-- The race that `node` has won with this height. -/
def Race.wonAt (race : Race n) (node : Fin n) (height : Int) : Race n :=
  { race with
    winnerIdx := some node
    stickyNodeIdx := some node
    lastBlockHeight := if height > race.lastBlockHeight then height else race.lastBlockHeight }

/-- The error branch of `on_upstream_response`. -/
def judgeError (env : Env) (race : Race n) (conn : UpstreamConn) (node : Fin n) :
    Judgement n where
  race := { race with lastErrorIdx := some node }
  inIbd := conn.inIbd || (race.isGbtRace && parseRpcErrorCode env.yyjsonRead conn = -10)
  sticky := false
  forward := false

/-- `best_gbt_height` and `best_gbt_node_idx` after a response without a match. -/
def Race.trackBest (race : Race n) (node : Fin n) (height : Int) : Race n :=
  if height ≥ race.bestGbtHeight then
    { race with bestGbtHeight := height, bestGbtNodeIdx := some node }
  else race

/-- The GBT height validation branch of `on_upstream_response`. -/
def judgeGbt (race : Race n) (node : Fin n) (height : Int) : Judgement n :=
  if race.gbtHeightMatched = false ∧ height = race.lastBlockHeight + 1 then
    ⟨{ race.wonAt node height with gbtHeightMatched := true }, false, true, true⟩
  else if race.gbtHeightMatched = false then
    let tracked := race.trackBest node height
    if tracked.winnerIdx = none then ⟨tracked.wonAt node height, false, true, true⟩
    else ⟨tracked, false, false, false⟩
  else ⟨race, false, false, false⟩

/-- The generic branch of `on_upstream_response`. -/
def judgeGeneric (race : Race n) (conn : UpstreamConn) (node : Fin n) : Judgement n :=
  if race.winnerIdx = none then
    ⟨{ race with winnerIdx := some node }, conn.inIbd, false, true⟩
  else ⟨race, conn.inIbd, false, false⟩

/-- `on_upstream_response` between the pending count and the end of the race. -/
def judgeResponse (env : Env) (race : Race n) (conn : UpstreamConn) (node : Fin n) :
    Judgement n :=
  if responseIsError env.yyjsonRead conn then judgeError env race conn node
  else if race.isGbtRace then judgeGbt race node (parseGbtHeight env.yyjsonRead conn)
  else judgeGeneric race conn node

/-- Carry a judgement out: mark the slot, then the sticky node, then the client. -/
def applyJudgement (proxy : Proxy n) (node : Fin n) (slot : Fin 2)
    (judgement : Judgement n) (results : List SendResult) : Proxy n :=
  let marked :=
    ({ proxy with race := judgement.race } : Proxy n).setSlot node slot
      { proxy.slot node slot with inIbd := judgement.inIbd }
  let stuck := if judgement.sticky then marked.emit (.stickySet node) else marked
  if judgement.forward then sendUpstreamResponseToClient stuck node slot results else stuck

/-- The height fallback: the best node wins and its response is forwarded. -/
def crownBest (proxy : Proxy n) (best : Fin n) (results : List SendResult) : Proxy n :=
  let won : Proxy n :=
    { proxy with race := proxy.race.wonAt best proxy.race.bestGbtHeight }
  sendUpstreamResponseToClient (won.emit (.stickySet best)) best
    (proxy.pairs best).activeIdx results

/-- `on_upstream_response` when all responses are in and there is no winner. -/
def settleWithoutWinner (proxy : Proxy n) (isGbtRace : Bool) (results : List SendResult) :
    Proxy n :=
  match isGbtRace, proxy.race.bestGbtNodeIdx with
  | true, some best =>
      if (proxy.active best).recvLen > 0 then crownBest proxy best results else proxy
  | _, _ =>
      match proxy.race.lastErrorIdx with
      | none => proxy
      | some failed =>
          if (proxy.active failed).recvLen > 0 then
            sendUpstreamResponseToClient proxy failed (proxy.pairs failed).activeIdx results
          else proxy

/-- `rpc_conn_reset` of a connection that has a request in flight. -/
def resetInFlight (proxy : Proxy n) (node : Fin n) (slot : Fin 2) : Proxy n :=
  if (proxy.slot node slot).inFlight then
    proxy.setSlot node slot (rpcConnReset (proxy.slot node slot))
  else proxy

/-- The early transition to idle after a non-broadcast winner was sent. -/
def earlyIdle (proxy : Proxy n) (winner node : Fin n) (slot : Fin 2) : Proxy n :=
  let idle : Proxy n := { proxy with race := { proxy.race with state := .idle } }
  let winnerSlot := (proxy.pairs winner).activeIdx
  let reset := resetInFlight idle winner winnerSlot
  if node ≠ winner ∨ slot ≠ winnerSlot then resetInFlight reset node slot else reset

/-- The last part of `on_upstream_response`: is the race over? -/
def finishResponse (proxy : Proxy n) (node : Fin n) (slot : Fin 2) (isGbtRace : Bool)
    (results : List SendResult) : Proxy n :=
  if proxy.race.responsesPending ≤ 0 then
    if proxy.race.winnerIdx = none then
      raceComplete (settleWithoutWinner proxy isGbtRace results)
    else raceComplete proxy
  else
    match proxy.race.allMustComplete, proxy.race.winnerIdx with
    | false, some winner => earlyIdle proxy winner node slot
    | _, _ => proxy

/-- `responses_pending--`. -/
def Race.countDown (race : Race n) : Race n :=
  { race with responsesPending := race.responsesPending - 1 }

/-- `on_upstream_response`. -/
def onUpstreamResponse (env : Env) (proxy : Proxy n) (node : Fin n) (slot : Fin 2)
    (results : List SendResult) : Proxy n :=
  let conn := proxy.slot node slot
  if proxy.race.state = .idle ∧ conn.state = .receiving then drainSlot proxy node slot
  else
    let judgement := judgeResponse env proxy.race.countDown conn node
    finishResponse (applyJudgement proxy node slot judgement results) node slot
      proxy.race.isGbtRace results

/-! ## Upstream errors -/

/-- `on_upstream_error` from the point where the node counts as failed. -/
def nodeFailed (proxy : Proxy n) (node : Fin n) : Proxy n :=
  let counted : Proxy n :=
    ({ proxy with
      race := { proxy.race.countDown with lastErrorIdx := some node } } : Proxy n).emit
      (.gaveUp node)
  if counted.race.responsesPending ≤ 0 then
    if counted.race.winnerIdx = none then raceComplete (closeClient counted true)
    else raceComplete counted
  else counted

/-- `conn_pair_report_error` and `node_retried = true`, set in both branches after it. -/
def swapOnError (proxy : Proxy n) (node : Fin n) : Proxy n :=
  ({ proxy with
    race := { proxy.race with
      nodeRetried := Function.update proxy.race.nodeRetried node true } } : Proxy n).setPair
    node (connPairReportError (proxy.pairs node))

/-- `on_upstream_error`. -/
def onUpstreamError (proxy : Proxy n) (node : Fin n) (slot : Fin 2) : Proxy n :=
  if proxy.race.state = .idle then drainSlot proxy node slot
  else if proxy.race.nodeRetried node then nodeFailed proxy node
  else
    let swapped := swapOnError proxy node
    if connPairIsAvailable (swapped.pairs node) then
      match sendOnActive swapped node swapped.race.requestLen with
      | some retried => retried
      | none => nodeFailed swapped node
    else nodeFailed swapped node

/-! ## Timeout and block notify -/

/-- `read` on the timerfd: a one-shot timer that has expired does not expire again. -/
def acknowledgeTimer (timers : List Timer) (fd now : Nat) : List Timer :=
  timers.map fun timer =>
    if timer.fd = fd ∧ timer.deadline ≤ now then { timer with armed := false } else timer

/-- The drain safety net of `rpc_timeout_cb`, for one pair. -/
def resetStuck (pair : ConnPair) : ConnPair :=
  if (connPairGetActive pair).inFlight then
    pair.setSlot pair.activeIdx (rpcConnReset (connPairGetActive pair))
  else pair

/-- `rpc_timeout_cb` for a race without a winner. -/
def timeoutWithoutWinner (proxy : Proxy n) (results : List SendResult) : Proxy n :=
  match proxy.race.isGbtRace, proxy.race.bestGbtNodeIdx with
  | true, some best =>
      if (proxy.active best).state = .connected ∨ (proxy.active best).state = .receiving then
        crownBest proxy best results
      else closeClient proxy true
  | _, _ => closeClient proxy true

/-- `rpc_timeout_cb`. -/
def rpcTimeoutCb (proxy : Proxy n) (fd : Nat) (results : List SendResult) : Proxy n :=
  let acknowledged : Proxy n :=
    ({ proxy with timers := acknowledgeTimer proxy.timers fd proxy.now } : Proxy n).emit
      (.timerExpired fd proxy.now)
  if acknowledged.race.state = .idle then
    cancelRpcTimeout
      { acknowledged with pairs := fun node => resetStuck (acknowledged.pairs node) }
  else
    let counted : Proxy n :=
      { acknowledged with race := { acknowledged.race with responsesPending := 0 } }
    if counted.race.winnerIdx = none then raceComplete (timeoutWithoutWinner counted results)
    else raceComplete counted

/-- `rpc_proxy_on_block_notify`. -/
def rpcProxyOnBlockNotify (proxy : Proxy n) : Proxy n :=
  ({ proxy with
    race := { proxy.race with stickyNodeIdx := none, notifyPending := true } } : Proxy n).emit
    .blockNotify

/-! ## The event loop's view -/

/-- One callback of the event loop. -/
inductive Event (n : Nat) where
  | accept (result : AcceptResult)
  | client (event : ClientEvent)
  | conn (node : Fin n) (slot : Fin 2) (event : ConnEvent) (results : List SendResult)
  | rotation (node : Fin n) (result : ConnectResult)
  | timeout (fd : Nat) (results : List SendResult)
  | blockNotify
  | elapse (duration : Nat)

/-- Epoll reports input and output only when they are watched for. -/
def ConnEvent.restrict (event : ConnEvent) (interest : Interest) : ConnEvent :=
  { event with
    epollIn := event.epollIn && interest.epollIn
    epollOut := event.epollOut && interest.epollOut }

/-- What `conn_epoll_cb` does for an event on a registered upstream descriptor. -/
def connOutcome (proxy : Proxy n) (node : Fin n) (slot : Fin 2) (event : ConnEvent) :
    Option ConnOutcome :=
  (proxy.slot node slot).interest.map fun interest =>
    connEpollCb proxy.client.recvBuf (proxy.slot node slot) (ConnEvent.restrict event interest)

/-- The state in which a callback of `conn_epoll_cb` is called. -/
def Proxy.transfer (proxy : Proxy n) (node : Fin n) (slot : Fin 2)
    (outcome : ConnOutcome) : Proxy n :=
  (proxy.setSlot node slot outcome.conn).emit
    (.transferred node slot outcome.written outcome.received)

/-- Run the callback an upstream event ends with. -/
def runUpcall (env : Env) (proxy : Proxy n) (node : Fin n) (slot : Fin 2)
    (results : List SendResult) : Option Upcall → Proxy n
  | none => proxy
  | some .connected =>
      (proxy.setPair node (runOnConnected (proxy.pairs node) slot)).emit
        (.established node slot)
  | some .response =>
      onUpstreamResponse env (proxy.emit (.delivered node slot (proxy.slot node slot)))
        node slot results
  | some .error => onUpstreamError (proxy.emit (.failed node slot)) node slot

/-- `conn_epoll_cb` with the callbacks the proxy installed. -/
def connEvent (env : Env) (proxy : Proxy n) (node : Fin n) (slot : Fin 2)
    (event : ConnEvent) (results : List SendResult) : Proxy n :=
  match connOutcome proxy node slot event with
  | none => proxy
  | some outcome =>
      runUpcall env (proxy.transfer node slot outcome) node slot results outcome.upcall

/-- `rotation_timer_cb` of one node. -/
def rotationEvent (proxy : Proxy n) (node : Fin n) (result : ConnectResult) : Proxy n :=
  let pair := proxy.pairs node
  let rotated : Proxy n :=
    { proxy.setPair node (rotationTimerCb pair result proxy.nextFd) with
      nextFd := proxy.nextFd + 1 }
  if pair.standbyRefreshable then rotated.emit (.refreshed node pair.standbyIdx result)
  else rotated

/-- A timer is registered under this descriptor. -/
def timerRegistered (proxy : Proxy n) (fd : Nat) : Bool :=
  proxy.timers.any fun timer => timer.fd = fd

/-- A timer that epoll can report: armed, and its deadline has passed. -/
def timerDue (proxy : Proxy n) (fd : Nat) : Bool :=
  proxy.timers.any fun timer => timer.fd = fd && timer.armed && timer.deadline ≤ proxy.now

/--
One callback of the event loop; an event nothing is registered for is dropped.
`rpc_timeout_cb` does not look at what `read` returned, so it runs for a timer
that has not expired as well.
-/
def step (env : Env) (proxy : Proxy n) : Event n → Proxy n
  | .accept result => listenerCb proxy result
  | .client event => if proxy.client.connected then clientCb env proxy event else proxy
  | .conn node slot event results => connEvent env proxy node slot event results
  | .rotation node result => rotationEvent proxy node result
  | .timeout fd results =>
      if timerRegistered proxy fd then rpcTimeoutCb proxy fd results else proxy
  | .blockNotify => rpcProxyOnBlockNotify proxy
  | .elapse duration => { proxy with now := proxy.now + duration }

/-- Uninitialised buffers and the kernel's answers at startup. -/
structure Boot (n : Nat) where
  clientBuf : Memory
  pair : Fin n → PairBoot

/-- `rpc_proxy_create`. -/
def rpcProxyCreate (boot : Boot n) : Proxy n where
  race :=
    { state := .idle
      stickyNodeIdx := none
      lastBlockHeight := 0
      notifyPending := false
      responsesPending := 0
      winnerIdx := none
      lastErrorIdx := none
      allMustComplete := false
      bestGbtHeight := -1
      bestGbtNodeIdx := none
      gbtHeightMatched := false
      method := []
      nodeRetried := fun _ => false
      requestLen := 0 }
  client := ⟨none, boot.clientBuf, 0, false⟩
  pairs node := connPairInit (boot.pair node) fun slot => 2 * node.val + slot.val
  rpcTimeoutTimerFd := none
  timers := []
  nextFd := 2 * n
  now := 0
  trace := []

end RpcRace.RpcProxy
