import RpcRace.Library.Exchange
import RpcRace.ClientMoves
import RpcRace.HttpFraming

/-!
# Reuse of upstream connections

A connection that is back in `CONN_CONNECTED` is used for the next request,
so by then the node must have read all of the last request and the proxy all
of its response; otherwise every later response on that connection answers
the request before.  A reset takes a connection back to `CONN_CONNECTED`
without a look at its streams.  It does no harm where the response was just
delivered, but `race_complete` and the timeout reset every connection that
is busy.  `inStep_of_settledSweeps` says that these two are the only danger.

A node is modelled by the answers it gives to the requests on each of its
connections, in order, and none before it has read the whole request.
-/

namespace RpcRace.ConnectionReuse

open RpcRace.Library.CString
open RpcRace.Library.Run
open RpcRace.Library.Exchange
open RpcRace.RpcConn
open RpcRace.ConnectionPair
open RpcRace.PairMoves
open RpcRace.RpcProxy
open RpcRace.HttpFraming
open RpcRace.Dispatch
open RpcRace.RaceMoves
open RpcRace.ProxyMoves
open RpcRace.SlotMoves
open RpcRace.Requests
open RpcRace.ClientMoves

variable {n : Nat}

/-! ## Framing -/

/--
A response whose header says how long it is, whatever bytes of an older
response stand behind the header in the receive buffer.
-/
structure WellFramed (answer : Memory) : Prop where
  header : ∃ headerEnd, findHeaderEnd answer = some headerEnd ∧
    ∀ tail, headerEnd + contentLengthField (answer.take headerEnd ++ tail) headerEnd =
      answer.length
  short : answer.length < sizeModulus

/-- A header that is read as it is meant, followed by just the body it declares. -/
theorem wellFramed_of_declares {answer : Memory} {headerEnd : Nat}
    (found : findHeaderEnd answer = some headerEnd) (declares : Declares (answer.take headerEnd))
    (body : headerEnd + declaredLength (answer.take headerEnd) = answer.length) :
    WellFramed answer := by
  have length_eq : (answer.take headerEnd).length = headerEnd := by
    rw [List.length_take, min_eq_left (findHeaderEnd_bounds found).2]
  refine ⟨⟨headerEnd, found, fun tail => ?_⟩, ?_⟩
  · have read := contentLengthField_append declares (getLast_header found) tail
    rw [length_eq] at read
    rw [read, body]
  · have small := declares.small
    rwa [length_eq, body] at small

/-- A connection that has read a part of an answer, and of its header what came so far. -/
structure Framing (answer : Memory) (conn : UpstreamConn) : Prop where
  fits : conn.recvLen ≤ conn.recvBuf.length
  leads : conn.recvBuf.take conn.recvLen <+: answer
  framed : conn.headersComplete = true → conn.headerLen + conn.contentLength = answer.length

/-- The state in which `CONN_RECEIVING` is entered. -/
theorem framing_beginReceive (answer : Memory) (conn : UpstreamConn) (taken : Nat) :
    Framing answer (conn.beginReceive taken) where
  fits := Nat.zero_le _
  leads := by simp [UpstreamConn.beginReceive]
  framed := by simp [UpstreamConn.beginReceive]

/-- A chunk is appended to what was read before. -/
theorem Framing.take_absorb {answer : Memory} {conn : UpstreamConn}
    (framing : Framing answer conn) (chunk : Memory) :
    (conn.absorb chunk).recvBuf.take (conn.absorb chunk).recvLen =
      conn.recvBuf.take conn.recvLen ++ chunk := by
  rw [absorb_recvBuf, absorb_recvLen, take_writeAt framing.fits]

theorem Framing.absorb {answer : Memory} {conn : UpstreamConn} (framing : Framing answer conn)
    (wellFramed : WellFramed answer) {chunk : Memory}
    (leads : conn.recvBuf.take conn.recvLen ++ chunk <+: answer) :
    Framing answer (conn.absorb chunk) where
  fits := by
    rw [absorb_recvBuf, absorb_recvLen, length_writeAt framing.fits]
    exact le_max_right _ _
  leads := by
    rw [framing.take_absorb]
    exact leads
  framed := by
    intro complete
    simp only [UpstreamConn.absorb, parseHeaders] at complete ⊢
    split_ifs at complete ⊢ with already
    · exact framing.framed already
    · rw [take_writeAt framing.fits] at complete ⊢
      cases found : findHeaderEnd (conn.recvBuf.take conn.recvLen ++ chunk) with
      | none =>
          rw [found] at complete
          exact absurd complete already
      | some headerEnd =>
          -- the header that was found is the one of the answer, and the buffer starts with it
          rcases wellFramed.header with ⟨position, position_eq, lengths⟩
          rcases leads with ⟨rest, rest_eq⟩
          have bounds := findHeaderEnd_bounds found
          have same := findHeaderEnd_append found rest
          rw [rest_eq, position_eq, Option.some.injEq] at same
          subst same
          have front : (writeAt conn.recvBuf conn.recvLen chunk).take position =
              answer.take position := by
            rw [← rest_eq, List.take_append_of_le_length bounds.2, ← take_writeAt framing.fits,
              List.take_take, min_eq_left]
            have length_eq := congrArg List.length (take_writeAt framing.fits chunk)
            rw [List.length_take] at length_eq
            omega
          have split := List.take_append_drop position (writeAt conn.recvBuf conn.recvLen chunk)
          rw [front] at split
          change position +
            contentLengthField (writeAt conn.recvBuf conn.recvLen chunk) position = _
          rw [← split]
          exact lengths _

/-- A response that is complete is the whole answer, and nothing else. -/
theorem Framing.whole_of_complete {answer : Memory} {conn : UpstreamConn}
    (framing : Framing answer conn) (wellFramed : WellFramed answer)
    (complete : rpcConnResponseComplete conn = true) :
    conn.recvBuf.take conn.recvLen = answer ∧ conn.recvBuf.take conn.expected = answer := by
  simp only [rpcConnResponseComplete, Bool.and_eq_true, decide_eq_true_eq] at complete
  rcases complete with ⟨headers, enough⟩
  have expected_eq : conn.expected = answer.length := by
    rw [UpstreamConn.expected, framing.framed headers, Nat.mod_eq_of_lt wellFramed.short]
  have whole : conn.recvBuf.take conn.recvLen = answer := by
    apply framing.leads.eq_of_length_le
    rw [List.length_take, min_eq_left framing.fits, ← expected_eq]
    exact enough
  refine ⟨whole, ?_⟩
  have length_eq := congrArg List.length whole
  rw [List.length_take, min_eq_left framing.fits] at length_eq
  rw [expected_eq, ← length_eq]
  exact whole

/-! ## The request buffer -/

theorem ResponseMove.requestLen_eq {env : Env} {proxy : Proxy n} {node : Fin n} {slot : Fin 2}
    {chunk : Memory} {results : List SendResult} {result : Proxy n}
    (move : ResponseMove env proxy node slot chunk results result) :
    result.race.requestLen = proxy.race.requestLen := by
  cases move with
  | counted race inIbd counting => exact counting.requestLen_eq
  | broadcastWon race inIbd counting => exact counting.requestLen_eq
  | won race inIbd stuck counting =>
      cases stuck <;> exact counting.requestLen_eq
  | ended race inIbd counting =>
      rw [raceComplete_race]
      exact counting.requestLen_eq
  | settled race inIbd stuck counting =>
      rw [raceComplete_race]
      cases stuck <;> exact counting.requestLen_eq

theorem FailureMove.requestLen_eq {proxy result : Proxy n} {node : Fin n}
    (move : FailureMove proxy node result) :
    result.race.requestLen = proxy.race.requestLen := by
  cases move with
  | counted => rfl
  | ended => rw [raceComplete_race]; rfl
  | closed => rw [raceComplete_race]; rfl

theorem ErrorMove.requestLen_eq {proxy result : Proxy n} {node : Fin n}
    (move : ErrorMove proxy node result) :
    result.race.requestLen = proxy.race.requestLen := by
  cases move with
  | retried => rfl
  | twice already result failure => exact FailureMove.requestLen_eq failure
  | lost first final result failure =>
      have same := FailureMove.requestLen_eq failure
      exact same

theorem TimeoutMove.requestLen_eq {proxy result : Proxy n} {fd : Nat}
    (move : TimeoutMove proxy fd result) :
    result.race.requestLen = proxy.race.requestLen := by
  cases move with
  | drained => rw [cancelRpcTimeout_race]; rfl
  | ended => rw [raceComplete_race]; rfl
  | closed => rw [raceComplete_race]; rfl

/-- The length that a retry uses is that of the latest request. -/
theorem step_requestLen (env : Env) (proxy : Proxy n) (event : Event n)
    (wellFormed : WellFormed proxy) :
    (step env proxy event).race.requestLen = proxy.race.requestLen ∨
      ∃ chunk, storedChunk proxy event = some chunk ∧
        (step env proxy event).race.requestLen = (withChunk proxy chunk).client.recvLen := by
  have move := step_raceStep env proxy event wellFormed
  generalize step env proxy event = result at move
  cases move with
  | aside event result added trace quiet race_eq => exact Or.inl (by rw [race_eq])
  | notified => exact Or.inl rfl
  | request event chunk method result bytes accepted idle acceptance =>
      refine Or.inr ⟨chunk, bytes, ?_⟩
      rw [clearRequest_race]
      cases acceptance with
      | fanout race begun =>
          rw [startRpcTimeout_race]
          exact begun.requestLen_eq
      | sticky race begun =>
          rw [startRpcTimeout_race]
          exact begun.requestLen_eq
      | refused race begun => exact begun.requestLen_eq
  | lateResponse node slot event results chunk result added out idle trace quiet race_eq =>
      exact Or.inl (by rw [race_eq])
  | response node slot event results chunk result out complete active move =>
      exact Or.inl (ResponseMove.requestLen_eq move)
  | lateError node slot event results result added idle trace quiet race_eq =>
      exact Or.inl (by rw [race_eq])
  | error node slot event results result out active move =>
      have same := ErrorMove.requestLen_eq move
      exact Or.inl same
  | expired fd results result registered move => exact Or.inl (TimeoutMove.requestLen_eq move)

/-- Storing a chunk never shortens the buffer, and the chunk is within it. -/
theorem store_bounds {client : Client} (held : client.recvLen ≤ client.recvBuf.length)
    (chunk : Memory) :
    client.recvBuf.length ≤ (client.store chunk).recvBuf.length ∧
      (client.store chunk).recvLen ≤ (client.store chunk).recvBuf.length := by
  have length_eq := length_writeAt held chunk
  simp only [Client.store]
  omega

theorem bufferAfter_le {proxy : Proxy n}
    (held : proxy.client.recvLen ≤ proxy.client.recvBuf.length) (event : Event n) :
    proxy.client.recvBuf.length ≤ (bufferAfter proxy event).length := by
  simp only [bufferAfter]
  cases storedChunk proxy event with
  | none => exact le_rfl
  | some chunk => exact (store_bounds held chunk).1

theorem close_recvLen (client : Client) : client.close.recvLen ≤ client.recvLen := by
  simp only [Client.close]
  split_ifs
  · exact Nat.zero_le _
  · exact le_rfl

theorem KeptOrClosed.recvLen_le {before after : Client} (kept : KeptOrClosed before after) :
    after.recvLen ≤ before.recvLen := by
  rcases kept with rfl | rfl
  · exact le_rfl
  · exact close_recvLen before

/-- How much of a request is stored when the bytes of an event have been read. -/
def lengthAfter (proxy : Proxy n) (event : Event n) : Nat :=
  match storedChunk proxy event with
  | none => proxy.client.recvLen
  | some chunk => (withChunk proxy chunk).client.recvLen

/-- A callback stores no more than the bytes it has read. -/
theorem step_recvLen_le (env : Env) (proxy : Proxy n) (event : Event n)
    (wellFormed : WellFormed proxy) :
    (step env proxy event).client.recvLen ≤ lengthAfter proxy event := by
  have grown : proxy.client.recvLen ≤ lengthAfter proxy event := by
    unfold lengthAfter
    cases storedChunk proxy event with
    | none => exact le_rfl
    | some chunk => exact Nat.le_add_right _ _
  have move := step_move env proxy event wellFormed
  generalize step env proxy event = result at move
  cases move with
  | replaced registered =>
      refine le_trans ?_ grown
      simp only [listenerCb]
      split_ifs <;> first | exact Nat.zero_le _ | exact close_recvLen _ | exact le_rfl
  | hungUp event connected noBytes => exact (close_recvLen proxy.client).trans grown
  | stored event chunk bytes waiting =>
      rw [lengthAfter, bytes]
  | dropped event chunk bytes waiting => exact Nat.zero_le _
  | request event chunk method result bytes accepted idle nonempty acceptance =>
      exact Nat.zero_le _
  | lateResponse =>
      rw [drainSlot_client]
      exact grown
  | response node slot event results chunk nonempty out receiving complete active result move =>
      rw [ResponseMove.client_eq move]
      exact grown
  | lateError =>
      rw [drainSlot_client]
      exact grown
  | error node slot event results out busy active result move =>
      have shorter := KeptOrClosed.recvLen_le (ErrorMove.client move)
      exact shorter.trans grown
  | rotated node result =>
      rw [rotationEvent_client]
      exact grown
  | expired fd results registered result move =>
      exact (KeptOrClosed.recvLen_le (TimeoutMove.client move)).trans grown
  | _ => exact grown

/-- What is stored of a request, before or after a callback, is within the buffer. -/
theorem step_recvLen (env : Env) (proxy : Proxy n) (event : Event n)
    (wellFormed : WellFormed proxy)
    (held : proxy.client.recvLen ≤ proxy.client.recvBuf.length) :
    (step env proxy event).client.recvLen ≤ (bufferAfter proxy event).length := by
  refine (step_recvLen_le env proxy event wellFormed).trans ?_
  unfold lengthAfter bufferAfter
  cases storedChunk proxy event with
  | none => exact held
  | some chunk => exact (store_bounds held chunk).2

/-- All that is sent, or may be sent, is within the request buffer. -/
structure Held (proxy : Proxy n) : Prop where
  stored : proxy.client.recvLen ≤ proxy.client.recvBuf.length
  raced : proxy.race.requestLen ≤ proxy.client.recvBuf.length
  sent : ∀ node slot, (proxy.slot node slot).state = .sending →
    (proxy.slot node slot).sendLen ≤ proxy.client.recvBuf.length

theorem ConnMove.sendLen_eq {shared : Memory} {conn : UpstreamConn} {outcome : ConnOutcome}
    (move : ConnMove shared conn outcome) (sending : outcome.conn.state = .sending) :
    conn.state = .sending ∧ outcome.conn.sendLen = conn.sendLen := by
  cases move with
  | still => exact ⟨sending, rfl⟩
  | closed quiet => simp [ConnOutcome.quiet] at sending
  | connected connecting => simp [ConnOutcome.quiet] at sending
  | broken busy => simp [ConnOutcome.quiet] at sending
  | wrote wasSending taken more => exact ⟨wasSending, rfl⟩
  | wroteAll wasSending taken bounded finished => simp [UpstreamConn.beginReceive] at sending
  | read receiving chunk nonempty fits incomplete =>
      rw [absorb_state, receiving] at sending
      contradiction
  | readAll receiving chunk nonempty fits complete =>
      rw [absorb_state, receiving] at sending
      contradiction

theorem StartCause.len_le {env : Env} {proxy : Proxy n} {event : Event n} {node : Fin n}
    {len : Nat} (cause : StartCause env proxy event node len) (held : Held proxy) :
    len ≤ (bufferAfter proxy event).length := by
  rcases cause with ⟨chunk, bytes, -, rfl⟩ | ⟨-, -, -, rfl⟩
  · rw [bufferAfter, bytes]
    exact (store_bounds held.stored chunk).2
  · exact held.raced.trans (bufferAfter_le held.stored event)

/-- A slot that sends after a callback sends from within the buffer. -/
theorem SlotMove.sendLen_le {env : Env} {proxy : Proxy n} {event : Event n} {node : Fin n}
    {slot : Fin 2} {effects : List SlotEffect} {after : UpstreamConn}
    (move : SlotMove env proxy event node slot effects after) (held : Held proxy)
    (sending : after.state = .sending) :
    after.sendLen ≤ (bufferAfter proxy event).length := by
  have grows := bufferAfter_le held.stored event
  have busy : after.inFlight = true := by simp [UpstreamConn.inFlight, sending]
  cases move with
  | kept => exact (held.sent node slot sending).trans grows
  | io outcome move =>
      rcases ConnMove.sendLen_eq move sending with ⟨wasSending, same⟩
      rw [same]
      exact (held.sent node slot wasSending).trans grows
  | answered chunk inIbd receiving =>
      rw [absorb_state, receiving] at sending
      contradiction
  | answeredReset => simp at busy
  | broken after wasBusy down =>
      rw [down] at sending
      contradiction
  | started len nonempty connected cause => exact StartCause.len_le cause held
  | swept => simp at busy
  | refreshed result fd standby refreshable =>
      have down := closedStandby_state refreshable
      rw [refreshed_eq refreshable] at sending
      cases result <;> simp [down] at sending

theorem step_held (env : Env) (proxy : Proxy n) (event : Event n)
    (wellFormed : WellFormed proxy) (held : Held proxy) :
    Held (step env proxy event) := by
  have buffer_eq := step_recvBuf env proxy event wellFormed
  refine ⟨?_, ?_, ?_⟩
  · rw [buffer_eq]
    exact step_recvLen env proxy event wellFormed held.stored
  · rw [buffer_eq]
    rcases step_requestLen env proxy event wellFormed with same | ⟨chunk, bytes, fresh⟩
    · rw [same]
      exact held.raced.trans (bufferAfter_le held.stored event)
    · rw [fresh, bufferAfter, bytes]
      exact (store_bounds held.stored chunk).2
  · intro node slot sending
    rw [buffer_eq]
    rcases step_explained env proxy event wellFormed with ⟨added, -, -, moves⟩
    exact SlotMove.sendLen_le (moves node slot) held sending

theorem rpcProxyCreate_held (boot : Boot n) : Held (rpcProxyCreate boot) := by
  refine ⟨Nat.zero_le _, Nat.zero_le _, ?_⟩
  intro node slot sending
  have quiet := rpcProxyCreate_quiet boot node slot
  simp [UpstreamConn.inFlight, sending] at quiet

/-! ## The streams of a connection -/

/--
The answers of the nodes: on each connection of each slot, to each request
on it.
-/
abbrev Server (n : Nat) := Fin n → Fin 2 → Nat → Nat → Memory

/-- What has passed on the current connection of a slot. -/
def trafficOf : List SlotEffect → Traffic Byte
  | [] => .empty
  | .refreshed _ :: _ => .empty
  | .started len :: past => (trafficOf past).start len
  | .transferred written received :: past => (trafficOf past).transfer written.length received
  | .delivered _ :: past => trafficOf past
  | .failed :: past => trafficOf past

/-- How often a slot was connected again. -/
def connectionNo (history : List SlotEffect) : Nat :=
  history.countP fun
    | .refreshed _ => true
    | _ => false

section Slot

variable (server : Server n) (node : Fin n) (slot : Fin 2) (history : List SlotEffect)

/-- The answers to the requests on the current connection of a slot. -/
def answersOf : Nat → Memory :=
  server node slot (connectionNo history)

/-- The response that is delivered is the answer to the last send on the connection. -/
def AnswersSend (effect : SlotEffect) (past : List SlotEffect) : Prop :=
  match effect with
  | .delivered conn =>
      (trafficOf past).lens ≠ [] ∧
        conn.recvBuf.take conn.expected =
          latestAnswer (answersOf server node slot past) (trafficOf past)
  | _ => True

instance (effect : SlotEffect) (past : List SlotEffect) :
    Decidable (AnswersSend server node slot effect past) :=
  match effect with
  | .delivered _ => inferInstanceAs (Decidable (_ ∧ _))
  | .started _ | .transferred _ _ | .refreshed _ | .failed => .isTrue trivial

/-- Where the streams of a connection stand in each of its states. -/
def SlotInStep (conn : UpstreamConn) : Prop :=
  match conn.state with
  | .disconnected => True
  | .connecting => trafficOf history = .empty
  | .connected => Balanced (answersOf server node slot history) (trafficOf history)
  | .sending =>
      Writing (answersOf server node slot history) (trafficOf history) conn.sendLen
        conn.sendOffset ∧ conn.sendOffset ≤ conn.sendLen
  | .receiving =>
      Reading (answersOf server node slot history) (trafficOf history)
        (conn.recvBuf.take conn.recvLen) ∧
      Framing (latestAnswer (answersOf server node slot history) (trafficOf history)) conn

end Slot

/--
Every connection in `CONN_CONNECTED` has carried whole requests and whole
responses only, and every response that was delivered answers the last send
on its connection.
-/
structure InStep (server : Server n) (proxy : Proxy n) : Prop where
  balanced : ∀ node slot, (proxy.slot node slot).state = .connected →
    Balanced (answersOf server node slot (slotTrace node slot proxy.trace))
      (trafficOf (slotTrace node slot proxy.trace))
  delivered : ∀ node slot,
    AtEach (AnswersSend server node slot) (slotTrace node slot proxy.trace)

instance (server : Server n) (proxy : Proxy n) : Decidable (InStep server proxy) :=
  decidable_of_iff
    ((∀ node slot, (proxy.slot node slot).state = .connected →
      Balanced (answersOf server node slot (slotTrace node slot proxy.trace))
        (trafficOf (slotTrace node slot proxy.trace))) ∧
      ∀ node slot, AtEach (AnswersSend server node slot) (slotTrace node slot proxy.trace))
    ⟨fun both => ⟨both.1, both.2⟩, fun inStep => ⟨inStep.balanced, inStep.delivered⟩⟩

/-! ## The conditions -/

/-- The bytes that an event brings from the nodes are those of their answers. -/
def ServedBy (env : Env) (server : Server n) (proxy : Proxy n) (event : Event n) : Prop :=
  ∀ node slot,
    Served (answersOf server node slot (slotTrace node slot (step env proxy event).trace))
      (trafficOf (slotTrace node slot (step env proxy event).trace))

instance (env : Env) (server : Server n) (proxy : Proxy n) (event : Event n) :
    Decidable (ServedBy env server proxy event) :=
  inferInstanceAs (Decidable (∀ _ _, Served _ _))

/-- A reset of this connection closes it, or finds its response complete. -/
def Settled (conn : UpstreamConn) : Prop :=
  conn.connectionClose = true ∨
    conn.state = .receiving ∧ rpcConnResponseComplete conn = true

/--
When a race is completed, or the time is up, every other connection with a
request in flight is settled.
-/
def SettledSweeps (proxy : Proxy n) (event : Event n) : Prop :=
  Sweeps proxy event → ∀ node slot, (proxy.slot node slot).inFlight = true →
    ¬ Delivers proxy event node slot → Settled (proxy.slot node slot)

instance (proxy : Proxy n) (event : Event n) : Decidable (Sweeps proxy event) :=
  match event with
  | .timeout fd _ => inferInstanceAs (Decidable (timerRegistered proxy fd = true))
  | .conn node slot connEvent _ =>
      inferInstanceAs (Decidable (_ ∧ _ ∧
        ∃ outcome ∈ connOutcome proxy node slot connEvent,
          outcome.upcall = some .response ∨
            outcome.upcall = some .error ∧ ¬ Retryable proxy node))
  | .accept _ | .client _ | .rotation _ _ | .blockNotify | .elapse _ => .isFalse id

instance (conn : UpstreamConn) : Decidable (Settled conn) :=
  inferInstanceAs (Decidable (_ ∨ _))

instance (proxy : Proxy n) (event : Event n) : Decidable (SettledSweeps proxy event) :=
  inferInstanceAs (Decidable (Sweeps proxy event → ∀ node slot,
    (proxy.slot node slot).inFlight = true → ¬ Delivers proxy event node slot →
      Settled (proxy.slot node slot)))

/-! ## One callback -/

section Slot

variable {server : Server n} {node : Fin n} {slot : Fin 2} {history : List SlotEffect}

theorem slotInStep_disconnected {conn : UpstreamConn} (down : conn.state = .disconnected) :
    SlotInStep server node slot history conn := by
  simp only [SlotInStep, down]

/-- Only the traffic of the current connection matters. -/
theorem SlotInStep.congr {other : List SlotEffect} {conn : UpstreamConn}
    (inStep : SlotInStep server node slot history conn)
    (traffic_eq : trafficOf other = trafficOf history)
    (no_eq : connectionNo other = connectionNo history) :
    SlotInStep server node slot other conn := by
  simp only [SlotInStep, answersOf, traffic_eq, no_eq] at inStep ⊢
  exact inStep

/-- A chunk of the answer is read. -/
theorem SlotInStep.absorb {conn : UpstreamConn} {chunk : Memory}
    (inStep : SlotInStep server node slot history conn)
    (framed : ∀ connection index, WellFramed (server node slot connection index))
    (receiving : conn.state = .receiving)
    (served : Served (answersOf server node slot (.transferred [] chunk :: history))
      (trafficOf (.transferred [] chunk :: history))) :
    SlotInStep server node slot (.transferred [] chunk :: history) (conn.absorb chunk) := by
  simp only [SlotInStep, receiving] at inStep
  simp only [SlotInStep, absorb_state, receiving]
  rcases inStep with ⟨reading, framing⟩
  have next := reading.read chunk
  have leads := next.part_of_served served
  rw [framing.take_absorb]
  exact ⟨next, framing.absorb (framed _ _) leads⟩

/-- A reset of a connection that is idle or settled keeps it in step. -/
theorem SlotInStep.reset {conn : UpstreamConn}
    (inStep : SlotInStep server node slot history conn)
    (framed : ∀ connection index, WellFramed (server node slot connection index))
    (settled : conn.inFlight = true → Settled conn) :
    SlotInStep server node slot history (rpcConnReset conn) := by
  simp only [rpcConnReset]
  split_ifs with closing busy
  · exact slotInStep_disconnected rfl
  · rcases settled busy with closes | ⟨receiving, complete⟩
    · exact absurd closes closing
    · simp only [SlotInStep, receiving] at inStep
      rcases inStep with ⟨reading, framing⟩
      have whole := (framing.whole_of_complete (framed _ _) complete).1
      exact reading.finish whole
  · cases state : conn.state with
    | sending => simp [UpstreamConn.inFlight, state] at busy
    | receiving => simp [UpstreamConn.inFlight, state] at busy
    | disconnected => exact slotInStep_disconnected state
    | connecting =>
        simp only [SlotInStep, UpstreamConn.clearTransfer_state, state] at inStep ⊢
        exact inStep
    | connected =>
        simp only [SlotInStep, UpstreamConn.clearTransfer_state, state] at inStep ⊢
        exact inStep

/-- Input and output keep a connection in step. -/
theorem ConnMove.inStep {shared : Memory} {conn : UpstreamConn} {outcome : ConnOutcome}
    (move : ConnMove shared conn outcome) (inStep : SlotInStep server node slot history conn)
    (framed : ∀ connection index, WellFramed (server node slot connection index))
    (held : conn.state = .sending → conn.sendLen ≤ shared.length)
    (served : Served
      (answersOf server node slot (.transferred outcome.written outcome.received :: history))
      (trafficOf (.transferred outcome.written outcome.received :: history))) :
    SlotInStep server node slot (.transferred outcome.written outcome.received :: history)
      outcome.conn := by
  -- the kernel takes as many bytes as it says, since the request is within the buffer
  have count : ∀ taken, conn.state = .sending → conn.sendOffset + taken ≤ conn.sendLen →
      ((shared.drop conn.sendOffset).take taken).length = taken := by
    intro taken sending bounded
    have within := held sending
    rw [List.length_take, List.length_drop]
    omega
  cases move with
  | still => exact inStep.congr (Traffic.transfer_nothing _) rfl
  | closed quiet => exact slotInStep_disconnected rfl
  | connected connecting =>
      simp only [SlotInStep, connecting] at inStep
      change Balanced _ ((trafficOf history).transfer 0 [])
      rw [Traffic.transfer_nothing, inStep]
      exact balanced_empty
  | broken busy => exact slotInStep_disconnected rfl
  | wrote sending taken more =>
      simp only [SlotInStep, sending] at inStep ⊢
      refine ⟨?_, more.le⟩
      change Writing _ ((trafficOf history).transfer _ []) _ _
      rw [count taken sending more.le]
      exact inStep.1.write taken
  | wroteAll sending taken bounded finished =>
      simp only [SlotInStep, sending] at inStep
      have finished_eq : conn.sendOffset + taken = conn.sendLen := by omega
      have next := inStep.1.write taken
      rw [finished_eq] at next
      refine ⟨?_, framing_beginReceive _ conn taken⟩
      change Reading _ ((trafficOf history).transfer _ []) []
      rw [count taken sending finished_eq.le]
      exact next.finish
  | read receiving chunk nonempty fits incomplete =>
      exact inStep.absorb framed receiving served
  | readAll receiving chunk nonempty fits complete =>
      exact inStep.absorb framed receiving served

/-- Every callback keeps a slot in step. -/
theorem SlotMove.inStep {env : Env} {proxy : Proxy n} {event : Event n}
    {effects : List SlotEffect} {after : UpstreamConn}
    (move : SlotMove env proxy event node slot effects after) (held : Held proxy)
    (inStep : SlotInStep server node slot history (proxy.slot node slot))
    (framed : ∀ connection index, WellFramed (server node slot connection index))
    (served : Served (answersOf server node slot (effects ++ history))
      (trafficOf (effects ++ history)))
    (settled : SettledSweeps proxy event) :
    SlotInStep server node slot (effects ++ history) after := by
  cases move with
  | kept => exact inStep
  | io outcome move => exact ConnMove.inStep move inStep framed (held.sent node slot) served
  | answered chunk inIbd receiving nonempty complete active =>
      have absorbed := inStep.absorb framed receiving served
      simp only [SlotInStep, absorb_state, receiving] at absorbed ⊢
      exact ⟨absorbed.1, absorbed.2.fits, absorbed.2.leads, absorbed.2.framed⟩
  | answeredReset chunk inIbd receiving nonempty complete =>
      have absorbed := inStep.absorb framed receiving served
      have marked : SlotInStep server node slot (.transferred [] chunk :: history)
          { (proxy.slot node slot).absorb chunk with inIbd := inIbd } := by
        simp only [SlotInStep, absorb_state, receiving] at absorbed ⊢
        exact ⟨absorbed.1, absorbed.2.fits, absorbed.2.leads, absorbed.2.framed⟩
      refine (marked.reset framed fun _ => Or.inr ⟨?_, complete⟩).congr rfl rfl
      rw [← receiving]
      exact absorb_state _ _
  | broken after busy down => exact slotInStep_disconnected down
  | started len nonempty connected cause =>
      simp only [SlotInStep, connected] at inStep
      exact ⟨inStep.start len, Nat.zero_le len⟩
  | swept sweeps unheard =>
      apply inStep.reset framed
      intro busy
      exact settled sweeps node slot busy unheard
  | refreshed result fd standby refreshable =>
      rw [refreshed_eq refreshable]
      cases result with
      | failed => exact slotInStep_disconnected (closedStandby_state refreshable)
      | immediate => exact balanced_empty
      | inProgress => exact rfl

/-- Every response that a callback delivers answers the last send. -/
theorem SlotMove.answersSend {env : Env} {proxy : Proxy n} {event : Event n}
    {effects : List SlotEffect} {after : UpstreamConn}
    (move : SlotMove env proxy event node slot effects after)
    (inStep : SlotInStep server node slot history (proxy.slot node slot))
    (framed : ∀ connection index, WellFramed (server node slot connection index))
    (served : Served (answersOf server node slot (effects ++ history))
      (trafficOf (effects ++ history)))
    (past : AtEach (AnswersSend server node slot) history) :
    AtEach (AnswersSend server node slot) (effects ++ history) := by
  have delivery : ∀ chunk, (proxy.slot node slot).state = .receiving →
      rpcConnResponseComplete ((proxy.slot node slot).absorb chunk) = true →
      Served (answersOf server node slot (.transferred [] chunk :: history))
        (trafficOf (.transferred [] chunk :: history)) →
      AtEach (AnswersSend server node slot)
        (.delivered ((proxy.slot node slot).absorb chunk) :: .transferred [] chunk ::
          history) := by
    intro chunk receiving complete served
    have absorbed := inStep.absorb framed receiving served
    simp only [SlotInStep, absorb_state, receiving] at absorbed
    rcases absorbed with ⟨reading, framing⟩
    exact ⟨⟨reading.lens_ne_nil, (framing.whole_of_complete (framed _ _) complete).2⟩,
      trivial, past⟩
  cases move with
  | kept => exact past
  | io outcome move => exact ⟨trivial, past⟩
  | answered chunk inIbd receiving nonempty complete active =>
      exact delivery chunk receiving complete served
  | answeredReset chunk inIbd receiving nonempty complete =>
      exact delivery chunk receiving complete served
  | broken after busy down => exact ⟨trivial, trivial, past⟩
  | started len nonempty connected cause => exact ⟨trivial, past⟩
  | swept sweeps unheard => exact past
  | refreshed result fd standby refreshable => exact ⟨trivial, past⟩

end Slot

/-! ## Runs -/

/-- What holds in every state of a run in which the conditions are met. -/
structure Stepping (server : Server n) (proxy : Proxy n) : Prop where
  wellFormed : WellFormed proxy
  held : Held proxy
  slots : ∀ node slot,
    SlotInStep server node slot (slotTrace node slot proxy.trace) (proxy.slot node slot)
  delivered : ∀ node slot,
    AtEach (AnswersSend server node slot) (slotTrace node slot proxy.trace)

theorem Stepping.inStep {server : Server n} {proxy : Proxy n}
    (stepping : Stepping server proxy) :
    InStep server proxy := by
  refine ⟨?_, stepping.delivered⟩
  intro node slot connected
  have inStep := stepping.slots node slot
  simp only [SlotInStep, connected] at inStep
  exact inStep

theorem step_stepping (env : Env) (server : Server n)
    (framed : ∀ node slot connection index, WellFramed (server node slot connection index))
    (proxy : Proxy n) (event : Event n) (stepping : Stepping server proxy)
    (guarded : ServedBy env server proxy event ∧ SettledSweeps proxy event) :
    Stepping server (step env proxy event) := by
  rcases guarded with ⟨served, settled⟩
  rcases step_explained env proxy event stepping.wellFormed with ⟨added, trace, -, moves⟩
  have history : ∀ node slot, slotTrace node slot (step env proxy event).trace =
      slotTrace node slot added ++ slotTrace node slot proxy.trace := by
    intro node slot
    rw [trace, slotTrace_append, slotTrace_append, slotTrace_acceptedRequest, List.nil_append]
  refine ⟨step_wellFormed env proxy event stepping.wellFormed,
    step_held env proxy event stepping.wellFormed stepping.held, ?_, ?_⟩
  · intro node slot
    have slotServed := served node slot
    rw [history] at slotServed ⊢
    exact SlotMove.inStep (moves node slot) stepping.held (stepping.slots node slot)
      (framed node slot) slotServed settled
  · intro node slot
    have slotServed := served node slot
    rw [history] at slotServed ⊢
    exact SlotMove.answersSend (moves node slot) (stepping.slots node slot) (framed node slot)
      slotServed (stepping.delivered node slot)

theorem rpcProxyCreate_stepping (server : Server n) (boot : Boot n) :
    Stepping server (rpcProxyCreate boot) := by
  refine ⟨rpcProxyCreate_wellFormed boot, rpcProxyCreate_held boot, ?_, fun _ _ => trivial⟩
  intro node slot
  have quiet := rpcProxyCreate_quiet boot node slot
  simp only [SlotInStep]
  cases state : ((rpcProxyCreate boot).slot node slot).state with
  | sending => simp [UpstreamConn.inFlight, state] at quiet
  | receiving => simp [UpstreamConn.inFlight, state] at quiet
  | disconnected => trivial
  | connecting => exact rfl
  | connected => exact balanced_empty

/--
As long as race completion and timeouts find every other busy connection
settled, all connections to nodes that answer in order stay in step.
-/
theorem inStep_of_settledSweeps (env : Env) (boot : Boot n) (server : Server n)
    (events : List (Event n))
    (framed : ∀ node slot connection index, WellFramed (server node slot connection index))
    (served : Along (step env) (ServedBy env server) (rpcProxyCreate boot) events)
    (guarded : Along (step env) SettledSweeps (rpcProxyCreate boot) events) :
    Throughout (step env) (InStep server) (rpcProxyCreate boot) events := by
  apply Throughout.mono fun proxy (stepping : Stepping server proxy) => stepping.inStep
  exact throughout_of_along (step_stepping env server framed)
    (rpcProxyCreate_stepping server boot) (served.and guarded)

theorem doneResponse_wellFramed : WellFramed doneResponse :=
  ⟨⟨39, by decide +kernel, fun _ => rfl⟩, by decide +kernel⟩

theorem templateResponse_wellFramed : WellFramed (templateResponse "1") :=
  ⟨⟨39, by decide +kernel, fun _ => rfl⟩, by decide +kernel⟩

/-- Nodes that have nothing to report. -/
def doneServer (n : Nat) : Server n := fun _ _ _ _ => doneResponse

/--
Two nodes answer a broadcast, one of them in two parts, and then another
request, the second of them after the race.
-/
def twoRequests : List (Event 2) :=
  [clientConnects, clientSends blockRequest,
    slotWrites 0 0 20, slotWrites 0 0 1000, slotWrites 1 0 1000,
    slotReads 0 0 doneResponse [.accepted 1000],
    slotReads 1 0 (doneResponse.take 50) [],
    slotReads 1 0 (doneResponse.drop 50) [],
    clientSends addressRequest,
    slotWrites 0 0 1000, slotWrites 1 0 1000,
    slotReads 0 0 doneResponse [.accepted 1000],
    slotReads 1 0 doneResponse []]

theorem inStep_of_settledSweeps_twoRequests :
    Along (step exampleEnv) (ServedBy exampleEnv (doneServer 2)) (rpcProxyCreate (exampleBoot 2))
        twoRequests ∧
      Along (step exampleEnv) SettledSweeps (rpcProxyCreate (exampleBoot 2)) twoRequests ∧
      Throughout (step exampleEnv) (InStep (doneServer 2)) (rpcProxyCreate (exampleBoot 2))
        twoRequests := by
  have facts :
      Along (step exampleEnv) (ServedBy exampleEnv (doneServer 2))
          (rpcProxyCreate (exampleBoot 2)) twoRequests ∧
        Along (step exampleEnv) SettledSweeps (rpcProxyCreate (exampleBoot 2)) twoRequests := by
    decide +kernel
  rcases facts with ⟨served, settled⟩
  exact ⟨served, settled, inStep_of_settledSweeps exampleEnv (exampleBoot 2) (doneServer 2)
    twoRequests (fun _ _ _ _ => doneResponse_wellFramed) served settled⟩

/-! ## A connection that is reset too early -/

/-- A node whose first answer on a connection differs from the others. -/
def twoAnswers : Server 1 := fun _ _ _ index =>
  if index = 0 then doneResponse else templateResponse "1"

/--
The time is up before the node answers.  The next request is sent on the
same connection, and then the answer to the first one comes.
-/
def lateAnswer : List (Event 1) :=
  [clientConnects, clientSends addressRequest,
    slotWrites 0 0 1000,
    .elapse 30000, .timeout 3 [],
    clientConnects, clientSends gbtRequest,
    slotWrites 0 0 1000,
    slotReads 0 0 doneResponse [.accepted 1000]]

/-- The connection is used again while an answer is on its way, and that one is delivered. -/
theorem lateAnswer_not_inStep :
    (∀ node slot connection index, WellFramed (twoAnswers node slot connection index)) ∧
      Along (step exampleEnv) (ServedBy exampleEnv twoAnswers) (rpcProxyCreate (exampleBoot 1))
        lateAnswer ∧
      ¬ Throughout (step exampleEnv) (InStep twoAnswers) (rpcProxyCreate (exampleBoot 1))
        lateAnswer := by
  have facts :
      Along (step exampleEnv) (ServedBy exampleEnv twoAnswers) (rpcProxyCreate (exampleBoot 1))
          lateAnswer ∧
        ¬ InStep twoAnswers (exampleRun 1 lateAnswer) := by
    decide +kernel
  rcases facts with ⟨served, outOfStep⟩
  refine ⟨?_, served, fun inStep => outOfStep (throughout_end inStep)⟩
  intro node slot connection index
  simp only [twoAnswers]
  split_ifs
  · exact doneResponse_wellFramed
  · exact templateResponse_wellFramed

end RpcRace.ConnectionReuse
