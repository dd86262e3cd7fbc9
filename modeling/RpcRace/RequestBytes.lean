import RpcRace.ClientMoves

/-!
# The bytes of a request on the wire

Requests are forwarded without a copy: every connection sends straight from
the client's buffer.  The bytes a slot has written since its last send should
be a prefix of the request it was started for, and all of it once the slot
waits for the response.

Client bytes are stored in the same buffer whatever the connections still
have to send, and a retry reads the buffer again later.  So the property
needs a client that stays silent while some connection is `CONN_SENDING`,
and a buffer that still holds the request when it is retried.
-/

namespace RpcRace.RequestBytes

open RpcRace.Library.CString
open RpcRace.Library.Run
open RpcRace.RpcConn
open RpcRace.PairMoves
open RpcRace.RpcProxy
open RpcRace.Dispatch
open RpcRace.RaceMoves
open RpcRace.ProxyMoves
open RpcRace.SlotMoves
open RpcRace.Requests
open RpcRace.ClientMoves

variable {n : Nat}

/-! ## The property -/

/-- The bytes of the request that a history starts with. -/
def headRequest : List (Effect n) → Memory
  | .requestAccepted _ request _ _ :: _ => request
  | _ => []

/-- The bytes of the latest request. -/
def latestRequest (trace : List (Effect n)) : Memory :=
  headRequest (requestPast trace)

/-- The bytes written on a connection since the last send on it. -/
def writtenSince : List SlotEffect → Memory
  | [] => []
  | .started _ :: _ => []
  | .transferred written _ :: past => writtenSince past ++ written
  | _ :: past => writtenSince past

/-- The request for which the last send on a slot was made. -/
def payload (proxy : Proxy n) (node : Fin n) (slot : Fin 2) : Memory :=
  latestRequest (startPast node slot proxy.trace)

/-- The bytes handed to `send` on a slot for that request. -/
def sentBytes (proxy : Proxy n) (node : Fin n) (slot : Fin 2) : Memory :=
  writtenSince (slotTrace node slot proxy.trace)

/-- Every slot has sent a prefix of its request, and all of it before it receives. -/
def Faithful (proxy : Proxy n) : Prop :=
  ∀ node slot,
    sentBytes proxy node slot <+: payload proxy node slot ∧
      ((proxy.slot node slot).state = .receiving →
        sentBytes proxy node slot = payload proxy node slot)

/-! ## The condition -/

/--
No client bytes arrive while a connection is sending, and a retry finds the
request still in the client's buffer.
-/
def StableBuffer (proxy : Proxy n) (event : Event n) : Prop :=
  (storedChunk proxy event ≠ none →
    ∀ node slot, (proxy.slot node slot).state ≠ .sending) ∧
  ∀ node slot, Delivers proxy event node slot → upcallOf proxy event = some .error →
    proxy.race.state ≠ .idle → Retryable proxy node →
      proxy.client.recvBuf.take proxy.race.requestLen = latestRequest proxy.trace

instance (proxy : Proxy n) (event : Event n) : Decidable (StableBuffer proxy event) :=
  inferInstanceAs (Decidable (_ ∧ _))

/-! ## The invariant -/

/--
What one slot has sent, for a request `bytes` that a connection sends from
`buffer`: the sent part ends where the connection's offset stands.
-/
def SlotIntact (buffer : Memory) (conn : UpstreamConn) (sent bytes : Memory) : Prop :=
  match conn.state with
  | .sending =>
      buffer.take conn.sendLen = bytes ∧ sent = bytes.take conn.sendOffset ∧
        conn.sendOffset ≤ conn.sendLen
  | .receiving => sent = bytes
  | _ => sent <+: bytes

/-- Every slot is intact. -/
structure Intact (proxy : Proxy n) : Prop extends WellFormed proxy where
  slots : ∀ node slot,
    SlotIntact proxy.client.recvBuf (proxy.slot node slot)
      (sentBytes proxy node slot) (payload proxy node slot)

theorem SlotIntact.leads {buffer : Memory} {conn : UpstreamConn} {sent bytes : Memory}
    (intact : SlotIntact buffer conn sent bytes) :
    sent <+: bytes := by
  simp only [SlotIntact] at intact
  cases state : conn.state with
  | sending =>
      rw [state] at intact
      rw [intact.2.1]
      exact List.take_prefix _ _
  | receiving =>
      rw [state] at intact
      exact intact ▸ List.prefix_rfl
  | disconnected =>
      rw [state] at intact
      exact intact
  | connecting =>
      rw [state] at intact
      exact intact
  | connected =>
      rw [state] at intact
      exact intact

/-- Outside a transfer only the prefix matters. -/
theorem slotIntact_of_quiet {buffer : Memory} {conn : UpstreamConn} {sent bytes : Memory}
    (quiet : conn.inFlight = false) (leads : sent <+: bytes) :
    SlotIntact buffer conn sent bytes := by
  simp only [SlotIntact]
  cases state : conn.state with
  | sending => simp [UpstreamConn.inFlight, state] at quiet
  | receiving => simp [UpstreamConn.inFlight, state] at quiet
  | disconnected => exact leads
  | connecting => exact leads
  | connected => exact leads

theorem Intact.faithful {proxy : Proxy n} (intact : Intact proxy) : Faithful proxy := by
  intro node slot
  constructor
  · exact (intact.slots node slot).leads
  · intro receiving
    have slotIntact := intact.slots node slot
    simp only [SlotIntact, receiving] at slotIntact
    exact slotIntact

/-! ## One callback -/

/-- The bytes of one `send` continue what was sent before. -/
theorem take_append_of_sending (buffer : Memory) {offset taken len : Nat}
    (bounded : offset + taken ≤ len) :
    (buffer.take len).take offset ++ (buffer.drop offset).take taken =
      (buffer.take len).take (offset + taken) := by
  rw [List.take_take, List.take_take, min_eq_left (Nat.le_of_add_right_le bounded),
    min_eq_left bounded, List.take_add]

/-- Input and output on a connection keep its slot intact. -/
theorem ConnMove.slotIntact {buffer after : Memory} {conn : UpstreamConn}
    {outcome : ConnOutcome} {sent bytes : Memory} (move : ConnMove buffer conn outcome)
    (intact : SlotIntact buffer conn sent bytes)
    (stable : conn.state = .sending → after = buffer)
    (noError : outcome.upcall ≠ some .error) :
    SlotIntact after outcome.conn (sent ++ outcome.written) bytes := by
  cases move with
  | still =>
      simp only [ConnOutcome.quiet, List.append_nil]
      by_cases sending : conn.state = .sending
      · rw [stable sending]
        exact intact
      · simp only [SlotIntact] at intact ⊢
        cases state : conn.state with
        | sending => exact absurd state sending
        | disconnected => simpa [state] using intact
        | connecting => simpa [state] using intact
        | connected => simpa [state] using intact
        | receiving => simpa [state] using intact
  | closed quiet =>
      simp only [ConnOutcome.quiet, List.append_nil]
      exact slotIntact_of_quiet rfl intact.leads
  | connected connecting =>
      simp only [ConnOutcome.quiet, List.append_nil]
      exact slotIntact_of_quiet rfl intact.leads
  | broken busy => exact absurd rfl noError
  | wrote sending taken more =>
      rw [stable sending]
      simp only [SlotIntact, sending] at intact ⊢
      rcases intact with ⟨held, sent_eq, within⟩
      refine ⟨held, ?_, more.le⟩
      rw [sent_eq, ← held]
      exact take_append_of_sending buffer more.le
  | wroteAll sending taken bounded finished =>
      simp only [SlotIntact, sending] at intact
      rcases intact with ⟨held, sent_eq, within⟩
      have finished_eq : conn.sendOffset + taken = conn.sendLen := by omega
      change sent ++ (buffer.drop conn.sendOffset).take taken = bytes
      rw [sent_eq, ← held, take_append_of_sending buffer finished_eq.le, finished_eq,
        List.take_take, min_self]
  | read receiving chunk nonempty fits incomplete =>
      simp only [SlotIntact, receiving, List.append_nil, absorb_state] at intact ⊢
      exact intact
  | readAll receiving chunk nonempty fits complete =>
      simp only [SlotIntact, receiving, List.append_nil, absorb_state] at intact ⊢
      exact intact

/-- A callback that sends nothing new on a slot keeps it intact. -/
theorem SlotMove.slotIntact {env : Env} {proxy : Proxy n} {event : Event n} {node : Fin n}
    {slot : Fin 2} {effects past : List SlotEffect} {after : UpstreamConn} {bytes : Memory}
    (move : SlotMove env proxy event node slot effects after)
    (noStart : ∀ len, .started len ∉ effects)
    (intact : SlotIntact proxy.client.recvBuf (proxy.slot node slot) (writtenSince past) bytes)
    (stable : (proxy.slot node slot).state = .sending →
      bufferAfter proxy event = proxy.client.recvBuf) :
    SlotIntact (bufferAfter proxy event) after (writtenSince (effects ++ past)) bytes := by
  cases move with
  | kept =>
      have still := ConnMove.slotIntact .still intact stable (by simp [ConnOutcome.quiet])
      simpa [ConnOutcome.quiet] using still
  | io outcome move noResponse noError =>
      exact ConnMove.slotIntact move intact stable noError
  | answered chunk inIbd receiving nonempty complete active =>
      simp only [SlotIntact, receiving, absorb_state] at intact ⊢
      simpa [writtenSince] using intact
  | answeredReset chunk inIbd receiving nonempty complete =>
      refine slotIntact_of_quiet (by simp) ?_
      simpa [writtenSince] using intact.leads
  | broken after busy down =>
      refine slotIntact_of_quiet (by simp [UpstreamConn.inFlight, down]) ?_
      simpa [writtenSince] using intact.leads
  | started len => exact absurd (List.mem_singleton.mpr rfl) (noStart len)
  | swept sweeps => exact slotIntact_of_quiet (by simp) intact.leads
  | refreshed result fd standby refreshable =>
      refine slotIntact_of_quiet ?_ intact.leads
      have down := closedStandby_state refreshable
      rw [refreshed_eq refreshable]
      cases result <;> simp [UpstreamConn.inFlight, down]

/-- A send finds the request it is made for in the buffer. -/
theorem StartCause.take_eq {env : Env} {proxy : Proxy n} {event : Event n} {node : Fin n}
    {len : Nat} (wellFormed : WellFormed proxy) (stable : StableBuffer proxy event)
    (cause : StartCause env proxy event node len) :
    (bufferAfter proxy event).take len = latestRequest (step env proxy event).trace := by
  rcases cause with ⟨chunk, bytes, accepted, rfl⟩ |
    ⟨⟨slot, delivers, error⟩, active, retryable, rfl⟩
  · rcases step_explained env proxy event wellFormed with ⟨added, trace, silent, -⟩
    rcases Option.ne_none_iff_exists'.mp accepted with ⟨method, method_eq⟩
    rw [latestRequest, trace, requestPast_append silent, bufferAfter, bytes]
    simp only [acceptedRequest, bytes, method_eq, Option.bind_some, Option.map_some,
      Option.toList_some, List.singleton_append]
    rfl
  · rcases delivers.1 with ⟨connEvent, results, rfl⟩
    rw [latestRequest, step_requestPast env _ wellFormed rfl]
    exact stable.2 node slot delivers error active retryable

theorem step_intact (env : Env) (proxy : Proxy n) (event : Event n) (intact : Intact proxy)
    (stable : StableBuffer proxy event) :
    Intact (step env proxy event) where
  toWellFormed := step_wellFormed env proxy event intact.toWellFormed
  slots node slot := by
    have wellFormed := intact.toWellFormed
    rcases step_explained env proxy event wellFormed with ⟨added, trace, silent, moves⟩
    have history : slotTrace node slot (step env proxy event).trace =
        slotTrace node slot added ++ slotTrace node slot proxy.trace := by
      rw [trace, slotTrace_append, slotTrace_append, slotTrace_acceptedRequest, List.nil_append]
    have move := moves node slot
    rw [step_recvBuf env proxy event wellFormed, sentBytes, history]
    by_cases starts : ∃ len, .started len ∈ slotTrace node slot added
    · rcases starts with ⟨len, member⟩
      -- the last send on the slot is the one of this callback
      have latest : payload (step env proxy event) node slot =
          latestRequest (step env proxy event).trace := by
        rw [payload, latestRequest, trace, requestPast_startPast_append member silent,
          latestRequest]
      rw [latest]
      generalize slotTrace node slot added = effects at move member
      generalize (step env proxy event).slot node slot = after at move
      cases move with
      | started len nonempty connected cause =>
          have held := StartCause.take_eq wellFormed stable cause
          exact ⟨held, List.take_zero.symm, Nat.zero_le _⟩
      | _ => simp at member
    · have noStart : ∀ len, .started len ∉ slotTrace node slot added := by
        intro len member
        exact starts ⟨len, member⟩
      have same : payload (step env proxy event) node slot = payload proxy node slot := by
        rw [payload, payload, trace, startPast_append noStart, startPast_append (by simp)]
      rw [same]
      apply SlotMove.slotIntact move noStart (intact.slots node slot)
      intro sending
      cases bytes : storedChunk proxy event with
      | none => simp [bufferAfter, bytes]
      | some chunk => exact absurd sending (stable.1 (by simp [bytes]) node slot)

theorem rpcProxyCreate_intact (boot : Boot n) : Intact (rpcProxyCreate boot) where
  toWellFormed := rpcProxyCreate_wellFormed boot
  slots node slot := by
    apply slotIntact_of_quiet (rpcProxyCreate_quiet boot node slot)
    exact List.nil_prefix

/-! ## Runs -/

/--
While the buffer is stable, every slot sends the bytes of its request and
nothing else, whatever else happens.
-/
theorem faithful_of_stableBuffer (env : Env) (boot : Boot n) (events : List (Event n))
    (guarded : Along (step env) StableBuffer (rpcProxyCreate boot) events) :
    Throughout (step env) Faithful (rpcProxyCreate boot) events := by
  apply Throughout.mono fun proxy (intact : Intact proxy) => intact.faithful
  exact throughout_of_along (step_intact env) (rpcProxyCreate_intact boot) guarded

/--
A connection breaks after a part of the request.  The retry sends it again
in two parts, and the client's next bytes come only after that.
-/
def retriedRequest : List (Event 1) :=
  [clientConnects, clientSends addressRequest,
    slotWrites 0 0 20, slotFails 0 0,
    slotWrites 0 1 30, slotWrites 0 1 1000,
    clientSends blockRequest,
    slotReads 0 1 doneResponse [.accepted 1000]]

theorem faithful_of_stableBuffer_retriedRequest :
    Along (step exampleEnv) StableBuffer (rpcProxyCreate (exampleBoot 1)) retriedRequest ∧
      Throughout (step exampleEnv) Faithful (rpcProxyCreate (exampleBoot 1)) retriedRequest := by
  have guarded : Along (step exampleEnv) StableBuffer (rpcProxyCreate (exampleBoot 1))
      retriedRequest := by
    decide +kernel
  exact ⟨guarded, faithful_of_stableBuffer exampleEnv (exampleBoot 1) retriedRequest guarded⟩

/-! ## An overwritten buffer -/

/--
The node has taken the first bytes of a request when the client sends the
next one, which is dropped; then the node takes the rest.
-/
def overwrittenRequest : List (Event 1) :=
  [clientConnects, clientSends addressRequest,
    slotWrites 0 0 20,
    clientSends blockRequest,
    slotWrites 0 0 1000]

/-- The node receives the head of the first request with the tail of the second. -/
theorem overwrittenRequest_not_faithful :
    ¬ Throughout (step exampleEnv) Faithful (rpcProxyCreate (exampleBoot 1))
      overwrittenRequest := by
  intro faithful
  have mixed :
      ((exampleRun 1 overwrittenRequest).slot 0 0).state = .receiving ∧
        sentBytes (exampleRun 1 overwrittenRequest) 0 0 ≠
          payload (exampleRun 1 overwrittenRequest) 0 0 := by
    decide +kernel
  have last : Faithful (exampleRun 1 overwrittenRequest) := throughout_end faithful
  exact mixed.2 ((last 0 0).2 mixed.1)

end RpcRace.RequestBytes
