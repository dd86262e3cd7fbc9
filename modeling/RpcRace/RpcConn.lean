import RpcRace.Library.CString

/-!
# Upstream HTTP connections

The model of `rpc_conn.c`.  An `UpstreamConn` is one TCP connection to a
Bitcoin node: its descriptor and epoll interest, the request it is sending,
and the response it is framing.  Operations are pure functions on it; the
kernel's answers to `send`, `recv`, `connect` and `getsockopt` are arguments.

The request is sent zero-copy: the connection keeps only a pointer, and
`connEpollCb` reads the shared buffer as it is at the time of each `send`.
Descriptor numbers stand for the connections themselves and are never reused.
Log messages, labels and request timestamps are left out.
-/

namespace RpcRace.RpcConn

open RpcRace.Library.CString

/-- `SOCKET_BUF_SIZE`: the capacity of every receive buffer. -/
def socketBufSize : Nat := 4194304

/-- `conn_state_t`. -/
inductive ConnState where
  | disconnected
  | connecting
  | connected
  | sending
  | receiving
deriving DecidableEq, Repr

/-- The epoll events a registered descriptor is watched for. -/
structure Interest where
  epollIn : Bool
  epollOut : Bool
deriving DecidableEq, Repr

/-- The two values `cb.on_connected` takes. -/
inductive ConnectedCallback where
  | slotOnConnected
  | standbyOnConnected
deriving DecidableEq, Repr

/--
`upstream_conn_t`.

`fd = none` is the descriptor `-1`, and `interest` is its registration with
the event loop.  `sendBuf` says whether `send_buf` points at the shared
request buffer or is null.
-/
structure UpstreamConn where
  fd : Option Nat
  interest : Option Interest
  state : ConnState
  inIbd : Bool
  sendBuf : Bool
  sendLen : Nat
  sendOffset : Nat
  recvBuf : Memory
  recvLen : Nat
  contentLength : Nat
  headerLen : Nat
  headersComplete : Bool
  connectionClose : Bool
  onConnected : ConnectedCallback

/-- A request is on the wire: `CONN_SENDING` or `CONN_RECEIVING`. -/
def UpstreamConn.inFlight (conn : UpstreamConn) : Bool :=
  conn.state = .sending || conn.state = .receiving

/-! ## Response framing -/

/--
The loop over `i + 3 < len` that looks for the empty line: the offset just
past the first CR LF CR LF.
-/
def findHeaderEnd : Memory → Option Nat
  | [] => none
  | byte :: rest =>
      if (byte :: rest).take 4 = [13, 10, 13, 10] then some 4
      else (findHeaderEnd rest).map (· + 1)

/-- A space or a tab. -/
def isBlank (byte : Byte) : Bool :=
  byte = 32 || byte = 9

/--
The memory after the first occurrence of a field name before `headerEnd`
and the blanks that follow it.
-/
def fieldValue (memory name : Memory) (headerEnd : Nat) : Option Memory :=
  match strcasestr memory name with
  | none => none
  | some position =>
      if position < headerEnd then
        some ((memory.drop (position + name.length)).dropWhile isBlank)
      else none

/-- The `Content-Length` value of a header block, zero if there is none. -/
def contentLengthField (memory : Memory) (headerEnd : Nat) : Nat :=
  match fieldValue memory (ascii "Content-Length:") headerEnd with
  | none => 0
  | some value => strtoull value

/-- Whether a header block carries `Connection: close`. -/
def connectionCloseField (memory : Memory) (headerEnd : Nat) : Bool :=
  match fieldValue memory (ascii "Connection:") headerEnd with
  | none => false
  | some value => startsIgnoringCase (ascii "close") value

/--
`parse_headers`.  The C function returns one exactly when the resulting
connection has `headersComplete`.
-/
def parseHeaders (conn : UpstreamConn) : UpstreamConn :=
  if conn.headersComplete then conn
  else
    match findHeaderEnd (conn.recvBuf.take conn.recvLen) with
    | none => conn
    | some headerEnd =>
        { conn with
          headerLen := headerEnd
          headersComplete := true
          contentLength := contentLengthField conn.recvBuf headerEnd
          connectionClose := connectionCloseField conn.recvBuf headerEnd }

section ParseHeaders

variable (conn : UpstreamConn)

@[simp]
theorem parseHeaders_state : (parseHeaders conn).state = conn.state := by
  unfold parseHeaders
  split
  · rfl
  · split <;> rfl

@[simp]
theorem parseHeaders_recvBuf : (parseHeaders conn).recvBuf = conn.recvBuf := by
  unfold parseHeaders
  split
  · rfl
  · split <;> rfl

@[simp]
theorem parseHeaders_recvLen : (parseHeaders conn).recvLen = conn.recvLen := by
  unfold parseHeaders
  split
  · rfl
  · split <;> rfl

@[simp]
theorem parseHeaders_fd : (parseHeaders conn).fd = conn.fd := by
  unfold parseHeaders
  split
  · rfl
  · split <;> rfl

@[simp]
theorem parseHeaders_interest : (parseHeaders conn).interest = conn.interest := by
  unfold parseHeaders
  split
  · rfl
  · split <;> rfl

@[simp]
theorem parseHeaders_inIbd : (parseHeaders conn).inIbd = conn.inIbd := by
  unfold parseHeaders
  split
  · rfl
  · split <;> rfl

@[simp]
theorem parseHeaders_sendBuf : (parseHeaders conn).sendBuf = conn.sendBuf := by
  unfold parseHeaders
  split
  · rfl
  · split <;> rfl

@[simp]
theorem parseHeaders_onConnected : (parseHeaders conn).onConnected = conn.onConnected := by
  unfold parseHeaders
  split
  · rfl
  · split <;> rfl

end ParseHeaders

/-- `header_len + content_length` in `size_t` arithmetic. -/
def UpstreamConn.expected (conn : UpstreamConn) : Nat :=
  (conn.headerLen + conn.contentLength) % sizeModulus

/-- `rpc_conn_response_complete`. -/
def rpcConnResponseComplete (conn : UpstreamConn) : Bool :=
  conn.headersComplete && conn.expected ≤ conn.recvLen

/-- `rpc_conn_get_response`: the body slice, or `none` for the result `-1`. -/
def rpcConnGetResponse (conn : UpstreamConn) : Option Memory :=
  if rpcConnResponseComplete conn then
    some ((conn.recvBuf.drop conn.headerLen).take conn.contentLength)
  else none

/-! ## Connection operations -/

/-- `event_loop_mod_fd` on this connection's descriptor. -/
@[simps]
def UpstreamConn.modFd (conn : UpstreamConn) (interest : Interest) : UpstreamConn :=
  { conn with interest := conn.interest.map fun _ => interest }

/-- `event_loop_del_fd`, `close` and `fd = -1`, then `CONN_DISCONNECTED`. -/
@[simps]
def UpstreamConn.dropFd (conn : UpstreamConn) : UpstreamConn :=
  { conn with fd := none, interest := none, state := .disconnected }

/-- `rpc_conn_init`, with the given uninitialised receive buffer. -/
def rpcConnInit (recvBuf : Memory) (callback : ConnectedCallback) : UpstreamConn where
  fd := none
  interest := none
  state := .disconnected
  inIbd := false
  sendBuf := false
  sendLen := 0
  sendOffset := 0
  recvBuf := recvBuf
  recvLen := 0
  contentLength := 0
  headerLen := 0
  headersComplete := false
  connectionClose := false
  onConnected := callback

/--
What the kernel does with a non-blocking `connect`.  Every failing step of
`rpc_conn_connect` (`socket`, the address, `connect`, the registration) is
`failed`: all of them close the descriptor and leave it at `-1`.
-/
inductive ConnectResult where
  | failed
  | inProgress
  | immediate
deriving DecidableEq, Repr

/--
`rpc_conn_connect` on a fresh descriptor.  The Boolean says that the
connection was established at once, so that `on_connected` is called.
-/
def rpcConnConnect (conn : UpstreamConn) (result : ConnectResult) (fd : Nat) :
    UpstreamConn × Bool :=
  if conn.state ≠ .disconnected then (conn, false)
  else
    match result with
    | .failed => (conn, false)
    | .immediate =>
        ({ conn with fd := some fd, interest := some ⟨true, false⟩, state := .connected }, true)
    | .inProgress =>
        ({ conn with fd := some fd, interest := some ⟨false, true⟩, state := .connecting }, false)

/-- `CONN_CONNECTED` becomes `CONN_SENDING`. -/
def UpstreamConn.beginSend (conn : UpstreamConn) (len : Nat) : UpstreamConn :=
  { conn with sendBuf := true, sendLen := len, sendOffset := 0, state := .sending }.modFd
    ⟨true, true⟩

/-- `rpc_conn_send`; `none` is the result `-1`. -/
def rpcConnSend (conn : UpstreamConn) (len : Nat) : Option UpstreamConn :=
  if len = 0 then none
  else if conn.state ≠ .connected then none
  else some (conn.beginSend len)

theorem rpcConnSend_eq_some {conn sent : UpstreamConn} {len : Nat} :
    rpcConnSend conn len = some sent ↔
      len ≠ 0 ∧ conn.state = .connected ∧ sent = conn.beginSend len := by
  unfold rpcConnSend
  split_ifs with empty other
  · simp [empty]
  · simp [other]
  · simp only [Option.some.injEq, ne_eq, empty, not_false_eq_true, true_and]
    rw [not_not] at other
    simp [other, eq_comm]

/-- `rpc_conn_disconnect`. -/
@[simps]
def rpcConnDisconnect (conn : UpstreamConn) : UpstreamConn :=
  { conn.dropFd with
    sendBuf := false
    sendLen := 0
    sendOffset := 0
    recvLen := 0
    headersComplete := false
    contentLength := 0
    headerLen := 0
    connectionClose := false }

/-- The part of `rpc_conn_reset` that runs in every state. -/
@[simps]
def UpstreamConn.clearTransfer (conn : UpstreamConn) : UpstreamConn :=
  { conn with
    sendBuf := false
    sendLen := 0
    sendOffset := 0
    recvLen := 0
    headersComplete := false
    contentLength := 0
    headerLen := 0 }

/-- `rpc_conn_reset`. -/
def rpcConnReset (conn : UpstreamConn) : UpstreamConn :=
  if conn.connectionClose then
    rpcConnDisconnect conn.clearTransfer
  else if conn.inFlight then
    { conn.clearTransfer with state := .connected }.modFd ⟨true, false⟩
  else conn.clearTransfer

@[simp]
theorem rpcConnReset_inFlight (conn : UpstreamConn) :
    (rpcConnReset conn).inFlight = false := by
  unfold rpcConnReset
  split_ifs with closing busy
  · simp [UpstreamConn.inFlight]
  · simp [UpstreamConn.inFlight]
  · simpa [UpstreamConn.inFlight] using busy

/-- A reset leaves a connection without a request pointer. -/
@[simp]
theorem rpcConnReset_sendBuf (conn : UpstreamConn) :
    (rpcConnReset conn).sendBuf = false := by
  unfold rpcConnReset
  split_ifs <;> simp

/-- A reset never opens a connection. -/
theorem rpcConnReset_state (conn : UpstreamConn) :
    (rpcConnReset conn).state = .disconnected ∨
      (rpcConnReset conn).state = .connected ∧ conn.inFlight = true ∨
      (rpcConnReset conn).state = conn.state ∧ conn.inFlight = false := by
  unfold rpcConnReset
  split_ifs with closing busy
  · simp
  · simp [busy]
  · simp [Bool.eq_false_iff.mpr busy]

/-! ## The epoll callback -/

/-- Result of one non-blocking `recv`; `data []` is the end of the stream. -/
inductive RecvResult where
  | again
  | failed
  | data (bytes : Memory)
deriving DecidableEq, Repr

/-- Result of one non-blocking `send`; the kernel takes at most what it is given. -/
inductive SendResult where
  | again
  | failed
  | accepted (count : Nat)
deriving DecidableEq, Repr

/--
One epoll event on an upstream descriptor, with the kernel's answers to the
system calls the handler may make.
-/
structure ConnEvent where
  errHup : Bool
  epollIn : Bool
  epollOut : Bool
  soError : Bool
  sendResult : SendResult
  recvResult : RecvResult

/-- The callback that the handler ends with. -/
inductive Upcall where
  | connected
  | response
  | error
deriving DecidableEq, Repr

/-- Effect of one epoll event: the new connection and the bytes moved. -/
structure ConnOutcome where
  conn : UpstreamConn
  upcall : Option Upcall
  written : Memory
  received : Memory

/-- An outcome that moves no bytes. -/
def ConnOutcome.quiet (conn : UpstreamConn) (upcall : Option Upcall) : ConnOutcome :=
  ⟨conn, upcall, [], []⟩

/-- The `CONN_CONNECTING` case of `conn_epoll_cb`. -/
def onConnectingEvent (conn : UpstreamConn) (event : ConnEvent) : ConnOutcome :=
  if event.epollOut then
    if event.soError then .quiet conn.dropFd none
    else .quiet ({ conn with state := .connected }.modFd ⟨true, false⟩) (some .connected)
  else .quiet conn none

/-- All bytes are sent: `CONN_SENDING` becomes `CONN_RECEIVING`. -/
def UpstreamConn.beginReceive (conn : UpstreamConn) (taken : Nat) : UpstreamConn :=
  { conn with
    sendOffset := conn.sendOffset + taken
    state := .receiving
    recvLen := 0
    headersComplete := false
    contentLength := 0
    headerLen := 0
    connectionClose := false }.modFd ⟨true, false⟩

/-- The `CONN_SENDING` case of `conn_epoll_cb`. -/
def onSendingEvent (shared : Memory) (conn : UpstreamConn) (event : ConnEvent) : ConnOutcome :=
  if event.epollOut then
    match event.sendResult with
    | .again => .quiet conn none
    | .failed => .quiet conn.dropFd (some .error)
    | .accepted count =>
        let taken := min count (conn.sendLen - conn.sendOffset)
        let bytes := (shared.drop conn.sendOffset).take taken
        if conn.sendOffset + taken ≥ conn.sendLen then ⟨conn.beginReceive taken, none, bytes, []⟩
        else ⟨{ conn with sendOffset := conn.sendOffset + taken }, none, bytes, []⟩
  else .quiet conn none

/-- Store a received chunk and try to frame the response. -/
def UpstreamConn.absorb (conn : UpstreamConn) (chunk : Memory) : UpstreamConn :=
  parseHeaders
    { conn with
      recvBuf := writeAt conn.recvBuf conn.recvLen chunk
      recvLen := conn.recvLen + chunk.length }

@[simp]
theorem absorb_state (conn : UpstreamConn) (chunk : Memory) :
    (conn.absorb chunk).state = conn.state := by
  simp [UpstreamConn.absorb]

@[simp]
theorem absorb_recvLen (conn : UpstreamConn) (chunk : Memory) :
    (conn.absorb chunk).recvLen = conn.recvLen + chunk.length := by
  simp [UpstreamConn.absorb]

@[simp]
theorem absorb_recvBuf (conn : UpstreamConn) (chunk : Memory) :
    (conn.absorb chunk).recvBuf = writeAt conn.recvBuf conn.recvLen chunk := by
  simp [UpstreamConn.absorb]

@[simp]
theorem absorb_fd (conn : UpstreamConn) (chunk : Memory) :
    (conn.absorb chunk).fd = conn.fd := by
  simp [UpstreamConn.absorb]

@[simp]
theorem absorb_inIbd (conn : UpstreamConn) (chunk : Memory) :
    (conn.absorb chunk).inIbd = conn.inIbd := by
  simp [UpstreamConn.absorb]

@[simp]
theorem absorb_sendBuf (conn : UpstreamConn) (chunk : Memory) :
    (conn.absorb chunk).sendBuf = conn.sendBuf := by
  simp [UpstreamConn.absorb]

@[simp]
theorem absorb_onConnected (conn : UpstreamConn) (chunk : Memory) :
    (conn.absorb chunk).onConnected = conn.onConnected := by
  simp [UpstreamConn.absorb]

/-- The `CONN_RECEIVING` case of `conn_epoll_cb`. -/
def onReceivingEvent (conn : UpstreamConn) (event : ConnEvent) : ConnOutcome :=
  if event.epollIn then
    if socketBufSize - conn.recvLen = 0 then .quiet conn.dropFd (some .error)
    else
      match event.recvResult with
      | .again => .quiet conn none
      | .failed => .quiet conn.dropFd (some .error)
      | .data bytes =>
          let chunk := bytes.take (socketBufSize - conn.recvLen)
          if chunk = [] then .quiet conn.dropFd (some .error)
          else
            let absorbed := conn.absorb chunk
            ⟨absorbed, if rpcConnResponseComplete absorbed then some .response else none,
              [], chunk⟩
  else .quiet conn none

/-- The `CONN_CONNECTED` case of `conn_epoll_cb`: a one-byte peek. -/
def onConnectedEvent (conn : UpstreamConn) (event : ConnEvent) : ConnOutcome :=
  if event.epollIn ∧ event.recvResult = .data [] then .quiet conn.dropFd none
  else .quiet conn none

/--
`conn_epoll_cb`.  Every callback of the C function is the last statement of
its branch, so it is returned and run by the caller.
-/
def connEpollCb (shared : Memory) (conn : UpstreamConn) (event : ConnEvent) : ConnOutcome :=
  if event.errHup then
    .quiet conn.dropFd (if conn.inFlight then some .error else none)
  else
    match conn.state with
    | .connecting => onConnectingEvent conn event
    | .sending => onSendingEvent shared conn event
    | .receiving => onReceivingEvent conn event
    | .connected => onConnectedEvent conn event
    | .disconnected => .quiet conn none

/-! ## What one event can do -/

/--
The outcomes of `conn_epoll_cb`, one constructor for each kind of branch.
`broken` stands for every branch that closes a busy connection and reports
an error, `closed` for those that close an idle one silently.
-/
inductive ConnMove (shared : Memory) (conn : UpstreamConn) : ConnOutcome → Prop where
  | still :
      ConnMove shared conn (.quiet conn none)
  | closed (quiet : conn.inFlight = false) :
      ConnMove shared conn (.quiet conn.dropFd none)
  | connected (connecting : conn.state = .connecting) :
      ConnMove shared conn
        (.quiet ({ conn with state := .connected }.modFd ⟨true, false⟩) (some .connected))
  | broken (busy : conn.inFlight = true) :
      ConnMove shared conn (.quiet conn.dropFd (some .error))
  | wrote (sending : conn.state = .sending) (taken : Nat)
      (more : conn.sendOffset + taken < conn.sendLen) :
      ConnMove shared conn
        ⟨{ conn with sendOffset := conn.sendOffset + taken }, none,
          (shared.drop conn.sendOffset).take taken, []⟩
  | wroteAll (sending : conn.state = .sending) (taken : Nat)
      (bounded : taken ≤ conn.sendLen - conn.sendOffset)
      (finished : conn.sendLen ≤ conn.sendOffset + taken) :
      ConnMove shared conn
        ⟨conn.beginReceive taken, none, (shared.drop conn.sendOffset).take taken, []⟩
  | read (receiving : conn.state = .receiving) (chunk : Memory) (nonempty : chunk ≠ [])
      (fits : chunk.length ≤ socketBufSize - conn.recvLen)
      (incomplete : rpcConnResponseComplete (conn.absorb chunk) = false) :
      ConnMove shared conn ⟨conn.absorb chunk, none, [], chunk⟩
  | readAll (receiving : conn.state = .receiving) (chunk : Memory) (nonempty : chunk ≠ [])
      (fits : chunk.length ≤ socketBufSize - conn.recvLen)
      (complete : rpcConnResponseComplete (conn.absorb chunk) = true) :
      ConnMove shared conn ⟨conn.absorb chunk, some .response, [], chunk⟩

/-- Every event is one of the moves. -/
theorem connEpollCb_move (shared : Memory) (conn : UpstreamConn) (event : ConnEvent) :
    ConnMove shared conn (connEpollCb shared conn event) := by
  unfold connEpollCb
  split
  · cases busy : conn.inFlight with
    | true => exact .broken busy
    | false => exact .closed busy
  · cases state : conn.state with
    | disconnected => exact .still
    | connecting =>
        have quiet : conn.inFlight = false := by simp [UpstreamConn.inFlight, state]
        simp only [onConnectingEvent]
        split_ifs
        · exact .closed quiet
        · exact .connected state
        · exact .still
    | connected =>
        have quiet : conn.inFlight = false := by simp [UpstreamConn.inFlight, state]
        simp only [onConnectedEvent]
        split_ifs
        · exact .closed quiet
        · exact .still
    | sending =>
        have busy : conn.inFlight = true := by simp [UpstreamConn.inFlight, state]
        simp only [onSendingEvent]
        split_ifs
        · cases event.sendResult with
          | again => exact .still
          | failed => exact .broken busy
          | accepted count =>
              dsimp only
              split_ifs with full
              · exact .wroteAll state _ (Nat.min_le_right _ _) full
              · exact .wrote state _ (Nat.lt_of_not_le full)
        · exact .still
    | receiving =>
        have busy : conn.inFlight = true := by simp [UpstreamConn.inFlight, state]
        simp only [onReceivingEvent]
        split_ifs
        · exact .broken busy
        · cases event.recvResult with
          | again => exact .still
          | failed => exact .broken busy
          | data bytes =>
              dsimp only
              split_ifs with empty complete
              · exact .broken busy
              · exact .readAll state _ empty (List.length_take_le _ _) complete
              · exact .read state _ empty (List.length_take_le _ _) (by simpa using complete)
        · exact .still

/-- An event never puts a request in flight. -/
theorem ConnMove.inFlight_of_inFlight {shared : Memory} {conn : UpstreamConn}
    {outcome : ConnOutcome} (move : ConnMove shared conn outcome)
    (busy : outcome.conn.inFlight = true) :
    conn.inFlight = true := by
  cases move with
  | still => exact busy
  | closed quiet => simp [ConnOutcome.quiet, UpstreamConn.inFlight] at busy
  | connected connecting => simp [ConnOutcome.quiet, UpstreamConn.inFlight] at busy
  | broken wasBusy => exact wasBusy
  | wrote sending taken more => exact busy
  | wroteAll sending taken bounded finished => simp [UpstreamConn.inFlight, sending]
  | read receiving chunk nonempty fits incomplete => simp [UpstreamConn.inFlight, receiving]
  | readAll receiving chunk nonempty fits complete => simp [UpstreamConn.inFlight, receiving]

/-- A connect completes only on a connecting slot, which keeps its callback. -/
theorem ConnMove.of_connected {shared : Memory} {conn : UpstreamConn} {outcome : ConnOutcome}
    (move : ConnMove shared conn outcome) (connected : outcome.upcall = some .connected) :
    conn.state = .connecting ∧ outcome.conn.state = .connected ∧
      outcome.conn.onConnected = conn.onConnected := by
  cases move with
  | connected connecting => exact ⟨connecting, rfl, rfl⟩
  | _ => simp [ConnOutcome.quiet] at connected

/-- Any other event neither opens a connection nor changes its callback. -/
theorem ConnMove.unopened {shared : Memory} {conn : UpstreamConn} {outcome : ConnOutcome}
    (move : ConnMove shared conn outcome) (other : outcome.upcall ≠ some .connected) :
    (outcome.conn.state = .connected → conn.state = .connected) ∧
      (outcome.conn.state = .connecting → conn.state = .connecting) ∧
      outcome.conn.onConnected = conn.onConnected := by
  cases move with
  | still => exact ⟨id, id, rfl⟩
  | closed => simp [ConnOutcome.quiet]
  | connected => exact absurd rfl other
  | broken => simp [ConnOutcome.quiet]
  | wrote sending => simp [sending]
  | wroteAll sending => simp [UpstreamConn.beginReceive]
  | read receiving => simp [receiving]
  | readAll receiving => simp [receiving]

/-- A response is delivered only on a receiving connection that completes with this read. -/
theorem ConnMove.of_response {shared : Memory} {conn : UpstreamConn} {outcome : ConnOutcome}
    (move : ConnMove shared conn outcome) (response : outcome.upcall = some .response) :
    conn.state = .receiving ∧
      ∃ chunk, chunk ≠ [] ∧ outcome = ⟨conn.absorb chunk, some .response, [], chunk⟩ ∧
        rpcConnResponseComplete (conn.absorb chunk) = true := by
  cases move with
  | readAll receiving chunk nonempty fits complete =>
      exact ⟨receiving, chunk, nonempty, rfl, complete⟩
  | _ => simp [ConnOutcome.quiet] at response

/-- An error is reported only on a busy connection, which it closes. -/
theorem ConnMove.of_error {shared : Memory} {conn : UpstreamConn} {outcome : ConnOutcome}
    (move : ConnMove shared conn outcome) (error : outcome.upcall = some .error) :
    conn.inFlight = true ∧ outcome = .quiet conn.dropFd (some .error) := by
  cases move with
  | broken busy => exact ⟨busy, rfl⟩
  | _ => simp [ConnOutcome.quiet] at error

end RpcRace.RpcConn
