import RpcRace.ProxyMoves
import RpcRace.EventLoop

/-!
# Connections and their registrations

`rpc_conn.c` keeps the state of a connection, its descriptor and its
registration with the event loop in three places, and about a dozen branches
set them one by one.  Here any number of slots share one event loop with the
other modules of the program.  Next to the connection functions stand the
calls that they make to the loop and to the kernel, in the order of the source,
and `represented_of_run` says that the three places agree after every sequence
of operations and epoll events.

A callback of `conn_epoll_cb` or `rpc_conn_connect` is the last statement of its
branch, so what it does to this slot or to others are the next operations of
the sequence.  Descriptor numbers are handed out as the kernel does it and are
reused.  The other modules may do anything with the descriptors that they have
opened, and with no others.
-/

namespace RpcRace.Registration

open RpcRace.Library.CString
open RpcRace.Library.Run
open RpcRace.RpcConn
open RpcRace.RpcProxy
open RpcRace.PairMoves
open RpcRace.ProxyMoves
open RpcRace.EventLoop

variable {Slot : Type}

/-! ## The calls of a connection -/

/-- The callbacks in the map: `conn_epoll_cb` with its slot, or one of another module. -/
inductive Callback (Slot : Type) where
  | connEpollCb (slot : Slot)
  | other
deriving DecidableEq, Repr

/-- `EPOLLOUT`. -/
def epollOut : UInt32 := 4

/-- The events of an interest as `epoll_ctl` takes them. -/
def mask (interest : Interest) : UInt32 :=
  (if interest.epollIn then epollIn else 0) ||| (if interest.epollOut then epollOut else 0)

/-- `event_loop_mod_fd`, which rejects the descriptor `-1`. -/
def modFdCalls (conn : UpstreamConn) (events : UInt32) : List (Action (Callback Slot)) :=
  match conn.fd with
  | none => []
  | some fd => [.modFd fd events]

/-- `event_loop_del_fd` and `close`, which reject the descriptor `-1`. -/
def dropFdCalls (conn : UpstreamConn) : List (Action (Callback Slot)) :=
  match conn.fd with
  | none => []
  | some fd => [.delFd fd, .close fd]

/-- The calls of `rpc_conn_send`. -/
def sendCalls (conn : UpstreamConn) (len : Nat) : List (Action (Callback Slot)) :=
  if len = 0 then []
  else if conn.state ≠ .connected then []
  else modFdCalls conn (epollIn ||| epollOut)

/-- The calls of `rpc_conn_reset`. -/
def resetCalls (conn : UpstreamConn) : List (Action (Callback Slot)) :=
  if conn.connectionClose then dropFdCalls conn
  else if conn.inFlight then modFdCalls conn epollIn
  else []

/-- The calls of `conn_epoll_cb`, up to the callback at its end. -/
def epollCalls (conn : UpstreamConn) (event : ConnEvent) : List (Action (Callback Slot)) :=
  if event.errHup then dropFdCalls conn
  else
    match conn.state with
    | .connecting =>
        if event.epollOut then
          if event.soError then dropFdCalls conn else modFdCalls conn epollIn
        else []
    | .sending =>
        if event.epollOut then
          match event.sendResult with
          | .again => []
          | .failed => dropFdCalls conn
          | .accepted count =>
              let taken := min count (conn.sendLen - conn.sendOffset)
              if conn.sendOffset + taken ≥ conn.sendLen then modFdCalls conn epollIn else []
        else []
    | .receiving =>
        if event.epollIn then
          if socketBufSize - conn.recvLen = 0 then dropFdCalls conn
          else
            match event.recvResult with
            | .again => []
            | .failed => dropFdCalls conn
            | .data bytes =>
                if bytes.take (socketBufSize - conn.recvLen) = [] then dropFdCalls conn else []
        else []
    | .connected =>
        if event.epollIn ∧ event.recvResult = .data [] then dropFdCalls conn else []
    | .disconnected => []

/-! ## The system -/

/-- The slots, the event loop they share, and the descriptors of the other modules. -/
structure System (Slot : Type) where
  loop : Loop (Callback Slot)
  conns : Slot → UpstreamConn
  others : List Nat

/-- All slots after `rpc_conn_init`. -/
def System.create (recvBuf : Slot → Memory) (callback : Slot → ConnectedCallback) :
    System Slot where
  loop := eventLoopCreate
  conns slot := rpcConnInit (recvBuf slot) (callback slot)
  others := (eventLoopCreate : Loop (Callback Slot)).opened

/-- The kernel's answers to the calls of `rpc_conn_connect`. -/
structure Attempt where
  /-- `socket` succeeds. -/
  created : Bool
  /-- The address is valid, and the result of `connect`. -/
  result : ConnectResult
  /-- The event loop has memory for the registration. -/
  accepted : Bool

/-- `event_loop_add_fd` returns zero. -/
def addsFd (loop : Loop (Callback Slot)) (fd : Nat) (accepted : Bool) : Bool :=
  (loop.fdMap fd).isEmpty && accepted && decide (fd ∈ loop.opened) && (loop.watched fd).isNone

section Operations

variable [DecidableEq Slot]

/-- A slot makes some calls and is `conn` afterwards. -/
def System.put (system : System Slot) (slot : Slot) (conn : UpstreamConn)
    (calls : List (Action (Callback Slot))) : System Slot :=
  { system with
    loop := run act system.loop calls
    conns := Function.update system.conns slot conn }

/-- The registration at the end of `rpc_conn_connect`, and what is undone if it fails. -/
def System.register (system : System Slot) (slot : Slot) (conn : UpstreamConn) (fd : Nat)
    (events : UInt32) (accepted : Bool) : System Slot :=
  let loop := eventLoopAddFd system.loop fd events (.connEpollCb slot) accepted
  if addsFd system.loop fd accepted then
    { system with loop := loop, conns := Function.update system.conns slot conn }
  else
    { system with
      loop := act loop (.close fd)
      conns := Function.update system.conns slot
        { system.conns slot with fd := none, state := .disconnected } }

/-- `rpc_conn_connect`. -/
def System.connect (system : System Slot) (slot : Slot) (attempt : Attempt) : System Slot :=
  let conn := system.conns slot
  if conn.state ≠ .disconnected ∨ attempt.created = false then system
  else
    let fd := lowestUnused system.loop.opened
    let opened := { system with loop := act system.loop .open_ }
    match attempt.result with
    | .failed => { opened with loop := act opened.loop (.close fd) }
    | .immediate =>
        opened.register slot (rpcConnConnect conn .immediate fd).1 fd epollIn attempt.accepted
    | .inProgress =>
        opened.register slot (rpcConnConnect conn .inProgress fd).1 fd epollOut attempt.accepted

/-- What another module does with a descriptor that it has opened. -/
inductive Use where
  | add (events : UInt32) (accepted : Bool)
  | mod (events : UInt32)
  | del
  | close
deriving DecidableEq, Repr

def Use.call (fd : Nat) : Use → Action (Callback Slot)
  | .add events accepted => .addFd fd events .other accepted
  | .mod events => .modFd fd events
  | .del => .delFd fd
  | .close => .close fd

/-- One operation on a slot, one epoll event, or an action of another module. -/
inductive Operation (Slot : Type) where
  | connect (slot : Slot) (attempt : Attempt)
  | send (slot : Slot) (len : Nat)
  | reset (slot : Slot)
  | disconnect (slot : Slot)
  /-- `event_loop_run` looks the descriptor up; `shared` is what `send_buf` points at. -/
  | epoll (fd : Nat) (shared : Memory) (event : ConnEvent)
  | otherOpens
  | otherTimer (ms : Nat) (created : Bool)
  | otherUses (index : Nat) (use : Use)

/-- Carry one operation out. -/
def perform (system : System Slot) : Operation Slot → System Slot
  | .connect slot attempt => system.connect slot attempt
  | .send slot len =>
      system.put slot ((rpcConnSend (system.conns slot) len).getD (system.conns slot))
        (sendCalls (system.conns slot) len)
  | .reset slot =>
      system.put slot (rpcConnReset (system.conns slot)) (resetCalls (system.conns slot))
  | .disconnect slot =>
      system.put slot (rpcConnDisconnect (system.conns slot)) (dropFdCalls (system.conns slot))
  | .epoll fd shared event =>
      match (findEntry system.loop fd).map FdEntry.cb with
      | some (.handler (.connEpollCb slot)) =>
          system.put slot (connEpollCb shared (system.conns slot) event).conn
            (epollCalls (system.conns slot) event)
      | _ => system
  | .otherOpens =>
      { system with
        loop := act system.loop .open_
        others := lowestUnused system.loop.opened :: system.others }
  | .otherTimer ms created =>
      { system with
        loop := act system.loop (.addTimer ms .other created)
        others :=
          if ms = 0 ∨ created = false then system.others
          else lowestUnused system.loop.opened :: system.others }
  | .otherUses index use =>
      match system.others[index]? with
      | none => system
      | some fd =>
          { system with
            loop := act system.loop (use.call fd)
            others := if use = .close then system.others.filter (· ≠ fd) else system.others }

end Operations

/-! ## The representation -/

/-- The events that a connection is watched for in each state. -/
def interestOf : ConnState → Option Interest
  | .disconnected => none
  | .connecting => some ⟨false, true⟩
  | .connected => some ⟨true, false⟩
  | .sending => some ⟨true, true⟩
  | .receiving => some ⟨true, false⟩

/-- The state of a slot, its descriptor and its registration agree. -/
structure Represented (system : System Slot) (slot : Slot) : Prop where
  disconnected_iff :
    (system.conns slot).state = .disconnected ↔ (system.conns slot).fd = none
  registered : ∀ fd, (system.conns slot).fd = some fd →
    ∃ entry, system.loop.fdMap fd = [entry] ∧ entry.cb = .handler (.connEpollCb slot)
  alone : ∀ fd, ∀ entry ∈ system.loop.fdMap fd, entry.cb = .handler (.connEpollCb slot) →
    (system.conns slot).fd = some fd
  watched : ∀ fd, (system.conns slot).fd = some fd →
    system.loop.watched fd = (interestOf (system.conns slot).state).map mask
  offset : (system.conns slot).state = .sending →
    (system.conns slot).sendOffset ≤ (system.conns slot).sendLen
  received : (system.conns slot).recvLen ≤ socketBufSize

/-! ## One connection -/

/-- What holds of a connection by itself. -/
structure Shaped (conn : UpstreamConn) : Prop where
  disconnected_iff : conn.state = .disconnected ↔ conn.fd = none
  interest_eq : conn.interest = interestOf conn.state
  offset : conn.state = .sending → conn.sendOffset ≤ conn.sendLen
  received : conn.recvLen ≤ socketBufSize

theorem rpcConnInit_shaped (recvBuf : Memory) (callback : ConnectedCallback) :
    Shaped (rpcConnInit recvBuf callback) := by
  constructor <;> simp [rpcConnInit, interestOf]

theorem dropFd_shaped {conn : UpstreamConn} (shaped : Shaped conn) : Shaped conn.dropFd := by
  constructor
  · simp
  · simp [interestOf]
  · simp
  · exact shaped.received

theorem rpcConnDisconnect_shaped (conn : UpstreamConn) : Shaped (rpcConnDisconnect conn) := by
  constructor <;> simp [interestOf]

/-- A connection that goes to another state with its descriptor is watched for that state. -/
theorem modFd_interest {conn after : UpstreamConn} (shaped : Shaped conn) {interest : Interest}
    (open_ : conn.state ≠ .disconnected)
    (interest_eq : after.interest = conn.interest.map fun _ => interest) :
    after.interest = some interest := by
  rw [interest_eq, shaped.interest_eq]
  cases state : conn.state with
  | disconnected => exact absurd state open_
  | _ => rfl

theorem beginSend_shaped {conn : UpstreamConn} (shaped : Shaped conn)
    (connected : conn.state = .connected) (len : Nat) :
    Shaped (conn.beginSend len) := by
  have open_ : conn.state ≠ .disconnected := by simp [connected]
  constructor
  · simpa [UpstreamConn.beginSend] using mt shaped.disconnected_iff.mpr open_
  · exact modFd_interest shaped open_ rfl
  · simp [UpstreamConn.beginSend]
  · exact shaped.received

theorem rpcConnReset_shaped {conn : UpstreamConn} (shaped : Shaped conn) :
    Shaped (rpcConnReset conn) := by
  unfold rpcConnReset
  split_ifs with closing busy
  · exact rpcConnDisconnect_shaped _
  · have open_ : conn.state ≠ .disconnected := by
      intro closed
      simp [UpstreamConn.inFlight, closed] at busy
    constructor
    · simpa using mt shaped.disconnected_iff.mpr open_
    · exact modFd_interest shaped open_ rfl
    · simp
    · simp
  · constructor
    · exact shaped.disconnected_iff
    · exact shaped.interest_eq
    · simp
    · simp

theorem absorb_shaped {conn : UpstreamConn} {chunk : Memory} (shaped : Shaped conn)
    (receiving : conn.state = .receiving)
    (fits : chunk.length ≤ socketBufSize - conn.recvLen) :
    Shaped (conn.absorb chunk) := by
  constructor
  · simpa using shaped.disconnected_iff
  · simpa [UpstreamConn.absorb] using shaped.interest_eq
  · simp [receiving]
  · rw [absorb_recvLen]
    have received := shaped.received
    omega

theorem ConnMove.shaped {shared : Memory} {conn : UpstreamConn} {outcome : ConnOutcome}
    (move : ConnMove shared conn outcome) (shaped : Shaped conn) :
    Shaped outcome.conn := by
  cases move with
  | still => exact shaped
  | closed quiet => exact dropFd_shaped shaped
  | broken busy => exact dropFd_shaped shaped
  | connected connecting =>
      have open_ : conn.state ≠ .disconnected := by simp [connecting]
      constructor
      · simpa [ConnOutcome.quiet] using mt shaped.disconnected_iff.mpr open_
      · exact modFd_interest shaped open_ rfl
      · simp [ConnOutcome.quiet]
      · exact shaped.received
  | wrote sending taken more =>
      constructor
      · exact shaped.disconnected_iff
      · exact shaped.interest_eq
      · exact fun _ => more.le
      · exact shaped.received
  | wroteAll sending taken bounded finished =>
      have open_ : conn.state ≠ .disconnected := by simp [sending]
      constructor
      · simpa [UpstreamConn.beginReceive] using mt shaped.disconnected_iff.mpr open_
      · exact modFd_interest shaped open_ rfl
      · simp [UpstreamConn.beginReceive]
      · simp [UpstreamConn.beginReceive]
  | read receiving chunk nonempty fits incomplete =>
      exact absorb_shaped shaped receiving fits
  | readAll receiving chunk nonempty fits complete =>
      exact absorb_shaped shaped receiving fits

theorem rpcConnConnect_shaped {conn : UpstreamConn} (shaped : Shaped conn)
    (result : ConnectResult) (fd : Nat) :
    Shaped (rpcConnConnect conn result fd).1 := by
  by_cases closed : conn.state = .disconnected
  · cases result with
    | failed => simpa [rpcConnConnect, closed] using shaped
    | immediate =>
        constructor <;> simp [rpcConnConnect, closed, interestOf, shaped.received]
    | inProgress =>
        constructor <;> simp [rpcConnConnect, closed, interestOf, shaped.received]
  · simpa [rpcConnConnect, closed] using shaped

theorem connInvariant_shaped : ConnInvariant Shaped where
  move _ _ _ move shaped := ConnMove.shaped move shaped
  disconnect conn _ := rpcConnDisconnect_shaped conn
  connect _ result fd shaped := rpcConnConnect_shaped shaped result fd
  install _ _ shaped :=
    ⟨shaped.disconnected_iff, shaped.interest_eq, shaped.offset, shaped.received⟩
  send _ len connected shaped := beginSend_shaped shaped connected len
  reset _ shaped := rpcConnReset_shaped shaped
  mark _ _ shaped := ⟨shaped.disconnected_iff, shaped.interest_eq, shaped.offset, shaped.received⟩

/-- Every connection of the proxy is of this shape. -/
theorem run_shaped {n : Nat} (env : Env) (boot : Boot n) (events : List (Event n)) (node : Fin n)
    (slot : Fin 2) :
    Shaped ((run (step env) (rpcProxyCreate boot) events).slot node slot) :=
  run_connInvariant connInvariant_shaped rpcConnInit_shaped env boot events node slot

/-! ## The calls match the connection -/

/-- What a function does to the descriptor of a connection, with the calls it makes. -/
inductive Change (conn after : UpstreamConn) : List (Action (Callback Slot)) → Prop where
  | kept (fd_eq : after.fd = conn.fd) (interest_eq : after.interest = conn.interest) :
      Change conn after []
  | modified (interest : Interest) (fd_eq : after.fd = conn.fd)
      (interest_eq : after.interest = conn.interest.map fun _ => interest) :
      Change conn after (modFdCalls conn (mask interest))
  | dropped (closed : after.fd = none) :
      Change conn after (dropFdCalls conn)

theorem rpcConnSend_change (conn : UpstreamConn) (len : Nat) :
    Change conn ((rpcConnSend conn len).getD conn)
      (sendCalls conn len : List (Action (Callback Slot))) := by
  unfold rpcConnSend sendCalls
  split_ifs with empty other
  · exact .kept rfl rfl
  · exact .kept rfl rfl
  · exact .modified ⟨true, true⟩ rfl rfl

theorem rpcConnReset_change (conn : UpstreamConn) :
    Change conn (rpcConnReset conn) (resetCalls conn : List (Action (Callback Slot))) := by
  unfold rpcConnReset resetCalls
  split_ifs with closing busy
  · exact .dropped rfl
  · exact .modified ⟨true, false⟩ rfl rfl
  · exact .kept rfl rfl

theorem connEpollCb_change (shared : Memory) (conn : UpstreamConn) (event : ConnEvent) :
    Change conn (connEpollCb shared conn event).conn
      (epollCalls conn event : List (Action (Callback Slot))) := by
  unfold connEpollCb epollCalls
  by_cases broken : event.errHup = true
  · rw [if_pos broken, if_pos broken]
    exact .dropped rfl
  · rw [if_neg broken, if_neg broken]
    cases state : conn.state with
    | disconnected => exact .kept rfl rfl
    | connecting =>
        simp only [onConnectingEvent]
        split_ifs
        · exact .dropped rfl
        · exact .modified ⟨true, false⟩ rfl rfl
        · exact .kept rfl rfl
    | connected =>
        simp only [onConnectedEvent]
        split_ifs
        · exact .dropped rfl
        · exact .kept rfl rfl
    | sending =>
        simp only [onSendingEvent]
        by_cases writable : event.epollOut = true
        · rw [if_pos writable, if_pos writable]
          cases event.sendResult with
          | again => exact .kept rfl rfl
          | failed => exact .dropped rfl
          | accepted count =>
              dsimp only
              split_ifs
              · exact .modified ⟨true, false⟩ rfl rfl
              · exact .kept rfl rfl
        · rw [if_neg writable, if_neg writable]
          exact .kept rfl rfl
    | receiving =>
        simp only [onReceivingEvent]
        by_cases readable : event.epollIn = true
        · rw [if_pos readable, if_pos readable]
          by_cases full : socketBufSize - conn.recvLen = 0
          · rw [if_pos full, if_pos full]
            exact .dropped rfl
          · rw [if_neg full, if_neg full]
            cases event.recvResult with
            | again => exact .kept rfl rfl
            | failed => exact .dropped rfl
            | data bytes =>
                dsimp only
                by_cases ended : bytes.take (socketBufSize - conn.recvLen) = []
                · rw [if_pos ended, if_pos ended]
                  exact .dropped rfl
                · rw [if_neg ended, if_neg ended]
                  exact .kept (absorb_fd _ _) (by simp [UpstreamConn.absorb])
        · rw [if_neg readable, if_neg readable]
          exact .kept rfl rfl

/-! ## The system keeps the representation -/

/-- The descriptor is open and registered for this slot alone. -/
structure Attached (loop : Loop (Callback Slot)) (slot : Slot) (fd : Nat)
    (interest : Option Interest) : Prop where
  entry : ∃ entry, loop.fdMap fd = [entry] ∧ entry.cb = .handler (.connEpollCb slot)
  watched : loop.watched fd = interest.map mask
  opened : fd ∈ loop.opened

theorem Attached.untouched {before after : Loop (Callback Slot)} {slot : Slot} {fd : Nat}
    {interest : Option Interest} (attached : Attached before slot fd interest)
    (same : Untouched before after fd) :
    Attached after slot fd interest := by
  constructor
  · rw [same.map_eq]
    exact attached.entry
  · rw [same.watched_eq]
    exact attached.watched
  · exact same.opened_iff.mpr attached.opened

/-- The slot in the entry is the slot that the descriptor is attached to. -/
theorem Attached.slot_eq {loop : Loop (Callback Slot)} {slot other : Slot} {fd : Nat}
    {interest : Option Interest} (attached : Attached loop slot fd interest)
    {entry : FdEntry (Callback Slot)} (member : entry ∈ loop.fdMap fd)
    (owner : entry.cb = .handler (.connEpollCb other)) :
    slot = other := by
  rcases attached.entry with ⟨only, map_eq, cb_eq⟩
  rw [map_eq, List.mem_singleton] at member
  rw [member, cb_eq] at owner
  simpa using owner

/-- The invariant of the system. -/
structure Consistent (system : System Slot) : Prop where
  shaped : ∀ slot, Shaped (system.conns slot)
  attached : ∀ slot fd, (system.conns slot).fd = some fd →
    Attached system.loop slot fd (system.conns slot).interest
  alone : ∀ slot fd, ∀ entry ∈ system.loop.fdMap fd,
    entry.cb = .handler (.connEpollCb slot) → (system.conns slot).fd = some fd
  foreign : ∀ fd ∈ system.others,
    fd ∈ system.loop.opened ∧ ∀ slot, (system.conns slot).fd ≠ some fd

/-- Two slots have different descriptors. -/
theorem Consistent.apart {system : System Slot} (consistent : Consistent system)
    {slot other : Slot} (different : other ≠ slot) {fd : Nat}
    (held : (system.conns other).fd = some fd) :
    (system.conns slot).fd ≠ some fd := by
  intro shared
  rcases (consistent.attached other fd held).entry with ⟨entry, map_eq, owner⟩
  have same := (consistent.attached slot fd shared).slot_eq
    (by rw [map_eq]; exact List.mem_singleton_self entry) owner
  exact different same.symm

/-- What happens to the loop when one slot goes from `old` to `new`. -/
structure Moved (loop after : Loop (Callback Slot)) (slot : Slot) (old new : UpstreamConn) :
    Prop where
  untouched : ∀ fd ∈ loop.opened, old.fd ≠ some fd → new.fd ≠ some fd → Untouched loop after fd
  map_eq : ∀ fd, old.fd ≠ some fd → new.fd ≠ some fd → after.fdMap fd = loop.fdMap fd
  attached : ∀ fd, new.fd = some fd → Attached after slot fd new.interest
  fresh : ∀ fd, new.fd = some fd → old.fd = some fd ∨ fd ∉ loop.opened
  gone : ∀ fd, old.fd = some fd → new.fd ≠ some fd → after.fdMap fd = []

/-- A slot that moves its own registration only keeps the system consistent. -/
theorem Consistent.move [DecidableEq Slot] {system : System Slot}
    (consistent : Consistent system) {slot : Slot} {conn : UpstreamConn}
    {after : Loop (Callback Slot)} (shaped : Shaped conn)
    (moved : Moved system.loop after slot (system.conns slot) conn) :
    Consistent
      { system with loop := after, conns := Function.update system.conns slot conn } := by
  have unshared : ∀ fd ∈ system.loop.opened, (system.conns slot).fd ≠ some fd →
      conn.fd ≠ some fd := by
    intro fd opened other taken
    rcases moved.fresh fd taken with same | closed
    · exact other same
    · exact closed opened
  constructor
  · intro other
    by_cases same : other = slot
    · subst same
      simpa using shaped
    · simpa [same] using consistent.shaped other
  · intro other fd held
    by_cases same : other = slot
    · subst same
      simp only [Function.update_self] at held ⊢
      exact moved.attached fd held
    · simp only [Function.update_of_ne same] at held ⊢
      have attached := consistent.attached other fd held
      have apart := consistent.apart same held
      exact attached.untouched
        (moved.untouched fd attached.opened apart (unshared fd attached.opened apart))
  · intro other fd entry member owner
    by_cases now : conn.fd = some fd
    · obtain rfl := (moved.attached fd now).slot_eq member owner
      simpa using now
    · have before : (system.conns slot).fd ≠ some fd := by
        intro was
        have gone := moved.gone fd was now
        simp [gone] at member
      rw [moved.map_eq fd before now] at member
      have held := consistent.alone other fd entry member owner
      have different : other ≠ slot := by
        rintro rfl
        exact before held
      simpa [different] using held
  · intro fd member
    rcases consistent.foreign fd member with ⟨opened, foreign⟩
    have now := unshared fd opened (foreign slot)
    constructor
    · exact (moved.untouched fd opened (foreign slot) now).opened_iff.mpr opened
    · intro other
      by_cases same : other = slot
      · subst same
        simpa using now
      · simpa [same] using foreign other

section Calls

variable {loop : Loop (Callback Slot)} {slot : Slot} {conn after : UpstreamConn}

theorem Attached.modFd {fd : Nat} {interest other : Interest}
    (attached : Attached loop slot fd (some interest)) :
    Attached (eventLoopModFd loop fd (mask other)) slot fd (some other) := by
  rcases attached.entry with ⟨entry, map_eq, owner⟩
  have found : ¬ (findEntry loop fd = none ∨ loop.watched fd = none) := by
    simp [findEntry, map_eq, attached.watched]
  rw [eventLoopModFd, if_neg found]
  exact ⟨⟨entry, map_eq, owner⟩, Function.update_self .., attached.opened⟩

theorem Attached.delFd {fd : Nat} {interest : Option Interest}
    (attached : Attached loop slot fd interest) :
    (eventLoopDelFd loop fd).fdMap fd = [] := by
  rcases attached.entry with ⟨entry, map_eq, -⟩
  simp [eventLoopDelFd, findEntry, map_eq]

/-- No call at all, on a connection whose descriptor and interest stay. -/
theorem moved_of_kept (fd_eq : after.fd = conn.fd) (interest_eq : after.interest = conn.interest)
    (attached : ∀ fd, conn.fd = some fd → Attached loop slot fd conn.interest) :
    Moved loop loop slot conn after := by
  refine ⟨fun fd _ _ _ => .refl loop fd, fun _ _ _ => rfl, ?_, ?_, ?_⟩
  · rw [fd_eq, interest_eq]
    exact attached
  · rw [fd_eq]
    exact fun fd held => Or.inl held
  · rw [fd_eq]
    exact fun fd held lost => absurd held lost

theorem moved_of_modified {fd : Nat} {interest : Interest} (held : conn.fd = some fd)
    (fd_eq : after.fd = conn.fd) (now : Attached (act loop (.modFd fd (mask interest))) slot fd
      after.interest) :
    Moved loop (act loop (.modFd fd (mask interest))) slot conn after := by
  have untouched : ∀ other, conn.fd ≠ some other →
      Untouched loop (act loop (.modFd fd (mask interest))) other := by
    intro other apart
    rw [held] at apart
    exact act_untouched loop _ apart
  refine ⟨fun other _ apart _ => untouched other apart,
    fun other apart _ => (untouched other apart).map_eq, ?_, ?_, ?_⟩
  · intro other same
    obtain rfl : fd = other := by simpa [fd_eq, held] using same
    exact now
  · rw [fd_eq]
    exact fun other same => Or.inl same
  · rw [fd_eq]
    exact fun other same lost => absurd same lost

theorem moved_of_dropped {fd : Nat} (held : conn.fd = some fd) (closed : after.fd = none)
    (attached : Attached loop slot fd conn.interest) :
    Moved loop (act (act loop (.delFd fd)) (.close fd)) slot conn after := by
  have untouched : ∀ other, conn.fd ≠ some other →
      Untouched loop (act (act loop (.delFd fd)) (.close fd)) other := by
    intro other apart
    rw [held] at apart
    exact (act_untouched loop (.delFd fd) apart).trans (act_untouched _ (.close fd) apart)
  refine ⟨fun other _ apart _ => untouched other apart,
    fun other apart _ => (untouched other apart).map_eq, by simp [closed], by simp [closed], ?_⟩
  intro other was _
  obtain rfl : fd = other := by simpa [held] using was
  exact attached.delFd

theorem Change.moved {calls : List (Action (Callback Slot))} (change : Change conn after calls)
    (shaped : Shaped conn)
    (attached : ∀ fd, conn.fd = some fd → Attached loop slot fd conn.interest) :
    Moved loop (run act loop calls) slot conn after := by
  cases change with
  | kept fd_eq interest_eq => exact moved_of_kept fd_eq interest_eq attached
  | modified interest fd_eq interest_eq =>
      cases held : conn.fd with
      | none =>
          have closed := shaped.disconnected_iff.mpr held
          have unwatched : conn.interest = none := by
            rw [shaped.interest_eq, closed]
            rfl
          simp only [modFdCalls, held, run_nil]
          exact moved_of_kept fd_eq (by rw [interest_eq, unwatched]; rfl) attached
      | some fd =>
          have open_ : conn.state ≠ .disconnected := by
            rw [Ne, shaped.disconnected_iff, held]
            simp
          simp only [modFdCalls, held, run_cons, run_nil]
          apply moved_of_modified held fd_eq
          have was := attached fd held
          rw [shaped.interest_eq] at was
          rw [modFd_interest shaped open_ interest_eq]
          cases state : conn.state with
          | disconnected => exact absurd state open_
          | _ =>
              rw [state] at was
              exact was.modFd
  | dropped closed =>
      cases held : conn.fd with
      | none =>
          simp only [dropFdCalls, held, run_nil]
          exact ⟨fun fd _ _ _ => .refl loop fd, fun _ _ _ => rfl, by simp [closed],
            by simp [closed], by simp [held]⟩
      | some fd =>
          simp only [dropFdCalls, held, run_cons, run_nil]
          exact moved_of_dropped held closed (attached fd held)

end Calls

/-- A function that makes the calls that match what it does keeps the system consistent. -/
theorem Consistent.put [DecidableEq Slot] {system : System Slot}
    (consistent : Consistent system) {slot : Slot} {conn : UpstreamConn}
    {calls : List (Action (Callback Slot))}
    (change : Change (system.conns slot) conn calls) (shaped : Shaped conn) :
    Consistent (system.put slot conn calls) :=
  consistent.move shaped
    (change.moved (consistent.shaped slot) fun fd held => consistent.attached slot fd held)

/-! ## Connecting -/

section Connecting

variable {loop : Loop (Callback Slot)}

theorem eventLoopAddFd_of_addsFd {fd : Nat} {events : UInt32} {cb : Callback Slot}
    {accepted : Bool} (adds : addsFd loop fd accepted = true) :
    eventLoopAddFd loop fd events cb accepted =
      loop.insert fd events (.handler cb) false none := by
  simp only [addsFd, Bool.and_eq_true, List.isEmpty_iff, decide_eq_true_eq,
    Option.isNone_iff_eq_none] at adds
  rcases adds with ⟨⟨⟨empty, accepted⟩, opened⟩, unwatched⟩
  simp [eventLoopAddFd, findEntry, empty, accepted, opened, unwatched]

theorem eventLoopAddFd_of_not {fd : Nat} {events : UInt32} {cb : Callback Slot}
    {accepted : Bool} (fails : addsFd loop fd accepted = false) :
    eventLoopAddFd loop fd events cb accepted = loop := by
  unfold eventLoopAddFd
  split_ifs with duplicate allowed
  · rfl
  · simp only [ne_eq, not_not, findEntry, List.head?_eq_none_iff] at duplicate
    simp [addsFd, duplicate, allowed] at fails
  · rfl

/-- A descriptor that is opened and closed again leaves no trace. -/
theorem moved_of_abandoned {slot : Slot} {old new : UpstreamConn} (was : old.fd = none)
    (now : new.fd = none) :
    Moved loop (act (act loop .open_) (.close (lowestUnused loop.opened))) slot old new := by
  have untouched : ∀ fd ∈ loop.opened,
      Untouched loop (act (act loop .open_) (.close (lowestUnused loop.opened))) fd := by
    intro fd opened
    have apart : some (lowestUnused loop.opened) ≠ some fd := by
      rintro same
      rw [Option.some.injEq] at same
      exact lowestUnused_notMem loop.opened (same ▸ opened)
    exact (act_untouched loop .open_ apart).trans (act_untouched _ (.close _) apart)
  exact ⟨fun fd opened _ _ => untouched fd opened, fun _ _ _ => rfl, by simp [now], by simp [now],
    by simp [was]⟩

/-- A new descriptor is registered. -/
theorem moved_of_registered {slot : Slot} {old new : UpstreamConn} {interest : Interest}
    {accepted : Bool} (was : old.fd = none)
    (adds : addsFd (act loop .open_) (lowestUnused loop.opened) accepted = true)
    (now : new.fd = some (lowestUnused loop.opened)) (interest_eq : new.interest = some interest) :
    Moved loop
      (eventLoopAddFd (act loop .open_) (lowestUnused loop.opened) (mask interest)
        (.connEpollCb slot) accepted) slot old new := by
  have empty : loop.fdMap (lowestUnused loop.opened) = [] := by
    simp only [addsFd, Bool.and_eq_true, List.isEmpty_iff] at adds
    exact adds.1.1.1
  have untouched : ∀ fd, new.fd ≠ some fd → Untouched loop
      (eventLoopAddFd (act loop .open_) (lowestUnused loop.opened) (mask interest)
        (.connEpollCb slot) accepted) fd := by
    intro fd apart
    rw [now] at apart
    exact (act_untouched loop .open_ apart).trans
      (act_untouched _ (.addFd (lowestUnused loop.opened) (mask interest) _ accepted) apart)
  refine ⟨fun fd _ _ apart => untouched fd apart, fun fd _ apart => (untouched fd apart).map_eq,
    ?_, ?_, by simp [was]⟩
  · intro fd held
    obtain rfl : lowestUnused loop.opened = fd := by simpa [now] using held
    rw [eventLoopAddFd_of_addsFd adds, interest_eq]
    refine ⟨⟨⟨.handler (.connEpollCb slot), false, none, loop.nextSerial⟩, ?_, rfl⟩, ?_, ?_⟩
    · simp [Loop.insert, act, empty]
    · simp [Loop.insert]
    · simp [Loop.insert, act]
  · intro fd held
    obtain rfl : lowestUnused loop.opened = fd := by simpa [now] using held
    exact Or.inr (lowestUnused_notMem loop.opened)

end Connecting

theorem Consistent.register [DecidableEq Slot] {system : System Slot}
    (consistent : Consistent system) {slot : Slot} {conn : UpstreamConn} (interest : Interest)
    (accepted : Bool)
    (closed : (system.conns slot).state = .disconnected) (shaped : Shaped conn)
    (fd_eq : conn.fd = some (lowestUnused system.loop.opened))
    (interest_eq : conn.interest = some interest) :
    Consistent (System.register { system with loop := act system.loop .open_ } slot conn
      (lowestUnused system.loop.opened) (mask interest) accepted) := by
  have before := consistent.shaped slot
  have was := before.disconnected_iff.mp closed
  unfold System.register
  dsimp only
  split_ifs with adds
  · exact consistent.move shaped (moved_of_registered was adds fd_eq interest_eq)
  · rw [eventLoopAddFd_of_not (Bool.eq_false_iff.mpr adds)]
    refine consistent.move ?_ (moved_of_abandoned was rfl)
    refine ⟨by simp, ?_, by simp, before.received⟩
    exact before.interest_eq.trans (congrArg interestOf closed)

theorem Consistent.connect [DecidableEq Slot] {system : System Slot}
    (consistent : Consistent system) (slot : Slot) (attempt : Attempt) :
    Consistent (system.connect slot attempt) := by
  unfold System.connect
  dsimp only
  split_ifs with unable
  · exact consistent
  · simp only [ne_eq, not_or, not_not] at unable
    have shaped := rpcConnConnect_shaped (consistent.shaped slot)
    cases attempt.result with
    | failed =>
        have was := (consistent.shaped slot).disconnected_iff.mp unable.1
        have moved := consistent.move (consistent.shaped slot) (moved_of_abandoned was was)
        rwa [Function.update_eq_self] at moved
    | immediate =>
        exact consistent.register ⟨true, false⟩ attempt.accepted unable.1 (shaped .immediate _)
          (by simp [rpcConnConnect, unable.1]) (by simp [rpcConnConnect, unable.1])
    | inProgress =>
        exact consistent.register ⟨false, true⟩ attempt.accepted unable.1 (shaped .inProgress _)
          (by simp [rpcConnConnect, unable.1]) (by simp [rpcConnConnect, unable.1])

/-! ## The other modules -/

/-- The action registers no slot. -/
def isOther : Action (Callback Slot) → Prop
  | .addFd _ _ cb _ => cb = .other
  | _ => True

/-- A new entry with another callback is no entry for a slot. -/
theorem mem_fdMap_of_insert {loop : Loop (Callback Slot)} {key fd : Nat} {events : UInt32}
    {cb : EventCb (Callback Slot)} {isTimer : Bool} {tcb : Option (Callback Slot)}
    {entry : FdEntry (Callback Slot)}
    (member : entry ∈ (loop.insert key events cb isTimer tcb).fdMap fd) (apart : entry.cb ≠ cb) :
    entry ∈ loop.fdMap fd := by
  by_cases same : fd = key
  · subst same
    simp only [Loop.insert, Function.update_self, List.mem_cons] at member
    rcases member with rfl | old
    · exact absurd rfl apart
    · exact old
  · simpa [Loop.insert, same] using member

/-- The other modules make no entry for a slot. -/
theorem mem_fdMap_of_act {loop : Loop (Callback Slot)} {action : Action (Callback Slot)}
    (foreign : isOther action) {fd : Nat} {entry : FdEntry (Callback Slot)} {slot : Slot}
    (member : entry ∈ (act loop action).fdMap fd)
    (owner : entry.cb = .handler (.connEpollCb slot)) :
    entry ∈ loop.fdMap fd := by
  cases action with
  | addFd key events cb accepted =>
      obtain rfl : cb = .other := foreign
      simp only [act, eventLoopAddFd] at member
      split_ifs at member
      · exact member
      · exact mem_fdMap_of_insert member (by simp [owner])
      · exact member
  | modFd key events =>
      simp only [act, eventLoopModFd] at member
      split_ifs at member <;> exact member
  | delFd key =>
      simp only [act, eventLoopDelFd] at member
      cases found : findEntry loop key with
      | none => simpa [found] using member
      | some first =>
          simp only [found] at member
          by_cases same : fd = key
          · subst same
            rw [Function.update_self] at member
            exact List.mem_of_mem_tail member
          · simpa [same] using member
  | addTimer ms cb created =>
      simp only [act, eventLoopAddTimer] at member
      split_ifs at member
      · exact member
      · have old := mem_fdMap_of_insert member (by simp [owner])
        exact old
  | open_ => exact member
  | close key => exact member
  | stop => exact member

/-- An action on a descriptor that no slot has keeps the system consistent. -/
theorem Consistent.elsewhere {system : System Slot} (consistent : Consistent system)
    {action : Action (Callback Slot)} {others : List Nat} (foreign : isOther action)
    (apart : ∀ slot fd, (system.conns slot).fd = some fd →
      touched system.loop action ≠ some fd)
    (owned : ∀ fd ∈ others, fd ∈ (act system.loop action).opened ∧
      ∀ slot, (system.conns slot).fd ≠ some fd) :
    Consistent { system with loop := act system.loop action, others := others } := by
  constructor
  · exact consistent.shaped
  · intro slot fd held
    exact (consistent.attached slot fd held).untouched
      (act_untouched system.loop action (apart slot fd held))
  · intro slot fd entry member owner
    exact consistent.alone slot fd entry (mem_fdMap_of_act foreign member owner) owner
  · exact owned

/-- The number that the kernel hands out is not a slot's. -/
theorem Consistent.unused {system : System Slot} (consistent : Consistent system) (slot : Slot) :
    (system.conns slot).fd ≠ some (lowestUnused system.loop.opened) := by
  intro held
  exact lowestUnused_notMem _ (consistent.attached slot _ held).opened

/-- Another module opens a descriptor. -/
theorem Consistent.grow {system : System Slot} (consistent : Consistent system)
    {action : Action (Callback Slot)} (foreign : isOther action)
    (fresh : touched system.loop action = some (lowestUnused system.loop.opened))
    (opened_eq : (act system.loop action).opened =
      lowestUnused system.loop.opened :: system.loop.opened) :
    Consistent
      { system with
        loop := act system.loop action
        others := lowestUnused system.loop.opened :: system.others } := by
  apply consistent.elsewhere foreign
  · intro slot fd held same
    rw [fresh, ← held] at same
    exact consistent.unused slot same.symm
  · rw [opened_eq]
    refine List.forall_mem_cons.mpr ⟨⟨List.mem_cons_self, consistent.unused⟩, ?_⟩
    intro fd member
    rcases consistent.foreign fd member with ⟨opened, apart⟩
    exact ⟨List.mem_cons_of_mem _ opened, apart⟩

/-- A descriptor stays open until it is closed. -/
theorem mem_opened_of_act {loop : Loop (Callback Slot)} {action : Action (Callback Slot)}
    {fd : Nat} (opened : fd ∈ loop.opened) (stays : action ≠ .close fd) :
    fd ∈ (act loop action).opened := by
  cases action with
  | close other =>
      have different : fd ≠ other := by
        rintro rfl
        exact stays rfl
      simpa [act, different] using opened
  | open_ => exact List.mem_cons_of_mem _ opened
  | addFd other events cb accepted =>
      simp only [act, eventLoopAddFd]
      split_ifs <;> exact opened
  | modFd other events =>
      simp only [act, eventLoopModFd]
      split_ifs <;> exact opened
  | delFd other =>
      simp only [act, eventLoopDelFd]
      split <;> exact opened
  | addTimer ms cb created =>
      simp only [act, eventLoopAddTimer]
      split_ifs
      · exact opened
      · exact List.mem_cons_of_mem _ opened
  | stop => exact opened

/-- Another module uses one of its descriptors. -/
theorem Consistent.use {system : System Slot} (consistent : Consistent system) {fd : Nat}
    (member : fd ∈ system.others) (use : Use) :
    Consistent
      { system with
        loop := act system.loop (use.call fd)
        others := if use = .close then system.others.filter (· ≠ fd) else system.others } := by
  have foreign : isOther (use.call fd : Action (Callback Slot)) := by
    cases use <;> trivial
  have touched_eq : touched system.loop (use.call fd) = some fd := by
    cases use <;> rfl
  apply consistent.elsewhere foreign
  · intro slot other held
    rw [touched_eq, ← held]
    exact ((consistent.foreign fd member).2 slot).symm
  · intro other kept
    have remains : other ∈ system.others ∧
        (use.call fd : Action (Callback Slot)) ≠ .close other := by
      cases use with
      | close =>
          simp only [if_true, List.mem_filter, decide_eq_true_eq] at kept
          simpa [Use.call] using ⟨kept.1, kept.2.symm⟩
      | _ => simpa [Use.call] using kept
    rcases consistent.foreign other remains.1 with ⟨opened, apart⟩
    exact ⟨mem_opened_of_act opened remains.2, apart⟩

/-! ## Runs -/

theorem perform_consistent [DecidableEq Slot] (system : System Slot) (operation : Operation Slot)
    (consistent : Consistent system) :
    Consistent (perform system operation) := by
  cases operation with
  | connect slot attempt => exact consistent.connect slot attempt
  | send slot len =>
      apply consistent.put (rpcConnSend_change _ len)
      cases sent : rpcConnSend (system.conns slot) len with
      | none => exact consistent.shaped slot
      | some conn =>
          rcases rpcConnSend_eq_some.mp sent with ⟨-, connected, rfl⟩
          exact beginSend_shaped (consistent.shaped slot) connected len
  | reset slot =>
      exact consistent.put (rpcConnReset_change _) (rpcConnReset_shaped (consistent.shaped slot))
  | disconnect slot =>
      exact consistent.put (.dropped rfl) (rpcConnDisconnect_shaped _)
  | epoll fd shared event =>
      simp only [perform]
      split
      · exact consistent.put (connEpollCb_change shared _ event)
          (ConnMove.shaped (connEpollCb_move shared _ event) (consistent.shaped _))
      · exact consistent
  | otherOpens => exact consistent.grow trivial rfl rfl
  | otherTimer ms created =>
      simp only [perform]
      split_ifs with failed
      · have same : act system.loop (.addTimer ms .other created) = system.loop := by
          simp only [act, eventLoopAddTimer, if_pos failed]
        rwa [same]
      · apply Consistent.grow consistent
        · trivial
        · rfl
        · simp only [act, eventLoopAddTimer, if_neg failed]
          rfl
  | otherUses index use =>
      simp only [perform]
      cases found : system.others[index]? with
      | none => exact consistent
      | some fd => exact consistent.use (List.mem_of_getElem? found) use

theorem create_consistent (recvBuf : Slot → Memory) (callback : Slot → ConnectedCallback) :
    Consistent (System.create recvBuf callback) := by
  constructor
  · exact fun slot => rpcConnInit_shaped (recvBuf slot) (callback slot)
  · intro slot fd held
    simp [System.create, rpcConnInit] at held
  · intro slot fd entry member
    simp [System.create, eventLoopCreate] at member
  · intro fd member
    exact ⟨member, fun slot => by simp [System.create, rpcConnInit]⟩

/--
After every sequence of operations and epoll events, on any number of slots,
the state of each slot, its descriptor and its registration agree.
-/
theorem represented_of_run [DecidableEq Slot] (recvBuf : Slot → Memory)
    (callback : Slot → ConnectedCallback) (operations : List (Operation Slot)) (slot : Slot) :
    Represented (run perform (System.create recvBuf callback) operations) slot := by
  have consistent := run_invariant perform_consistent (create_consistent recvBuf callback)
    operations
  have shaped := consistent.shaped slot
  constructor
  · exact shaped.disconnected_iff
  · exact fun fd held => (consistent.attached slot fd held).entry
  · exact consistent.alone slot
  · intro fd held
    rw [← shaped.interest_eq]
    exact (consistent.attached slot fd held).watched
  · exact shaped.offset
  · exact shaped.received

end RpcRace.Registration
