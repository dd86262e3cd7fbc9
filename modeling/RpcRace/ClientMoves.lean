import RpcRace.Requests

/-!
# What one callback does to the client connection

The client fields change in three ways only: a connection is accepted, bytes
are stored in the request buffer, and a connection is closed.  Responses
leave them alone.
-/

namespace RpcRace.ClientMoves

open RpcRace.Library.CString
open RpcRace.RpcConn
open RpcRace.RpcProxy
open RpcRace.Dispatch
open RpcRace.RaceMoves
open RpcRace.ProxyMoves
open RpcRace.SlotMoves

variable {n : Nat}

/-- The client is the same, or it was closed. -/
def KeptOrClosed (before after : Client) : Prop :=
  after = before ∨ after = before.close

theorem close_recvBuf (client : Client) : client.close.recvBuf = client.recvBuf := by
  simp only [Client.close]
  split_ifs <;> rfl

theorem close_target (client : Client) : client.close.target = none := by
  simp only [Client.close]
  split_ifs with connected
  · rfl
  · simp [Client.target, connected]

theorem KeptOrClosed.recvBuf_eq {before after : Client} (kept : KeptOrClosed before after) :
    after.recvBuf = before.recvBuf := by
  rcases kept with rfl | rfl
  · rfl
  · exact close_recvBuf before

theorem ResponseMove.client_eq {env : Env} {proxy : Proxy n} {node : Fin n} {slot : Fin 2}
    {chunk : Memory} {results : List SendResult} {result : Proxy n}
    (move : ResponseMove env proxy node slot chunk results result) :
    result.client = proxy.client := by
  cases move with
  | counted => rfl
  | broadcastWon => rfl
  | won =>
      change (stick _ _ _).client = _
      rw [stick_client]
      rfl
  | ended => simp
  | settled => simp

theorem FailureMove.client {proxy result : Proxy n} {node : Fin n}
    (move : FailureMove proxy node result) :
    KeptOrClosed proxy.client result.client := by
  cases move with
  | counted => exact Or.inl rfl
  | ended =>
      rw [raceComplete_client]
      exact Or.inl rfl
  | closed =>
      rw [raceComplete_client]
      exact Or.inr rfl

theorem ErrorMove.client {proxy result : Proxy n} {node : Fin n}
    (move : ErrorMove proxy node result) :
    KeptOrClosed proxy.client result.client := by
  cases move with
  | retried => exact Or.inl rfl
  | twice already result failure => exact FailureMove.client failure
  | lost first final result failure =>
      have kept := FailureMove.client failure
      exact kept

theorem TimeoutMove.client {proxy result : Proxy n} {fd : Nat}
    (move : TimeoutMove proxy fd result) :
    KeptOrClosed proxy.client result.client := by
  cases move with
  | drained =>
      rw [cancelRpcTimeout_client]
      exact Or.inl rfl
  | ended =>
      rw [raceComplete_client]
      exact Or.inl rfl
  | closed =>
      rw [raceComplete_client]
      exact Or.inr rfl

theorem Acceptance.client {env : Env} {proxy result : Proxy n} {method : Memory}
    {created : Bool} (acceptance : Acceptance env proxy method created result) :
    KeptOrClosed proxy.client result.client := by
  cases acceptance with
  | fanout =>
      rw [startRpcTimeout_client]
      exact Or.inl rfl
  | sticky =>
      rw [startRpcTimeout_client]
      exact Or.inl rfl
  | refused => exact Or.inr rfl

theorem drainSlot_client (proxy : Proxy n) (node : Fin n) (slot : Fin 2) :
    (drainSlot proxy node slot).client = proxy.client := by
  simp only [drainSlot]
  split_ifs <;> simp

theorem rotationEvent_client (proxy : Proxy n) (node : Fin n) (result : ConnectResult) :
    (rotationEvent proxy node result).client = proxy.client := by
  simp only [rotationEvent]
  split_ifs <;> rfl

/-! ## Callbacks that leave the race alone -/

/-- What the listener, the rotation timer and the drain branches write to the trace. -/
def isHousekeeping : Effect n → Bool
  | .clientAccepted _ => true
  | .closeClient _ byRace => !byRace
  | .refreshed _ _ _ => true
  | .timerClosed _ => true
  | _ => false

theorem listenerCb_trace (proxy : Proxy n) (registered : Bool) :
    ∃ added, (listenerCb proxy (.accepted registered)).trace = added ++ proxy.trace ∧
      ∀ effect ∈ added, isHousekeeping effect = true := by
  simp only [listenerCb]
  split_ifs
  · exact ⟨[.clientAccepted proxy.nextFd, .closeClient proxy.client.target false], rfl,
      by simp [isHousekeeping]⟩
  · exact ⟨[.clientAccepted proxy.nextFd], rfl, by simp [isHousekeeping]⟩
  · exact ⟨[.closeClient proxy.client.target false], rfl, by simp [isHousekeeping]⟩
  · exact ⟨[], rfl, by simp⟩

theorem rotationEvent_trace (proxy : Proxy n) (node : Fin n) (result : ConnectResult) :
    ∃ added, (rotationEvent proxy node result).trace = added ++ proxy.trace ∧
      ∀ effect ∈ added, isHousekeeping effect = true := by
  simp only [rotationEvent]
  split_ifs
  · exact ⟨[.refreshed node (proxy.pairs node).standbyIdx result], rfl,
      by simp [isHousekeeping]⟩
  · exact ⟨[], rfl, by simp⟩

theorem drainSlot_housekeeping (proxy : Proxy n) (node : Fin n) (slot : Fin 2) :
    ∃ added, (drainSlot proxy node slot).trace = added ++ proxy.trace ∧
      ∀ effect ∈ added, isHousekeeping effect = true := by
  rcases drainSlot_trace proxy node slot with same | cancelled
  · exact ⟨[], same, by simp⟩
  · exact ⟨cancelEffects proxy, cancelled, forall_cancelEffects proxy fun _ => rfl⟩

/-- What a callback writes to the trace beside the race. -/
def isAside : Effect n → Bool
  | .transferred _ _ _ _ => true
  | .established _ _ => true
  | effect => isHousekeeping effect

theorem isAside_of_isHousekeeping {effect : Effect n} (quiet : isHousekeeping effect = true) :
    isAside effect = true := by
  cases effect with
  | transferred => rfl
  | established => rfl
  | _ => exact quiet

/-- The callbacks as seen by the race: most of them leave it alone. -/
inductive RaceStep (env : Env) (proxy : Proxy n) : Event n → Proxy n → Prop where
  | aside (event : Event n) (result : Proxy n) (added : List (Effect n))
      (trace : result.trace = added ++ proxy.trace)
      (quiet : ∀ effect ∈ added, isAside effect = true)
      (race_eq : result.race = proxy.race)
      (waiting : acceptedMethod env proxy event = none) :
      RaceStep env proxy event result
  | notified :
      RaceStep env proxy .blockNotify (rpcProxyOnBlockNotify proxy)
  | request (event : ClientEvent) (chunk method : Memory) (result : Proxy n)
      (bytes : storedChunk proxy (.client event) = some chunk)
      (accepted : acceptedMethod env proxy (.client event) = some method)
      (idle : proxy.race.state = .idle)
      (acceptance :
        Acceptance env (withChunk proxy chunk) method event.timerCreated result) :
      RaceStep env proxy (.client event) (clearRequest result)
  | lateResponse (node : Fin n) (slot : Fin 2) (event : ConnEvent) (results : List SendResult)
      (chunk : Memory) (result : Proxy n) (added : List (Effect n))
      (out : connOutcome proxy node slot event =
        some ⟨(proxy.slot node slot).absorb chunk, some .response, [], chunk⟩)
      (idle : proxy.race.state = .idle)
      (trace : result.trace = added ++
        .delivered node slot ((proxy.slot node slot).absorb chunk) ::
          .transferred node slot [] chunk :: proxy.trace)
      (quiet : ∀ effect ∈ added, isAside effect = true)
      (race_eq : result.race = proxy.race) :
      RaceStep env proxy (.conn node slot event results) result
  | response (node : Fin n) (slot : Fin 2) (event : ConnEvent) (results : List SendResult)
      (chunk : Memory) (result : Proxy n)
      (out : connOutcome proxy node slot event =
        some ⟨(proxy.slot node slot).absorb chunk, some .response, [], chunk⟩)
      (complete : rpcConnResponseComplete ((proxy.slot node slot).absorb chunk) = true)
      (active : proxy.race.state ≠ .idle)
      (move : ResponseMove env proxy node slot chunk results result) :
      RaceStep env proxy (.conn node slot event results) result
  | lateError (node : Fin n) (slot : Fin 2) (event : ConnEvent) (results : List SendResult)
      (result : Proxy n) (added : List (Effect n))
      (idle : proxy.race.state = .idle)
      (trace : result.trace =
        added ++ .failed node slot :: .transferred node slot [] [] :: proxy.trace)
      (quiet : ∀ effect ∈ added, isAside effect = true)
      (race_eq : result.race = proxy.race) :
      RaceStep env proxy (.conn node slot event results) result
  | error (node : Fin n) (slot : Fin 2) (event : ConnEvent) (results : List SendResult)
      (result : Proxy n)
      (out : connOutcome proxy node slot event =
        some (.quiet (proxy.slot node slot).dropFd (some .error)))
      (active : proxy.race.state ≠ .idle)
      (move : ErrorMove (breakage proxy node slot) node result) :
      RaceStep env proxy (.conn node slot event results) result
  | expired (fd : Nat) (results : List SendResult) (result : Proxy n)
      (registered : timerRegistered proxy fd = true) (move : TimeoutMove proxy fd result) :
      RaceStep env proxy (.timeout fd results) result

/-- Every callback is one of these. -/
theorem step_raceStep (env : Env) (proxy : Proxy n) (event : Event n)
    (wellFormed : WellFormed proxy) :
    RaceStep env proxy event (step env proxy event) := by
  have move := step_move env proxy event wellFormed
  generalize step env proxy event = result at move
  cases move with
  | ignored event noBytes unheard =>
      exact .aside _ _ [] rfl (by simp) rfl (acceptedMethod_of_storedChunk noBytes)
  | elapsed duration => exact .aside _ _ [] rfl (by simp) rfl rfl
  | notified => exact .notified
  | replaced registered =>
      rcases listenerCb_trace proxy registered with ⟨added, trace, quiet⟩
      exact .aside _ _ added trace
        (fun effect member => isAside_of_isHousekeeping (quiet effect member))
        (listenerCb_race proxy registered) rfl
  | hungUp event connected noBytes =>
      exact .aside _ _ [.closeClient proxy.client.target false] rfl
        (by simp [isAside, isHousekeeping]) rfl (acceptedMethod_of_storedChunk noBytes)
  | stored event chunk bytes waiting => exact .aside _ _ [] rfl (by simp) rfl waiting
  | dropped event chunk bytes waiting => exact .aside _ _ [] rfl (by simp) rfl waiting
  | request event chunk method result bytes accepted idle nonempty acceptance =>
      exact .request event chunk method result bytes accepted idle acceptance
  | moved node slot event results outcome out silent =>
      exact .aside _ _ [.transferred node slot outcome.written outcome.received] rfl
        (by simp [isAside]) rfl rfl
  | connected node slot event results outcome out upcall =>
      exact .aside _ _
        [.established node slot, .transferred node slot outcome.written outcome.received] rfl
        (by simp [isAside]) rfl rfl
  | lateResponse node slot event results chunk nonempty out receiving complete idle =>
      rcases drainSlot_housekeeping (delivery proxy node slot chunk) node slot with
        ⟨added, trace, quiet⟩
      exact .lateResponse node slot event results chunk _ added out idle trace
        (fun effect member => isAside_of_isHousekeeping (quiet effect member))
        (drainSlot_race _ _ _)
  | response node slot event results chunk nonempty out receiving complete active result move =>
      exact .response node slot event results chunk result out complete active move
  | lateError node slot event results out busy idle =>
      rcases drainSlot_housekeeping (breakage proxy node slot) node slot with
        ⟨added, trace, quiet⟩
      exact .lateError node slot event results _ added idle trace
        (fun effect member => isAside_of_isHousekeeping (quiet effect member))
        (drainSlot_race _ _ _)
  | error node slot event results out busy active result move =>
      exact .error node slot event results result out active move
  | rotated node result =>
      rcases rotationEvent_trace proxy node result with ⟨added, trace, quiet⟩
      exact .aside _ _ added trace
        (fun effect member => isAside_of_isHousekeeping (quiet effect member))
        (rotationEvent_race proxy node result) rfl
  | expired fd results registered result move => exact .expired fd results result registered move

/-! ## The connection that is served -/

/-- The event brings a new client connection. -/
def registers : Event n → Bool
  | .accept (.accepted registered) => registered
  | _ => false

/-- The client flag and the client descriptor agree. -/
def TargetSound (client : Client) : Prop :=
  client.connected = client.target.isSome

/-- The client connection stays, is closed, or is replaced by a fresh one. -/
inductive ClientChange (proxy : Proxy n) (event : Event n) (result : Proxy n) : Prop where
  | kept (fd_eq : result.client.fd = proxy.client.fd)
      (connected_eq : result.client.connected = proxy.client.connected)
  | closed (gone : result.client.connected = false)
  | accepted (registered : registers event = true)
      (fd_eq : result.client.fd = some proxy.nextFd)
      (connected : result.client.connected = true)
      (nextFd_eq : result.nextFd = proxy.nextFd + 1)

theorem close_connected (client : Client) : client.close.connected = false := by
  simp only [Client.close]
  split_ifs with connected
  · rfl
  · simpa using connected

theorem KeptOrClosed.change {proxy result : Proxy n} {event : Event n}
    (kept : KeptOrClosed proxy.client result.client) :
    ClientChange proxy event result := by
  rcases kept with same | closed
  · exact .kept (by rw [same]) (by rw [same])
  · exact .closed (by rw [closed, close_connected])

theorem ProxyMove.clientChange {env : Env} {proxy result : Proxy n} {event : Event n}
    (move : ProxyMove env proxy event result) :
    ClientChange proxy event result := by
  cases move with
  | replaced registered =>
      simp only [listenerCb]
      cases registered with
      | true =>
          simp only [if_true]
          split_ifs
          · exact .accepted rfl rfl rfl rfl
          · exact .accepted rfl rfl rfl rfl
      | false =>
          simp only [Bool.false_eq_true, if_false]
          split_ifs
          · exact .closed (close_connected proxy.client)
          · exact .kept rfl rfl
  | hungUp => exact .closed (close_connected proxy.client)
  | request event chunk method result bytes accepted idle nonempty acceptance =>
      rcases Acceptance.client acceptance with same | closed
      · refine .kept ?_ ?_
        · change result.client.fd = _
          rw [same]
          rfl
        · change result.client.connected = _
          rw [same]
          rfl
      · refine .closed ?_
        change result.client.connected = _
        rw [closed, close_connected]
  | lateResponse =>
      refine KeptOrClosed.change (Or.inl ?_)
      rw [drainSlot_client]
      rfl
  | response node slot event results chunk nonempty out receiving complete active result move =>
      exact KeptOrClosed.change (Or.inl (ResponseMove.client_eq move))
  | lateError =>
      refine KeptOrClosed.change (Or.inl ?_)
      rw [drainSlot_client]
      rfl
  | error node slot event results out busy active result move =>
      have kept := ErrorMove.client move
      exact KeptOrClosed.change kept
  | rotated node result =>
      exact KeptOrClosed.change (Or.inl (rotationEvent_client proxy node result))
  | expired fd results registered result move => exact KeptOrClosed.change (TimeoutMove.client move)
  | _ => exact .kept rfl rfl

/-- What every callback does to the client connection. -/
theorem step_clientChange (env : Env) (proxy : Proxy n) (event : Event n)
    (wellFormed : WellFormed proxy) :
    ClientChange proxy event (step env proxy event) :=
  ProxyMove.clientChange (step_move env proxy event wellFormed)

/-- The connection that a write reaches stays, is gone, or is a fresh one. -/
theorem ClientChange.target_cases {proxy result : Proxy n} {event : Event n}
    (change : ClientChange proxy event result) :
    result.client.target = proxy.client.target ∨ result.client.target = none ∨
      registers event = true ∧ result.client.target = some proxy.nextFd ∧
        result.nextFd = proxy.nextFd + 1 := by
  cases change with
  | kept fd_eq connected_eq =>
      refine Or.inl ?_
      rw [Client.target, Client.target, fd_eq, connected_eq]
  | closed gone =>
      refine Or.inr (Or.inl ?_)
      rw [Client.target, gone]
      rfl
  | accepted registered fd_eq connected nextFd_eq =>
      refine Or.inr (Or.inr ⟨registered, ?_, nextFd_eq⟩)
      rw [Client.target, connected, fd_eq]
      rfl

theorem ClientChange.targetSound {proxy result : Proxy n} {event : Event n}
    (change : ClientChange proxy event result) (sound : TargetSound proxy.client) :
    TargetSound result.client := by
  cases change with
  | kept fd_eq connected_eq =>
      rw [TargetSound, Client.target, fd_eq, connected_eq]
      exact sound
  | closed gone => simp [TargetSound, Client.target, gone]
  | accepted registered fd_eq connected nextFd_eq =>
      simp [TargetSound, Client.target, fd_eq, connected]

/-! ## The request buffer -/

/-- The request buffer after an event. -/
def bufferAfter (proxy : Proxy n) (event : Event n) : Memory :=
  match storedChunk proxy event with
  | none => proxy.client.recvBuf
  | some chunk => (withChunk proxy chunk).client.recvBuf

theorem ProxyMove.recvBuf_eq {env : Env} {proxy result : Proxy n} {event : Event n}
    (move : ProxyMove env proxy event result) :
    result.client.recvBuf = bufferAfter proxy event := by
  cases move with
  | ignored event noBytes unheard => simp [bufferAfter, noBytes]
  | elapsed => rfl
  | notified => rfl
  | replaced registered =>
      change (listenerCb proxy (.accepted registered)).client.recvBuf = proxy.client.recvBuf
      simp only [listenerCb]
      split_ifs <;> simp [close_recvBuf]
  | hungUp event connected noBytes =>
      rw [bufferAfter, noBytes]
      exact close_recvBuf proxy.client
  | stored event chunk bytes waiting =>
      rw [bufferAfter, bytes]
  | dropped event chunk bytes waiting =>
      rw [bufferAfter, bytes]
      rfl
  | request event chunk method result bytes accepted idle nonempty acceptance =>
      rw [bufferAfter, bytes]
      exact (Acceptance.client acceptance).recvBuf_eq
  | moved => rfl
  | connected => rfl
  | lateResponse node slot event results chunk =>
      rw [drainSlot_client]
      rfl
  | response node slot event results chunk nonempty out receiving complete active result move =>
      rw [ResponseMove.client_eq move]
      rfl
  | lateError =>
      rw [drainSlot_client]
      rfl
  | error node slot event results out busy active result move =>
      exact (ErrorMove.client move).recvBuf_eq
  | rotated node result =>
      rw [rotationEvent_client]
      rfl
  | expired fd results registered result move => exact (TimeoutMove.client move).recvBuf_eq

theorem step_recvBuf (env : Env) (proxy : Proxy n) (event : Event n)
    (wellFormed : WellFormed proxy) :
    (step env proxy event).client.recvBuf = bufferAfter proxy event :=
  ProxyMove.recvBuf_eq (step_move env proxy event wellFormed)

end RpcRace.ClientMoves
