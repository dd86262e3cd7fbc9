import RpcRace.ConnectionPair

/-!
# What the proxy does to a connection pair

Every handler acts on a pair by a sequence of the operations collected in
`PairOp`.  An invariant of a pair that each of them keeps therefore holds in
every reachable state.  The first such invariant is that the standby never
has a request in flight.
-/

namespace RpcRace.PairMoves

open RpcRace.Library.CString
open RpcRace.Library.Run
open RpcRace.RpcConn
open RpcRace.ConnectionPair

/-! ## Slot indices -/

theorem standbyIdx_ne (pair : ConnPair) : pair.standbyIdx ≠ pair.activeIdx := by
  unfold ConnPair.standbyIdx
  generalize pair.activeIdx = active
  revert active
  decide

theorem eq_standby_of_ne_active (pair : ConnPair) (slot : Fin 2)
    (different : slot ≠ pair.activeIdx) :
    slot = pair.standbyIdx := by
  unfold ConnPair.standbyIdx
  revert different
  generalize pair.activeIdx = active
  revert slot active
  decide

theorem one_sub_standbyIdx (pair : ConnPair) : 1 - pair.standbyIdx = pair.activeIdx := by
  unfold ConnPair.standbyIdx
  generalize pair.activeIdx = active
  revert active
  decide

@[simp]
theorem setSlot_activeIdx (pair : ConnPair) (slot : Fin 2) (conn : UpstreamConn) :
    (pair.setSlot slot conn).activeIdx = pair.activeIdx :=
  rfl

@[simp]
theorem setSlot_standbyIdx (pair : ConnPair) (slot : Fin 2) (conn : UpstreamConn) :
    (pair.setSlot slot conn).standbyIdx = pair.standbyIdx :=
  rfl

theorem setSlot_slots (pair : ConnPair) (slot other : Fin 2) (conn : UpstreamConn) :
    (pair.setSlot slot conn).slots other = if other = slot then conn else pair.slots other := by
  simp [ConnPair.setSlot, Function.update_apply]

@[simp]
theorem setSlot_slots_self (pair : ConnPair) (slot : Fin 2) (conn : UpstreamConn) :
    (pair.setSlot slot conn).slots slot = conn := by
  simp [setSlot_slots]

/-! ## Slots under the operations -/

/-- A standby that is refreshed is closed first. -/
theorem closedStandby_state {pair : ConnPair} (refreshable : pair.standbyRefreshable = true) :
    pair.closedStandby.state = .disconnected := by
  unfold ConnPair.closedStandby
  dsimp only
  split_ifs with connected
  · rfl
  · simpa [ConnPair.standbyRefreshable, connected] using refreshable

/-- A refreshed standby is a new connection, or none if `connect` failed. -/
theorem refreshed_eq {pair : ConnPair} (refreshable : pair.standbyRefreshable = true)
    (result : ConnectResult) (fd : Nat) :
    (rpcConnConnect pair.closedStandby result fd).1 =
      match result with
      | .failed => pair.closedStandby
      | .immediate =>
          { pair.closedStandby with
            fd := some fd, interest := some ⟨true, false⟩, state := .connected }
      | .inProgress =>
          { pair.closedStandby with
            fd := some fd, interest := some ⟨false, true⟩, state := .connecting } := by
  unfold rpcConnConnect
  rw [if_neg (not_not.mpr (closedStandby_state refreshable))]
  cases result <;> rfl

theorem connPairTick_slots (pair : ConnPair) : (connPairTick pair).slots = pair.slots := by
  unfold connPairTick
  split_ifs <;> rfl

theorem runOnConnected_slots (pair : ConnPair) (slot : Fin 2) :
    (runOnConnected pair slot).slots = pair.slots := by
  unfold runOnConnected
  cases (pair.slots slot).onConnected with
  | slotOnConnected => rfl
  | standbyOnConnected =>
      dsimp only
      unfold standbyOnConnected
      dsimp only
      split_ifs
      · rfl
      · rfl
      · exact connPairTick_slots pair

/-- A rotation touches the standby alone. -/
theorem rotationTimerCb_slots (pair : ConnPair) (result : ConnectResult) (fd : Nat)
    (slot : Fin 2) :
    (rotationTimerCb pair result fd).slots slot =
      if pair.standbyRefreshable = true ∧ slot = pair.standbyIdx then
        (rpcConnConnect pair.closedStandby result fd).1
      else pair.slots slot := by
  have refresh : (refreshStandby pair result fd).slots slot =
      if pair.standbyRefreshable = true ∧ slot = pair.standbyIdx then
        (rpcConnConnect pair.closedStandby result fd).1
      else pair.slots slot := by
    unfold refreshStandby
    dsimp only
    split_ifs with refreshable established standby standby other
    · rw [runOnConnected_slots, setSlot_slots, if_pos standby.2]
    · rw [runOnConnected_slots, setSlot_slots, if_neg fun same => standby ⟨refreshable, same⟩]
    · rw [setSlot_slots, if_pos standby.2]
    · rw [setSlot_slots, if_neg fun same => standby ⟨refreshable, same⟩]
    · exact absurd other.1 refreshable
    · rfl
  unfold rotationTimerCb
  rw [connPairTick_slots]
  exact refresh

/-! ## Operations -/

/-- The operations by which handlers act on a pair. -/
inductive PairOp : ConnPair → ConnPair → Prop where
  | io (pair : ConnPair) (slot : Fin 2) (shared : Memory) (outcome : ConnOutcome)
      (move : ConnMove shared (pair.slots slot) outcome) :
      PairOp pair (pair.setSlot slot outcome.conn)
  | onConnected (pair : ConnPair) (slot : Fin 2) :
      PairOp pair (runOnConnected pair slot)
  | rotate (pair : ConnPair) (result : ConnectResult) (fd : Nat) :
      PairOp pair (rotationTimerCb pair result fd)
  | reportError (pair : ConnPair) :
      PairOp pair (connPairReportError pair)
  | send (pair : ConnPair) (len : Nat) (conn : UpstreamConn)
      (sent : rpcConnSend (connPairGetActive pair) len = some conn) :
      PairOp pair (pair.setSlot pair.activeIdx conn)
  | reset (pair : ConnPair) (slot : Fin 2) :
      PairOp pair (pair.setSlot slot (rpcConnReset (pair.slots slot)))
  | tick (pair : ConnPair) :
      PairOp pair (connPairTick pair)
  | mark (pair : ConnPair) (slot : Fin 2) (inIbd : Bool) :
      PairOp pair (pair.setSlot slot { pair.slots slot with inIbd := inIbd })

/-- Any number of operations on one pair. -/
abbrev PairOps := Relation.ReflTransGen PairOp

/-- A property that every operation keeps is kept by any number of them. -/
theorem PairOps.preserve {property : ConnPair → Prop}
    (keep : ∀ before after, PairOp before after → property before → property after)
    {before after : ConnPair} (operations : PairOps before after) (start : property before) :
    property after := by
  induction operations with
  | refl => exact start
  | tail _ last induction => exact keep _ _ last induction

/-- A property of connections that every operation on a connection keeps. -/
structure ConnInvariant (property : UpstreamConn → Prop) : Prop where
  move : ∀ shared conn outcome, ConnMove shared conn outcome → property conn →
    property outcome.conn
  disconnect : ∀ conn, property conn → property (rpcConnDisconnect conn)
  connect : ∀ conn result fd, property conn → property (rpcConnConnect conn result fd).1
  install : ∀ conn callback, property conn → property { conn with onConnected := callback }
  send : ∀ conn len, conn.state = .connected → property conn → property (conn.beginSend len)
  reset : ∀ conn, property conn → property (rpcConnReset conn)
  mark : ∀ conn inIbd, property conn → property { conn with inIbd := inIbd }

theorem ConnInvariant.setSlot {property : UpstreamConn → Prop} {pair : ConnPair}
    (all : ∀ slot, property (pair.slots slot)) (slot : Fin 2) {conn : UpstreamConn}
    (new : property conn) (other : Fin 2) :
    property ((pair.setSlot slot conn).slots other) := by
  rw [setSlot_slots]
  split_ifs
  · exact new
  · exact all other

theorem ConnInvariant.closedStandby {property : UpstreamConn → Prop}
    (invariant : ConnInvariant property) {pair : ConnPair}
    (standby : property (pair.slots pair.standbyIdx)) :
    property pair.closedStandby := by
  apply invariant.install
  split_ifs
  · exact invariant.disconnect _ standby
  · exact standby

/-- Every operation on a pair keeps such a property for both slots. -/
theorem ConnInvariant.slots {property : UpstreamConn → Prop}
    (invariant : ConnInvariant property) {before after : ConnPair}
    (operation : PairOp before after) (all : ∀ slot, property (before.slots slot)) :
    ∀ slot, property (after.slots slot) := by
  cases operation with
  | io slot shared outcome move =>
      exact ConnInvariant.setSlot all slot (invariant.move shared _ outcome move (all slot))
  | onConnected slot =>
      rw [runOnConnected_slots]
      exact all
  | rotate result fd =>
      intro slot
      rw [rotationTimerCb_slots]
      split_ifs with refreshed
      · exact invariant.connect _ result fd (invariant.closedStandby (all _))
      · exact all slot
  | reportError =>
      exact ConnInvariant.setSlot all before.activeIdx (invariant.disconnect _ (all _))
  | send len conn sent =>
      rcases rpcConnSend_eq_some.mp sent with ⟨-, connected, rfl⟩
      exact ConnInvariant.setSlot all before.activeIdx (invariant.send _ len connected (all _))
  | reset slot => exact ConnInvariant.setSlot all slot (invariant.reset _ (all slot))
  | tick =>
      rw [connPairTick_slots]
      exact all
  | mark slot inIbd => exact ConnInvariant.setSlot all slot (invariant.mark _ inIbd (all slot))

/-! ## Runs of a pair -/

/-- What happens to a pair. -/
inductive PairEvent where
  /-- `conn_epoll_cb` of a slot, with the `on_connected` callback it may run. -/
  | io (slot : Fin 2) (shared : Memory) (event : ConnEvent)
  /-- The rotation timer expires. -/
  | rotate (result : ConnectResult) (fd : Nat)
  | reportError
  | send (len : Nat)
  | reset (slot : Fin 2)
  | tick
  /-- The proxy notes whether the node is in its initial block download. -/
  | mark (slot : Fin 2) (inIbd : Bool)

/-- One handler, or one call of the proxy, on a pair. -/
def pairStep (pair : ConnPair) : PairEvent → ConnPair
  | .io slot shared event =>
      let outcome := connEpollCb shared (pair.slots slot) event
      let moved := pair.setSlot slot outcome.conn
      if outcome.upcall = some .connected then runOnConnected moved slot else moved
  | .rotate result fd => rotationTimerCb pair result fd
  | .reportError => connPairReportError pair
  | .send len =>
      match rpcConnSend (connPairGetActive pair) len with
      | none => pair
      | some conn => pair.setSlot pair.activeIdx conn
  | .reset slot => pair.setSlot slot (rpcConnReset (pair.slots slot))
  | .tick => connPairTick pair
  | .mark slot inIbd => pair.setSlot slot { pair.slots slot with inIbd := inIbd }

/-- A pair becomes another one by some events. -/
def PairRuns (before after : ConnPair) : Prop :=
  ∃ events, run pairStep before events = after

theorem PairRuns.refl (pair : ConnPair) : PairRuns pair pair :=
  ⟨[], rfl⟩

theorem PairRuns.single (pair : ConnPair) (event : PairEvent) :
    PairRuns pair (pairStep pair event) :=
  ⟨[event], rfl⟩

theorem PairRuns.trans {first second third : ConnPair} (start : PairRuns first second)
    (rest : PairRuns second third) :
    PairRuns first third := by
  rcases start with ⟨before, rfl⟩
  rcases rest with ⟨after, rfl⟩
  exact ⟨before ++ after, run_append first before after⟩

/-- Traffic that completes no connect runs no callback of the pair. -/
theorem PairRuns.io {pair : ConnPair} {slot : Fin 2} {shared : Memory} {event : ConnEvent}
    {outcome : ConnOutcome} (out : connEpollCb shared (pair.slots slot) event = outcome)
    (other : outcome.upcall ≠ some .connected) :
    PairRuns pair (pair.setSlot slot outcome.conn) := by
  have single := PairRuns.single pair (.io slot shared event)
  rwa [pairStep, out, if_neg other] at single

theorem PairRuns.connected {pair : ConnPair} {slot : Fin 2} {shared : Memory} {event : ConnEvent}
    {outcome : ConnOutcome} (out : connEpollCb shared (pair.slots slot) event = outcome)
    (upcall : outcome.upcall = some .connected) :
    PairRuns pair (runOnConnected (pair.setSlot slot outcome.conn) slot) := by
  have single := PairRuns.single pair (.io slot shared event)
  rwa [pairStep, out, if_pos upcall] at single

theorem PairRuns.send {pair : ConnPair} {len : Nat} {conn : UpstreamConn}
    (sent : rpcConnSend (connPairGetActive pair) len = some conn) :
    PairRuns pair (pair.setSlot pair.activeIdx conn) := by
  have single := PairRuns.single pair (.send len)
  rwa [pairStep, sent] at single

/-- An event is one operation, or two with the callback of a connect. -/
theorem pairStep_ops (pair : ConnPair) (event : PairEvent) :
    PairOps pair (pairStep pair event) := by
  cases event with
  | io slot shared event =>
      have move := PairOp.io pair slot shared _ (connEpollCb_move shared (pair.slots slot) event)
      simp only [pairStep]
      split_ifs
      · exact (Relation.ReflTransGen.single move).tail (.onConnected _ slot)
      · exact .single move
  | rotate result fd => exact .single (.rotate pair result fd)
  | reportError => exact .single (.reportError pair)
  | send len =>
      simp only [pairStep]
      cases sent : rpcConnSend (connPairGetActive pair) len with
      | none => exact .refl
      | some conn => exact .single (.send pair len conn sent)
  | reset slot => exact .single (.reset pair slot)
  | tick => exact .single (.tick pair)
  | mark slot inIbd => exact .single (.mark pair slot inIbd)

theorem PairRuns.ops {before after : ConnPair} (runs : PairRuns before after) :
    PairOps before after := by
  rcases runs with ⟨events, rfl⟩
  induction events generalizing before with
  | nil => exact .refl
  | cons event rest induction => exact (pairStep_ops before event).trans induction

/-! ## The standby is never busy -/

/-- The standby slot has no request in flight. -/
def StandbyQuiet (pair : ConnPair) : Prop :=
  (pair.slots pair.standbyIdx).inFlight = false

/-- A busy slot is the active one. -/
theorem StandbyQuiet.eq_active {pair : ConnPair} (quiet : StandbyQuiet pair) {slot : Fin 2}
    (busy : (pair.slots slot).inFlight = true) :
    slot = pair.activeIdx := by
  by_contra different
  rw [eq_standby_of_ne_active pair slot different] at busy
  rw [StandbyQuiet, busy] at quiet
  contradiction

/-- Replacing a slot by one that is busy only if the old one was keeps the standby quiet. -/
theorem StandbyQuiet.setSlot {pair : ConnPair} (quiet : StandbyQuiet pair) (slot : Fin 2)
    (conn : UpstreamConn) (calm : slot = pair.standbyIdx → conn.inFlight = false) :
    StandbyQuiet (pair.setSlot slot conn) := by
  unfold StandbyQuiet
  rw [setSlot_standbyIdx, setSlot_slots]
  split_ifs with same
  · exact calm same.symm
  · exact quiet

/-- A swap that leaves a slot that is not busy as the standby. -/
theorem standbyQuiet_swap (pair : ConnPair) (required : Bool)
    (calm : (connPairGetActive pair).inFlight = false) :
    StandbyQuiet { pair with activeIdx := pair.standbyIdx, swapRequired := required } := by
  unfold StandbyQuiet
  rw [show ({ pair with activeIdx := pair.standbyIdx, swapRequired := required } :
      ConnPair).standbyIdx = pair.activeIdx from one_sub_standbyIdx pair]
  exact calm

theorem StandbyQuiet.connPairTick {pair : ConnPair} (quiet : StandbyQuiet pair) :
    StandbyQuiet (connPairTick pair) := by
  unfold ConnectionPair.connPairTick
  split_ifs with ready
  · exact standbyQuiet_swap pair false (by simp [UpstreamConn.inFlight, ready.2.1])
  · exact quiet

theorem StandbyQuiet.runOnConnected {pair : ConnPair} (quiet : StandbyQuiet pair)
    (slot : Fin 2) :
    StandbyQuiet (runOnConnected pair slot) := by
  unfold ConnectionPair.runOnConnected
  cases (pair.slots slot).onConnected with
  | slotOnConnected => exact quiet
  | standbyOnConnected =>
      dsimp only
      unfold standbyOnConnected
      dsimp only
      split_ifs with other down
      · exact quiet
      · exact standbyQuiet_swap pair false (by simp [UpstreamConn.inFlight, down])
      · exact quiet.connPairTick

theorem rpcConnConnect_inFlight (conn : UpstreamConn) (result : ConnectResult) (fd : Nat)
    (calm : conn.inFlight = false) :
    (rpcConnConnect conn result fd).1.inFlight = false := by
  unfold rpcConnConnect
  split_ifs
  · exact calm
  · cases result with
    | failed => exact calm
    | inProgress => rfl
    | immediate => rfl

theorem StandbyQuiet.closedStandby {pair : ConnPair} (quiet : StandbyQuiet pair) :
    pair.closedStandby.inFlight = false := by
  unfold ConnPair.closedStandby UpstreamConn.inFlight
  dsimp only
  split_ifs
  · simp
  · exact quiet

theorem StandbyQuiet.refreshStandby {pair : ConnPair} (quiet : StandbyQuiet pair)
    (result : ConnectResult) (fd : Nat) :
    StandbyQuiet (refreshStandby pair result fd) := by
  unfold ConnectionPair.refreshStandby
  dsimp only
  have closed := quiet.closedStandby
  split_ifs with refreshable established
  · exact (quiet.setSlot _ _ fun _ => rpcConnConnect_inFlight _ _ _ closed).runOnConnected _
  · exact quiet.setSlot _ _ fun _ => rpcConnConnect_inFlight _ _ _ closed
  · exact quiet

/-- Every operation keeps the standby quiet. -/
theorem PairOp.standbyQuiet {before after : ConnPair} (operation : PairOp before after)
    (quiet : StandbyQuiet before) :
    StandbyQuiet after := by
  cases operation with
  | io slot shared outcome move =>
      refine quiet.setSlot slot outcome.conn fun standby => ?_
      by_contra busy
      have wasBusy := move.inFlight_of_inFlight (by simpa using busy)
      rw [standby, quiet] at wasBusy
      contradiction
  | onConnected slot => exact quiet.runOnConnected slot
  | rotate result fd =>
      exact StandbyQuiet.connPairTick (quiet.refreshStandby result fd)
  | reportError =>
      refine standbyQuiet_swap (before.setSlot before.activeIdx _) false ?_
      simp [connPairGetActive, UpstreamConn.inFlight]
  | send len conn sent =>
      exact quiet.setSlot _ _ fun standby => (standbyIdx_ne before standby.symm).elim
  | reset slot => exact quiet.setSlot _ _ fun _ => rpcConnReset_inFlight _
  | tick => exact quiet.connPairTick
  | mark slot inIbd =>
      refine quiet.setSlot _ _ fun standby => ?_
      rw [standby]
      exact quiet

/-- What holds of every newly opened connection holds of both slots of a new pair. -/
theorem connPairInit_slots (property : UpstreamConn → Prop) (boot : PairBoot) (fd : Fin 2 → Nat)
    (opened : ∀ slot callback,
      property (rpcConnConnect (rpcConnInit (boot.recvBuf slot) callback)
        (boot.connect slot) (fd slot)).1) (slot : Fin 2) :
    property ((connPairInit boot fd).slots slot) := by
  revert slot
  unfold connPairInit
  dsimp only
  split_ifs
  · rw [runOnConnected_slots]
    exact Fin.forall_fin_two.mpr ⟨opened 0 _, opened 1 _⟩
  · exact Fin.forall_fin_two.mpr ⟨opened 0 _, opened 1 _⟩

/-- A new pair has no request in flight at all. -/
theorem connPairInit_quiet (boot : PairBoot) (fd : Fin 2 → Nat) (slot : Fin 2) :
    ((connPairInit boot fd).slots slot).inFlight = false := by
  apply connPairInit_slots fun conn => conn.inFlight = false
  intro slot callback
  exact rpcConnConnect_inFlight _ _ _ rfl

theorem connPairInit_standbyQuiet (boot : PairBoot) (fd : Fin 2 → Nat) :
    StandbyQuiet (connPairInit boot fd) :=
  connPairInit_quiet boot fd _

end RpcRace.PairMoves
