import RpcRace.ProxyMoves

/-!
# Rotation to fresher connections

A run of a connection pair is a list of `PairEvent`s in any order: traffic
on its slots, requests, errors and expiries of the rotation timer, with
connects that complete at once or later.  `TimedPair` puts beside the pair
the time at which the current connection of each slot was established, and
the swaps that `conn_pair_tick` has made.  Its functions follow those of
`conn_pair.c` and do the same to the pair, so they watch what the proxy does
to each of its pairs (`run_timed`).

`rotation_timer_cb` sets `swap_required` after `refresh_standby`, which may
already have swapped in the callback of a connect that completes at once;
then `conn_pair_tick` swaps back.  `fresher_iff_singleSwap` says that this
is the only way to an older connection.
-/

namespace RpcRace.Rotation

open RpcRace.Library.CString
open RpcRace.Library.Run
open RpcRace.RpcConn
open RpcRace.ConnectionPair
open RpcRace.PairMoves
open RpcRace.RpcProxy
open RpcRace.ProxyMoves

/-! ## The times of the connections -/

/-- A swap: when the two connections were established. -/
structure Swap where
  replaced : Nat
  chosen : Nat
deriving DecidableEq

/-- A pair, the time at which each slot's connection was established, and the swaps. -/
structure TimedPair where
  pair : ConnPair
  born : Fin 2 → Nat
  clock : Nat
  swaps : List Swap

/-- The slot of a pair that is active. -/
def TimedPair.active (timed : TimedPair) : UpstreamConn :=
  connPairGetActive timed.pair

/-- The other slot. -/
def TimedPair.standby (timed : TimedPair) : UpstreamConn :=
  timed.pair.slots timed.pair.standbyIdx

/-- Replace one slot of the pair. -/
def TimedPair.setSlot (timed : TimedPair) (slot : Fin 2) (conn : UpstreamConn) : TimedPair :=
  { timed with pair := timed.pair.setSlot slot conn }

/-- A connection is established now. -/
def TimedPair.establish (timed : TimedPair) (slot : Fin 2) : TimedPair :=
  { timed with born := Function.update timed.born slot timed.clock, clock := timed.clock + 1 }

/-- Make the standby the active slot. -/
def TimedPair.swap (timed : TimedPair) (swaps : List Swap) : TimedPair :=
  { timed with
    pair := { timed.pair with activeIdx := timed.pair.standbyIdx, swapRequired := false }
    swaps := swaps }

/-- `conn_pair_tick`, which records its swap. -/
def TimedPair.tick (timed : TimedPair) : TimedPair :=
  if timed.pair.swapRequired ∧ timed.active.state = .connected ∧
      timed.standby.state = .connected then
    timed.swap
      (⟨timed.born timed.pair.activeIdx, timed.born timed.pair.standbyIdx⟩ :: timed.swaps)
  else timed

/-- A connection that is neither idle nor busy. -/
def IsDown (conn : UpstreamConn) : Prop :=
  conn.state ≠ .connected ∧ conn.state ≠ .sending ∧ conn.state ≠ .receiving

instance (conn : UpstreamConn) : Decidable (IsDown conn) :=
  inferInstanceAs (Decidable (_ ∧ _))

/-- The `on_connected` callback of a slot. -/
def TimedPair.onConnected (timed : TimedPair) (slot : Fin 2) : TimedPair :=
  match (timed.pair.slots slot).onConnected with
  | .slotOnConnected => timed
  | .standbyOnConnected =>
      if slot ≠ timed.pair.standbyIdx then timed
      else if IsDown timed.active then timed.swap timed.swaps
      else timed.tick

/-- `refresh_standby`. -/
def TimedPair.refresh (timed : TimedPair) (result : ConnectResult) (fd : Nat) : TimedPair :=
  if timed.pair.standbyRefreshable then
    let opened := rpcConnConnect timed.pair.closedStandby result fd
    let refreshed := timed.setSlot timed.pair.standbyIdx opened.1
    if opened.2 then
      (refreshed.establish timed.pair.standbyIdx).onConnected timed.pair.standbyIdx
    else refreshed
  else timed

/-- Set `swap_required`. -/
def TimedPair.requireSwap (timed : TimedPair) : TimedPair :=
  { timed with pair := { timed.pair with swapRequired := true } }

/-- The events on a pair, with the times and the swaps. -/
def timedStep (timed : TimedPair) : PairEvent → TimedPair
  | .io slot shared event =>
      let outcome := connEpollCb shared (timed.pair.slots slot) event
      let moved := timed.setSlot slot outcome.conn
      if outcome.upcall = some .connected then (moved.establish slot).onConnected slot else moved
  | .rotate result fd => (timed.refresh result fd).requireSwap.tick
  | .tick => timed.tick
  | event => { timed with pair := pairStep timed.pair event }

/-- A new pair of which slot zero, connected first, is active. -/
def startPair (first second : UpstreamConn) : TimedPair :=
  ⟨⟨![first, second], firstSlot, false⟩, ![0, 1], 2, []⟩

/-- `conn_pair_init`. -/
def timedInit (boot : PairBoot) (fd : Fin 2 → Nat) : TimedPair :=
  let first :=
    rpcConnConnect (rpcConnInit (boot.recvBuf firstSlot) .slotOnConnected)
      (boot.connect firstSlot) (fd firstSlot)
  let second :=
    rpcConnConnect (rpcConnInit (boot.recvBuf secondSlot) .standbyOnConnected)
      (boot.connect secondSlot) (fd secondSlot)
  let timed := startPair first.1 second.1
  if second.2 then timed.onConnected secondSlot else timed

theorem tick_pair (timed : TimedPair) : timed.tick.pair = connPairTick timed.pair := by
  unfold TimedPair.tick connPairTick
  split_ifs with ready swapped swapped
  · rfl
  · exact absurd ready swapped
  · exact absurd swapped ready
  · rfl

theorem onConnected_pair (timed : TimedPair) (slot : Fin 2) :
    (timed.onConnected slot).pair = runOnConnected timed.pair slot := by
  unfold TimedPair.onConnected runOnConnected standbyOnConnected
  cases (timed.pair.slots slot).onConnected with
  | slotOnConnected => rfl
  | standbyOnConnected =>
      dsimp only
      by_cases other : slot ≠ timed.pair.standbyIdx
      · rw [if_pos other, if_pos other]
      · rw [if_neg other, if_neg other, apply_ite TimedPair.pair, tick_pair]
        rfl

theorem refresh_pair (timed : TimedPair) (result : ConnectResult) (fd : Nat) :
    (timed.refresh result fd).pair = refreshStandby timed.pair result fd := by
  unfold TimedPair.refresh refreshStandby
  dsimp only
  split_ifs
  · exact onConnected_pair _ _
  · rfl
  · rfl

theorem timedInit_pair (boot : PairBoot) (fd : Fin 2 → Nat) :
    (timedInit boot fd).pair = connPairInit boot fd := by
  unfold timedInit connPairInit
  dsimp only
  split_ifs
  · exact onConnected_pair _ _
  · rfl

/-- The times and the swaps are only watched: the pair does what it does without them. -/
theorem timedStep_pair (timed : TimedPair) (event : PairEvent) :
    (timedStep timed event).pair = pairStep timed.pair event := by
  cases event with
  | io slot shared event =>
      simp only [timedStep, pairStep]
      split_ifs
      · exact onConnected_pair _ _
      · rfl
  | rotate result fd =>
      change (timed.refresh result fd).requireSwap.tick.pair = _
      rw [tick_pair, TimedPair.requireSwap, refresh_pair]
      rfl
  | tick => exact tick_pair timed
  | _ => rfl

theorem run_timedStep_pair (timed : TimedPair) (events : List PairEvent) :
    (run timedStep timed events).pair = run pairStep timed.pair events := by
  induction events generalizing timed with
  | nil => rfl
  | cons event rest induction => rw [run_cons, run_cons, induction, timedStep_pair]

/-- What the proxy does to a pair in a run is a run that is watched. -/
theorem run_timed {n : Nat} (env : Env) (boot : Boot n) (events : List (Event n))
    (node : Fin n) :
    ∃ fd pairEvents, (run timedStep (timedInit (boot.pair node) fd) pairEvents).pair =
      (run (step env) (rpcProxyCreate boot) events).pairs node := by
  rcases run_pairRuns env boot events node with ⟨pairEvents, reached⟩
  refine ⟨fun slot => 2 * node.val + slot.val, pairEvents, ?_⟩
  rw [run_timedStep_pair, timedInit_pair]
  exact reached

/-! ## Freshness -/

/-- Every swap so far went to a connection established after the one it replaced. -/
def Fresher (timed : TimedPair) : Prop :=
  ∀ swap ∈ timed.swaps, swap.replaced < swap.chosen

instance (timed : TimedPair) : Decidable (Fresher timed) :=
  inferInstanceAs (Decidable (∀ _ ∈ _, _))

/--
The timer does not expire with a swap still required and the active slot
idle, while the connect of the standby completes at once.
-/
def SingleSwap (timed : TimedPair) (event : PairEvent) : Prop :=
  match event with
  | .rotate result _ =>
      ¬ (timed.pair.swapRequired = true ∧ timed.active.state = .connected ∧
        timed.pair.standbyRefreshable = true ∧ result = .immediate)
  | _ => True

instance (timed : TimedPair) (event : PairEvent) : Decidable (SingleSwap timed event) :=
  match event with
  | .rotate _ _ => inferInstanceAs (Decidable (¬ _))
  | .io _ _ _ | .reportError | .send _ | .reset _ | .tick | .mark _ _ => .isTrue trivial

/--
A standby that a required swap would choose is newer than the active slot.
An active slot that is still connecting may not fall behind: the standby is
never ahead of it with a connection, and when it gets one, it takes over.
-/
structure Fresh (timed : TimedPair) : Prop where
  fresher : Fresher timed
  past : ∀ slot, timed.born slot < timed.clock
  quiet : StandbyQuiet timed.pair
  newer : timed.pair.swapRequired = true → timed.standby.state = .connected →
    timed.born timed.pair.activeIdx < timed.born timed.pair.standbyIdx
  ahead : timed.standby.state = .connected → timed.active.state ≠ .connecting
  takesOver : timed.standby.state = .connecting →
    timed.standby.onConnected = .slotOnConnected → timed.active.state ≠ .connecting

@[simp]
theorem swap_active (timed : TimedPair) (swaps : List Swap) :
    (timed.swap swaps).active = timed.standby :=
  rfl

@[simp]
theorem swap_standby (timed : TimedPair) (swaps : List Swap) :
    (timed.swap swaps).standby = timed.active := by
  change timed.pair.slots (1 - timed.pair.standbyIdx) = timed.active
  rw [one_sub_standbyIdx]
  rfl

/-- A swap with a connected standby, or away from a closed connection. -/
theorem Fresh.swap {timed : TimedPair} (past : ∀ slot, timed.born slot < timed.clock)
    {swaps : List Swap} (fresher : ∀ swap ∈ swaps, swap.replaced < swap.chosen)
    (calm : timed.active.inFlight = false)
    (apart : timed.standby.state = .connected ∨ timed.active.state = .disconnected) :
    Fresh (timed.swap swaps) := by
  refine ⟨fresher, past, standbyQuiet_swap timed.pair false calm, ?_, ?_, ?_⟩
  · intro required
    contradiction
  · rw [swap_standby, swap_active]
    intro connected connecting
    simp [connected, connecting] at apart
  · rw [swap_standby, swap_active]
    intro before _ connecting
    simp [before, connecting] at apart

theorem Fresh.tick {timed : TimedPair} (fresh : Fresh timed) : Fresh timed.tick := by
  unfold TimedPair.tick
  split_ifs with ready
  · rcases ready with ⟨required, active, standby⟩
    apply Fresh.swap fresh.past
    · rw [List.forall_mem_cons]
      exact ⟨fresh.newer required standby, fresh.fresher⟩
    · simp [UpstreamConn.inFlight, active]
    · exact Or.inl standby
  · exact fresh

theorem setStandby_standby (timed : TimedPair) (conn : UpstreamConn) :
    (timed.setSlot timed.pair.standbyIdx conn).standby = conn :=
  (setSlot_slots timed.pair _ timed.pair.standbyIdx conn).trans (if_pos rfl)

theorem setStandby_active (timed : TimedPair) (conn : UpstreamConn) :
    (timed.setSlot timed.pair.standbyIdx conn).active = timed.active :=
  (setSlot_slots timed.pair _ timed.pair.activeIdx conn).trans
    (if_neg (standbyIdx_ne timed.pair).symm)

theorem setActive_standby (timed : TimedPair) (conn : UpstreamConn) :
    (timed.setSlot timed.pair.activeIdx conn).standby = timed.standby :=
  (setSlot_slots timed.pair _ timed.pair.standbyIdx conn).trans
    (if_neg (standbyIdx_ne timed.pair))

theorem setActive_active (timed : TimedPair) (conn : UpstreamConn) :
    (timed.setSlot timed.pair.activeIdx conn).active = conn :=
  (setSlot_slots timed.pair _ timed.pair.activeIdx conn).trans (if_pos rfl)

theorem establish_standby (timed : TimedPair) (slot : Fin 2) :
    (timed.establish slot).standby = timed.standby :=
  rfl

theorem establish_active (timed : TimedPair) (slot : Fin 2) :
    (timed.establish slot).active = timed.active :=
  rfl

/-- A slot that changes without getting a connection. -/
theorem Fresh.setSlot {timed : TimedPair} (fresh : Fresh timed) (slot : Fin 2)
    (conn : UpstreamConn)
    (calm : slot = timed.pair.standbyIdx → conn.inFlight = false)
    (connected : slot = timed.pair.standbyIdx → conn.state = .connected →
      (timed.pair.slots slot).state = .connected)
    (connecting : conn.state = .connecting → (timed.pair.slots slot).state = .connecting)
    (callback : conn.onConnected = (timed.pair.slots slot).onConnected) :
    Fresh (timed.setSlot slot conn) := by
  have quiet := fresh.quiet.setSlot slot conn calm
  by_cases standby : slot = timed.pair.standbyIdx
  · subst standby
    refine ⟨fresh.fresher, fresh.past, quiet, ?_, ?_, ?_⟩
    · rw [setStandby_standby]
      exact fun required established => fresh.newer required (connected rfl established)
    · rw [setStandby_standby, setStandby_active]
      exact fun established => fresh.ahead (connected rfl established)
    · rw [setStandby_standby, setStandby_active, callback]
      exact fun begun => fresh.takesOver (connecting begun)
  · have active : timed.pair.activeIdx = slot := by
      by_contra other
      exact standby (eq_standby_of_ne_active timed.pair slot fun same => other same.symm)
    subst active
    refine ⟨fresh.fresher, fresh.past, quiet, ?_, ?_, ?_⟩
    · rw [setActive_standby]
      exact fresh.newer
    · rw [setActive_standby, setActive_active]
      exact fun established begun => fresh.ahead established (connecting begun)
    · rw [setActive_standby, setActive_active]
      exact fun opening plain begun => fresh.takesOver opening plain (connecting begun)

/-! ## New connections -/

theorem establish_past {timed : TimedPair} (past : ∀ slot, timed.born slot < timed.clock)
    (slot other : Fin 2) :
    (timed.establish slot).born other < (timed.establish slot).clock := by
  change Function.update timed.born slot timed.clock other < timed.clock + 1
  rw [Function.update_apply]
  split_ifs
  · exact Nat.lt_succ_self _
  · exact Nat.lt_succ_of_lt (past other)

/-- The active slot gets its connection: until then the standby had none. -/
theorem Fresh.establishActive {timed : TimedPair} (fresh : Fresh timed) {conn : UpstreamConn}
    (connecting : timed.active.state = .connecting) (connected : conn.state = .connected) :
    Fresh ((timed.setSlot timed.pair.activeIdx conn).establish timed.pair.activeIdx) := by
  refine ⟨fresh.fresher, establish_past fresh.past _, ?_, ?_, ?_, ?_⟩
  · exact fresh.quiet.setSlot _ conn fun same => absurd same.symm (standbyIdx_ne timed.pair)
  · rw [establish_standby, setActive_standby]
    exact fun _ established => absurd connecting (fresh.ahead established)
  · rw [establish_active, setActive_active, connected]
    simp
  · rw [establish_active, setActive_active, connected]
    simp

/-- The standby as a new connection, which is the newest of the pair. -/
structure Opened (before timed : TimedPair) : Prop where
  fresher : Fresher timed
  past : ∀ slot, timed.born slot < timed.clock
  quiet : StandbyQuiet timed.pair
  newest : timed.born timed.pair.activeIdx < timed.born timed.pair.standbyIdx
  standby : timed.standby.state = .connected
  active : timed.active = before.active
  required : timed.pair.swapRequired = before.pair.swapRequired

theorem Fresh.opened {timed : TimedPair} (fresh : Fresh timed) {conn : UpstreamConn}
    (connected : conn.state = .connected) :
    Opened timed ((timed.setSlot timed.pair.standbyIdx conn).establish timed.pair.standbyIdx) where
  fresher := fresh.fresher
  past := establish_past fresh.past _
  quiet := fresh.quiet.setSlot _ conn fun _ => by simp [UpstreamConn.inFlight, connected]
  newest := by
    change Function.update timed.born timed.pair.standbyIdx timed.clock timed.pair.activeIdx <
      Function.update timed.born timed.pair.standbyIdx timed.clock timed.pair.standbyIdx
    rw [Function.update_self, Function.update_of_ne (standbyIdx_ne timed.pair).symm]
    exact fresh.past _
  standby := by rw [establish_standby, setStandby_standby, connected]
  active := by rw [establish_active, setStandby_active]
  required := rfl

theorem Opened.fresh {before timed : TimedPair} (opened : Opened before timed)
    (settled : before.active.state ≠ .connecting) :
    Fresh timed where
  fresher := opened.fresher
  past := opened.past
  quiet := opened.quiet
  newer _ _ := opened.newest
  ahead _ := by rwa [opened.active]
  takesOver opening := by simp [opened.standby] at opening

theorem Opened.swap {before timed : TimedPair} (opened : Opened before timed)
    (down : IsDown timed.active) :
    Fresh (timed.swap timed.swaps) := by
  apply Fresh.swap opened.past opened.fresher
  · simp [UpstreamConn.inFlight, down.2.1, down.2.2]
  · exact Or.inl opened.standby

theorem Opened.onConnected {before timed : TimedPair} (opened : Opened before timed)
    (plain : timed.standby.onConnected = .slotOnConnected → before.active.state ≠ .connecting) :
    Fresh (timed.onConnected timed.pair.standbyIdx) := by
  unfold TimedPair.onConnected
  cases callback : (timed.pair.slots timed.pair.standbyIdx).onConnected with
  | slotOnConnected => exact opened.fresh (plain callback)
  | standbyOnConnected =>
      dsimp only
      rw [if_neg (not_not.mpr rfl)]
      split_ifs with down
      · exact opened.swap down
      · apply Fresh.tick
        apply opened.fresh
        rw [← opened.active]
        intro connecting
        simp [IsDown, connecting] at down

/-! ## Events -/

theorem onConnected_of_ne_standby (timed : TimedPair) {slot : Fin 2}
    (other : slot ≠ timed.pair.standbyIdx) :
    timed.onConnected slot = timed := by
  unfold TimedPair.onConnected
  cases (timed.pair.slots slot).onConnected with
  | slotOnConnected => rfl
  | standbyOnConnected => exact if_pos other

theorem Fresh.io {timed : TimedPair} (fresh : Fresh timed) (slot : Fin 2) (shared : Memory)
    (event : ConnEvent) :
    Fresh (timedStep timed (.io slot shared event)) := by
  have move := connEpollCb_move shared (timed.pair.slots slot) event
  simp only [timedStep]
  generalize connEpollCb shared (timed.pair.slots slot) event = outcome at move
  split_ifs with upcall
  · rcases move.of_connected upcall with ⟨connecting, connected, callback⟩
    by_cases standby : slot = timed.pair.standbyIdx
    · subst standby
      have opened := fresh.opened connected
      refine opened.onConnected fun plain => fresh.takesOver connecting ?_
      rw [TimedPair.standby, ← callback, ← plain, establish_standby, setStandby_standby]
    · have active : slot = timed.pair.activeIdx := by
        by_contra other
        exact standby (eq_standby_of_ne_active timed.pair slot other)
      subst active
      have same := onConnected_of_ne_standby
        ((timed.setSlot timed.pair.activeIdx outcome.conn).establish timed.pair.activeIdx) standby
      rw [same]
      exact fresh.establishActive connecting connected
  · rcases move.unopened upcall with ⟨connected, connecting, callback⟩
    refine fresh.setSlot slot outcome.conn ?_ (fun _ => connected) connecting callback
    intro standby
    by_contra busy
    have wasBusy := move.inFlight_of_inFlight (by simpa using busy)
    rw [standby, fresh.quiet] at wasBusy
    contradiction

theorem Fresh.reportError {timed : TimedPair} (fresh : Fresh timed) :
    Fresh (timedStep timed .reportError) := by
  have past : ∀ slot, (timed.setSlot timed.pair.activeIdx
      (rpcConnDisconnect timed.active)).born slot < timed.clock := fresh.past
  refine Fresh.swap past fresh.fresher ?_ (Or.inr ?_)
  · rw [setActive_active]
    rfl
  · rw [setActive_active]
    rfl

theorem Fresh.send {timed : TimedPair} (fresh : Fresh timed) (len : Nat) :
    Fresh (timedStep timed (.send len)) := by
  change Fresh { timed with pair := pairStep timed.pair (.send len) }
  simp only [pairStep]
  cases sent : rpcConnSend (connPairGetActive timed.pair) len with
  | none => exact fresh
  | some conn =>
      rcases rpcConnSend_eq_some.mp sent with ⟨-, -, rfl⟩
      have active := fun standby => standbyIdx_ne timed.pair (Eq.symm standby)
      refine fresh.setSlot timed.pair.activeIdx _ (fun standby => absurd standby active)
        (fun standby => absurd standby active) (fun begun => ?_) rfl
      contradiction

theorem Fresh.reset {timed : TimedPair} (fresh : Fresh timed) (slot : Fin 2) :
    Fresh (timedStep timed (.reset slot)) := by
  have states := rpcConnReset_state (timed.pair.slots slot)
  refine fresh.setSlot slot _ (fun _ => rpcConnReset_inFlight _) ?_ ?_ ?_
  · intro standby connected
    have calm : (timed.pair.slots slot).inFlight = false := by
      rw [standby]
      exact fresh.quiet
    rw [connected, calm] at states
    simpa [eq_comm] using states
  · intro connecting
    rw [connecting] at states
    rcases states with closed | idle | same
    · contradiction
    · simp at idle
    · exact same.1.symm
  · unfold rpcConnReset
    split_ifs <;> rfl

theorem Fresh.mark {timed : TimedPair} (fresh : Fresh timed) (slot : Fin 2) (inIbd : Bool) :
    Fresh (timedStep timed (.mark slot inIbd)) := by
  refine fresh.setSlot slot _ ?_ (fun _ => id) id rfl
  rintro rfl
  exact fresh.quiet

/-! ## The rotation timer -/

/-- `swap_required` may be set if the standby, once connected, is the newer one. -/
theorem Fresh.requireSwap {timed : TimedPair} (fresh : Fresh timed)
    (newest : timed.standby.state = .connected →
      timed.born timed.pair.activeIdx < timed.born timed.pair.standbyIdx) :
    Fresh timed.requireSwap :=
  ⟨fresh.fresher, fresh.past, fresh.quiet, fun _ => newest, fresh.ahead, fresh.takesOver⟩

/-- A standby that has lost its connection and has the callback of a standby. -/
theorem Fresh.standbyLost {timed : TimedPair} (fresh : Fresh timed) {conn : UpstreamConn}
    (lost : conn.state = .disconnected ∨ conn.state = .connecting)
    (callback : conn.onConnected = .standbyOnConnected) :
    Fresh (timed.setSlot timed.pair.standbyIdx conn).requireSwap := by
  have standby_eq : (timed.setSlot timed.pair.standbyIdx conn).requireSwap.standby = conn :=
    setStandby_standby timed conn
  have unconnected : conn.state ≠ .connected := by
    rcases lost with state | state <;> simp [state]
  refine ⟨fresh.fresher, fresh.past, ?_, ?_, ?_, ?_⟩
  · refine fresh.quiet.setSlot _ conn fun _ => ?_
    rcases lost with state | state <;> simp [UpstreamConn.inFlight, state]
  · rw [standby_eq]
    exact fun _ connected => absurd connected unconnected
  · rw [standby_eq]
    exact fun connected => absurd connected unconnected
  · rw [standby_eq, callback]
    simp

/-- The callback of a standby that has its connection. -/
theorem onConnected_standby {timed : TimedPair}
    (callback : timed.standby.onConnected = .standbyOnConnected) :
    timed.onConnected timed.pair.standbyIdx =
      if IsDown timed.active then timed.swap timed.swaps else timed.tick := by
  unfold TimedPair.onConnected
  change (timed.pair.slots timed.pair.standbyIdx).onConnected = _ at callback
  rw [callback]
  exact if_neg (not_not.mpr rfl)

/-- After the callback of a new standby either it is the newest still, or it has taken over. -/
theorem Opened.newest_onConnected {before timed : TimedPair} (opened : Opened before timed)
    (callback : timed.standby.onConnected = .standbyOnConnected)
    (single : ¬ (before.pair.swapRequired = true ∧ before.active.state = .connected))
    (connected : (timed.onConnected timed.pair.standbyIdx).standby.state = .connected) :
    (timed.onConnected timed.pair.standbyIdx).born
        (timed.onConnected timed.pair.standbyIdx).pair.activeIdx <
      (timed.onConnected timed.pair.standbyIdx).born
        (timed.onConnected timed.pair.standbyIdx).pair.standbyIdx := by
  rw [onConnected_standby callback] at connected ⊢
  split_ifs at connected ⊢ with down
  · rw [swap_standby] at connected
    exact absurd connected down.1
  · have same : timed.tick = timed := by
      unfold TimedPair.tick
      rw [if_neg]
      rintro ⟨required, active, -⟩
      rw [opened.required] at required
      rw [opened.active] at active
      exact single ⟨required, active⟩
    rw [same]
    exact opened.newest

/-- A standby that is connected at once, with its callback, unless that swaps already. -/
theorem Fresh.standbyOpened {timed : TimedPair} (fresh : Fresh timed) {conn : UpstreamConn}
    (connected : conn.state = .connected) (callback : conn.onConnected = .standbyOnConnected)
    (single : ¬ (timed.pair.swapRequired = true ∧ timed.active.state = .connected)) :
    Fresh (((timed.setSlot timed.pair.standbyIdx conn).establish timed.pair.standbyIdx).onConnected
      timed.pair.standbyIdx).requireSwap := by
  have opened := fresh.opened connected
  have installed : ((timed.setSlot timed.pair.standbyIdx conn).establish
      timed.pair.standbyIdx).standby.onConnected = .standbyOnConnected := by
    rw [establish_standby, setStandby_standby, callback]
  have swapped := opened.onConnected fun plain => by simp [installed] at plain
  exact swapped.requireSwap (opened.newest_onConnected installed single)

theorem Fresh.rotate {timed : TimedPair} (fresh : Fresh timed) (result : ConnectResult) (fd : Nat)
    (single : SingleSwap timed (.rotate result fd)) :
    Fresh (timedStep timed (.rotate result fd)) := by
  change Fresh (timed.refresh result fd).requireSwap.tick
  apply Fresh.tick
  unfold TimedPair.refresh
  by_cases refreshable : timed.pair.standbyRefreshable = true
  · have closed := closedStandby_state refreshable
    rw [if_pos refreshable]
    simp only [rpcConnConnect, closed, ne_eq, not_true_eq_false, if_false]
    cases result with
    | failed => exact fresh.standbyLost (Or.inl closed) rfl
    | inProgress => exact fresh.standbyLost (Or.inr rfl) rfl
    | immediate =>
        refine fresh.standbyOpened rfl rfl fun required => ?_
        exact single ⟨required.1, required.2, refreshable, rfl⟩
  · rw [if_neg refreshable]
    refine fresh.requireSwap fun connected => ?_
    simp only [ConnPair.standbyRefreshable, Bool.or_eq_true, decide_eq_true_eq, not_or]
      at refreshable
    exact absurd connected refreshable.1

/-- Every event but a rotation that swaps twice keeps the swaps fresh. -/
theorem timedStep_fresh (timed : TimedPair) (event : PairEvent) (fresh : Fresh timed)
    (single : SingleSwap timed event) :
    Fresh (timedStep timed event) := by
  cases event with
  | io slot shared event => exact fresh.io slot shared event
  | rotate result fd => exact fresh.rotate result fd single
  | reportError => exact fresh.reportError
  | send len => exact fresh.send len
  | reset slot => exact fresh.reset slot
  | tick => exact fresh.tick
  | mark slot inIbd => exact fresh.mark slot inIbd

/-- A second swap in one rotation goes back to the older connection. -/
theorem Opened.not_fresher {before timed : TimedPair} (opened : Opened before timed)
    (callback : timed.standby.onConnected = .standbyOnConnected)
    (required : before.pair.swapRequired = true) (active : before.active.state = .connected) :
    ¬ Fresher (timed.onConnected timed.pair.standbyIdx).requireSwap.tick := by
  rw [← opened.required] at required
  rw [← opened.active] at active
  have first : timed.onConnected timed.pair.standbyIdx = timed.swap
      (⟨timed.born timed.pair.activeIdx, timed.born timed.pair.standbyIdx⟩ :: timed.swaps) := by
    rw [onConnected_standby callback, if_neg fun down => down.1 active]
    exact if_pos ⟨required, active, opened.standby⟩
  have back : ∀ swaps, (timed.swap swaps).requireSwap.tick.swaps =
      ⟨timed.born timed.pair.standbyIdx, timed.born timed.pair.activeIdx⟩ :: swaps := by
    intro swaps
    have ready : (timed.swap swaps).requireSwap.active.state = .connected ∧
        (timed.swap swaps).requireSwap.standby.state = .connected := by
      refine ⟨opened.standby, ?_⟩
      change (timed.swap swaps).standby.state = .connected
      rw [swap_standby, active]
    have standbyIdx_eq : (timed.swap swaps).requireSwap.pair.standbyIdx = timed.pair.activeIdx :=
      one_sub_standbyIdx timed.pair
    rw [TimedPair.tick, if_pos ⟨rfl, ready⟩, standbyIdx_eq]
    rfl
  intro fresher
  have wrong := fresher ⟨timed.born timed.pair.standbyIdx, timed.born timed.pair.activeIdx⟩
    (by rw [first, back]; exact List.mem_cons_self)
  exact Nat.lt_asymm wrong opened.newest

theorem singleSwap_of_fresher (timed : TimedPair) (event : PairEvent) (fresh : Fresh timed)
    (fresher : Fresher (timedStep timed event)) :
    SingleSwap timed event := by
  cases event with
  | rotate result fd =>
      rintro ⟨required, active, refreshable, rfl⟩
      have closed := closedStandby_state refreshable
      change Fresher (timed.refresh .immediate fd).requireSwap.tick at fresher
      rw [TimedPair.refresh, if_pos refreshable] at fresher
      simp only [rpcConnConnect, closed, ne_eq, not_true_eq_false, if_false] at fresher
      refine (fresh.opened rfl).not_fresher ?_ required active fresher
      rw [establish_standby, setStandby_standby]
      rfl
  | _ => trivial

theorem rpcConnConnect_established {conn : UpstreamConn} (closed : conn.state = .disconnected)
    (result : ConnectResult) (fd : Nat) :
    (rpcConnConnect conn result fd).1.onConnected = conn.onConnected ∧
      ((rpcConnConnect conn result fd).2 = true ↔
        (rpcConnConnect conn result fd).1.state = .connected) := by
  simp only [rpcConnConnect, closed, ne_eq, not_true_eq_false, if_false]
  cases result with
  | failed => simp [closed]
  | immediate => simp
  | inProgress => simp

theorem startPair_past (first second : UpstreamConn) (slot : Fin 2) :
    (startPair first second).born slot < (startPair first second).clock := by
  change (![0, 1] : Fin 2 → Nat) slot < 2
  revert slot
  decide

theorem startPair_opened {first second : UpstreamConn} (connected : second.state = .connected) :
    Opened (startPair first second) (startPair first second) where
  fresher := List.forall_mem_nil _
  past := startPair_past first second
  quiet := by
    change second.inFlight = false
    simp [UpstreamConn.inFlight, connected]
  newest := by simp [startPair, ConnPair.standbyIdx]
  standby := connected
  active := rfl
  required := rfl

theorem startPair_fresh {first second : UpstreamConn} (calm : second.inFlight = false)
    (unconnected : second.state ≠ .connected)
    (callback : second.onConnected = .standbyOnConnected) :
    Fresh (startPair first second) where
  fresher := List.forall_mem_nil _
  past := startPair_past first second
  quiet := calm
  newer required := nomatch required
  ahead connected := absurd connected unconnected
  takesOver _ plain := nomatch callback.symm.trans plain

theorem timedInit_fresh (boot : PairBoot) (fd : Fin 2 → Nat) : Fresh (timedInit boot fd) := by
  have closed : (rpcConnInit (boot.recvBuf 1) .standbyOnConnected).state = .disconnected := rfl
  rcases rpcConnConnect_established closed (boot.connect 1) (fd 1) with ⟨callback, established⟩
  unfold timedInit
  dsimp only
  split_ifs with immediate
  · refine (startPair_opened (established.mp immediate)).onConnected fun plain => ?_
    exact nomatch callback.symm.trans plain
  · apply startPair_fresh
    · exact rpcConnConnect_inFlight _ _ _ rfl
    · exact fun connected => immediate (established.mpr connected)
    · exact callback

/--
A swap of `conn_pair_tick` always goes to a connection established later,
exactly if no rotation swaps twice.
-/
theorem fresher_iff_singleSwap (boot : PairBoot) (fd : Fin 2 → Nat) (events : List PairEvent) :
    Throughout timedStep Fresher (timedInit boot fd) events ↔
      Along timedStep SingleSwap (timedInit boot fd) events :=
  throughout_iff_along timedStep_fresh (fun _ fresh => fresh.fresher) singleSwap_of_fresher
    (timedInit_fresh boot fd) events

/-- Both connections of a new pair are there at once. -/
def exampleBoot : PairBoot :=
  ⟨fun _ => [], fun _ => .immediate⟩

/-- A rotation whose connect fails, and the next, whose connect completes at once. -/
def twoRotations : List PairEvent :=
  [.rotate .failed 2, .rotate .immediate 3]

/-- The second rotation ends on the connection that was active before. -/
theorem twoRotations_not_fresher :
    ¬ Throughout timedStep Fresher (timedInit exampleBoot ![0, 1]) twoRotations := by
  have stale : ¬ Fresher (run timedStep (timedInit exampleBoot ![0, 1]) twoRotations) := by
    decide +kernel
  intro everywhere
  exact stale (throughout_end everywhere)

end RpcRace.Rotation
