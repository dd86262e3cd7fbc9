import RpcRace.PendingSwaps

/-!
# Which callbacks change the active slot

The active slot of a node changes in four places: in a rotation whose connect
completes at once, in the callback of a standby that connects, after the first
error of a request, and in the `conn_pair_tick` of `race_complete`.  `Swaps`
names them by what holds before the callback, and `step_activeIdx_iff` says
that these are all.

A rotation can swap twice, in the callback of the connect and in the tick
behind it.  Then the active slot is the same as before.
-/

namespace RpcRace.SlotSwaps

open RpcRace.Library.CString
open RpcRace.RpcConn
open RpcRace.ConnectionPair
open RpcRace.PairMoves
open RpcRace.RpcProxy
open RpcRace.Dispatch
open RpcRace.RaceMoves
open RpcRace.ProxyMoves
open RpcRace.SlotMoves
open RpcRace.Rotation
open RpcRace.PendingSwaps

/-! ## Pairs -/

/-- The slot that is active after a swap is another one. -/
theorem ne_of_swap (pair : ConnPair) (required : Bool) :
    ({ pair with activeIdx := pair.standbyIdx, swapRequired := required } : ConnPair).activeIdx ≠
      pair.activeIdx :=
  standbyIdx_ne pair

/-- The slot that was active is the standby after a swap. -/
theorem standby_of_swap (pair : ConnPair) (required : Bool) :
    ({ pair with activeIdx := pair.standbyIdx, swapRequired := required } : ConnPair).standbyIdx =
      pair.activeIdx :=
  one_sub_standbyIdx pair

theorem connPairTick_swaps_iff (pair : ConnPair) :
    (connPairTick pair).activeIdx ≠ pair.activeIdx ↔
      pair.swapRequired = true ∧ (connPairGetActive pair).state = .connected ∧
        (pair.slots pair.standbyIdx).state = .connected := by
  unfold connPairTick
  split_ifs with ready
  · exact iff_of_true (ne_of_swap pair false) ready
  · exact iff_of_false (not_not.mpr rfl) ready

/-- The callback of a standby that has connected finds the active slot down or idle. -/
def TakesOver (pair : ConnPair) : Prop :=
  IsDown (connPairGetActive pair) ∨
    (connPairGetActive pair).state = .connected ∧ pair.swapRequired = true

/-- A slot whose connect has completed takes over if it is the standby and has its callback. -/
theorem runOnConnected_swaps_iff {pair : ConnPair} {slot : Fin 2} {conn : UpstreamConn}
    (connected : conn.state = .connected) :
    (runOnConnected (pair.setSlot slot conn) slot).activeIdx ≠ pair.activeIdx ↔
      slot = pair.standbyIdx ∧ conn.onConnected = .standbyOnConnected ∧ TakesOver pair := by
  by_cases plain : conn.onConnected = .slotOnConnected ∨ slot ≠ pair.standbyIdx
  · rw [runOnConnected_of_plain (by simpa using plain)]
    refine iff_of_false (not_not.mpr rfl) ?_
    rintro ⟨standby, callback, -⟩
    rcases plain with plain | active
    · rw [plain] at callback
      contradiction
    · exact active standby
  · push Not at plain
    rcases plain with ⟨callback, rfl⟩
    have installed : conn.onConnected = .standbyOnConnected := by
      cases kept : conn.onConnected with
      | slotOnConnected => exact absurd kept callback
      | standbyOnConnected => rfl
    have found : ((pair.setSlot pair.standbyIdx conn).slots
        (pair.setSlot pair.standbyIdx conn).standbyIdx).onConnected = .standbyOnConnected := by
      simpa using installed
    have ran := runOnConnected_of_installed found
    rw [setSlot_standbyIdx, setStandby_getActive] at ran
    rw [ran]
    unfold TakesOver
    split_ifs with down
    · exact iff_of_true (standbyIdx_ne pair) ⟨rfl, installed, Or.inl down⟩
    · have tick := connPairTick_swaps_iff (pair.setSlot pair.standbyIdx conn)
      rw [setSlot_activeIdx, setSlot_standbyIdx, setStandby_getActive, setSlot_slots_self] at tick
      rw [tick]
      constructor
      · rintro ⟨required, idle, -⟩
        exact ⟨rfl, installed, Or.inr ⟨idle, required⟩⟩
      · rintro ⟨-, -, gone | ⟨idle, required⟩⟩
        · exact absurd gone down
        · exact ⟨required, idle, connected⟩

/-- The tick behind a rotation, which requires a swap. -/
theorem requiredTick_swaps_iff (pair : ConnPair) :
    (connPairTick { pair with swapRequired := true }).activeIdx ≠ pair.activeIdx ↔
      (connPairGetActive pair).state = .connected ∧
        (pair.slots pair.standbyIdx).state = .connected := by
  rw [connPairTick_swaps_iff { pair with swapRequired := true }]
  exact and_iff_right rfl

/--
A rotation gives the node a new connection at once while the active slot is
down, or idle with no swap required before.
-/
def Rotates (pair : ConnPair) (result : ConnectResult) : Prop :=
  pair.standbyRefreshable = true ∧ result = .immediate ∧
    (IsDown (connPairGetActive pair) ∨
      (connPairGetActive pair).state = .connected ∧ pair.swapRequired = false)

/-- Without a new connection the standby is not idle when a rotation ends. -/
theorem rotationTimerCb_kept {pair : ConnPair} {result : ConnectResult} (fd : Nat)
    (unopened : ¬ (pair.standbyRefreshable = true ∧ result = .immediate)) :
    (rotationTimerCb pair result fd).activeIdx = pair.activeIdx := by
  have kept : ∀ base : ConnPair, base.activeIdx = pair.activeIdx →
      (base.slots base.standbyIdx).state ≠ .connected →
      (connPairTick { base with swapRequired := true }).activeIdx = pair.activeIdx := by
    intro base same down
    rw [← same]
    by_contra swapped
    exact down ((requiredTick_swaps_iff base).mp swapped).2
  unfold rotationTimerCb refreshStandby
  by_cases refreshable : pair.standbyRefreshable = true
  · have down := closedStandby_state refreshable
    have opened : (rpcConnConnect pair.closedStandby result fd).2 = false ∧
        (rpcConnConnect pair.closedStandby result fd).1.state ≠ .connected := by
      unfold rpcConnConnect
      rw [if_neg (not_not.mpr down)]
      cases result with
      | failed => exact ⟨rfl, by simp [down]⟩
      | inProgress => exact ⟨rfl, by simp⟩
      | immediate => exact absurd ⟨refreshable, rfl⟩ unopened
    rw [if_pos refreshable]
    dsimp only
    rw [opened.1]
    refine kept (pair.setSlot pair.standbyIdx _) rfl ?_
    rw [setSlot_standbyIdx, setSlot_slots_self]
    exact opened.2
  · rw [if_neg refreshable]
    refine kept pair rfl fun connected => refreshable ?_
    simp [ConnPair.standbyRefreshable, connected]

/-- A rotation whose connect completes at once: its callback, and the tick behind it. -/
theorem rotationTimerCb_immediate {pair : ConnPair} (fd : Nat)
    (refreshable : pair.standbyRefreshable = true) :
    ∃ fresh : UpstreamConn, fresh.state = .connected ∧
      rotationTimerCb pair .immediate fd =
        connPairTick
          { (if IsDown (connPairGetActive pair) then
              { pair.setSlot pair.standbyIdx fresh with
                activeIdx := pair.standbyIdx, swapRequired := false }
            else connPairTick (pair.setSlot pair.standbyIdx fresh)) with
            swapRequired := true } := by
  have opened : rpcConnConnect pair.closedStandby .immediate fd =
      ({ pair.closedStandby with
        fd := some fd, interest := some ⟨true, false⟩, state := .connected }, true) := by
    unfold rpcConnConnect
    rw [if_neg (not_not.mpr (closedStandby_state refreshable))]
  refine ⟨(rpcConnConnect pair.closedStandby .immediate fd).1, by rw [opened], ?_⟩
  have installed : ((pair.setSlot pair.standbyIdx
      (rpcConnConnect pair.closedStandby .immediate fd).1).slots
        (pair.setSlot pair.standbyIdx
          (rpcConnConnect pair.closedStandby .immediate fd).1).standbyIdx).onConnected =
            .standbyOnConnected := by
    rw [setSlot_standbyIdx, setSlot_slots_self, opened]
    rfl
  have ran := runOnConnected_of_installed installed
  rw [setSlot_standbyIdx, setStandby_getActive] at ran
  unfold rotationTimerCb refreshStandby
  rw [if_pos refreshable]
  dsimp only
  rw [if_pos (by rw [opened]), ran]

/-- The callback has swapped away from a slot that is down, and the tick does not swap back. -/
theorem requiredTick_of_down {pair : ConnPair} (down : IsDown (connPairGetActive pair)) :
    (connPairTick { pair with activeIdx := pair.standbyIdx, swapRequired := true }).activeIdx ≠
      pair.activeIdx := by
  have still : (connPairTick
      { pair with activeIdx := pair.standbyIdx, swapRequired := true }).activeIdx =
        pair.standbyIdx := by
    by_contra swapped
    have ready := (requiredTick_swaps_iff
      { pair with activeIdx := pair.standbyIdx, swapRequired := true }).mp swapped
    rw [standby_of_swap] at ready
    exact down.1 ready.2
  rw [still]
  exact standbyIdx_ne pair

/-- The callback has swapped two idle slots, and the tick swaps back. -/
theorem requiredTick_of_ready {pair : ConnPair}
    (active : (connPairGetActive pair).state = .connected)
    (standby : (pair.slots pair.standbyIdx).state = .connected) :
    (connPairTick { pair with activeIdx := pair.standbyIdx, swapRequired := true }).activeIdx =
      pair.activeIdx := by
  unfold connPairTick
  rw [if_pos, standby_of_swap]
  rw [standby_of_swap]
  exact ⟨rfl, standby, active⟩

/-- Two ticks in a row, the second of which has its swap required, beside a standby that is up. -/
theorem twoTicks_swaps_iff {pair : ConnPair}
    (standby : (pair.slots pair.standbyIdx).state = .connected) :
    (connPairTick { connPairTick pair with swapRequired := true }).activeIdx ≠ pair.activeIdx ↔
      (connPairGetActive pair).state = .connected ∧ pair.swapRequired = false := by
  by_cases ready : pair.swapRequired = true ∧ (connPairGetActive pair).state = .connected
  · have swapped : connPairTick pair =
        { pair with activeIdx := pair.standbyIdx, swapRequired := false } :=
      if_pos ⟨ready.1, ready.2, standby⟩
    rw [swapped]
    refine iff_of_false (not_not.mpr (requiredTick_of_ready ready.2 standby)) ?_
    rintro ⟨-, unrequired⟩
    rw [ready.1] at unrequired
    contradiction
  · have still : connPairTick pair = pair := if_neg fun both => ready ⟨both.1, both.2.1⟩
    rw [still, requiredTick_swaps_iff]
    constructor
    · rintro ⟨idle, -⟩
      exact ⟨idle, Bool.eq_false_of_not_eq_true fun required => ready ⟨required, idle⟩⟩
    · rintro ⟨idle, -⟩
      exact ⟨idle, standby⟩

theorem rotationTimerCb_swaps_iff (pair : ConnPair) (result : ConnectResult) (fd : Nat) :
    (rotationTimerCb pair result fd).activeIdx ≠ pair.activeIdx ↔ Rotates pair result := by
  by_cases opens : pair.standbyRefreshable = true ∧ result = .immediate
  · rcases opens with ⟨refreshable, rfl⟩
    rcases rotationTimerCb_immediate fd refreshable with ⟨fresh, connected, rotated⟩
    have active_eq := setStandby_getActive pair fresh
    rw [rotated]
    by_cases down : IsDown (connPairGetActive pair)
    · rw [if_pos down]
      refine iff_of_true ?_ ⟨refreshable, rfl, Or.inl down⟩
      rw [← active_eq] at down
      exact requiredTick_of_down down
    · have standby : ((pair.setSlot pair.standbyIdx fresh).slots
          (pair.setSlot pair.standbyIdx fresh).standbyIdx).state = .connected := by
        rwa [setSlot_standbyIdx, setSlot_slots_self]
      have ticks := twoTicks_swaps_iff standby
      rw [active_eq] at ticks
      rw [if_neg down]
      refine ticks.trans ⟨fun ready => ⟨refreshable, rfl, Or.inr ready⟩, ?_⟩
      rintro ⟨-, -, gone | ready⟩
      · exact absurd gone down
      · exact ready
  · refine iff_of_false (not_not.mpr (rotationTimerCb_kept fd opens)) ?_
    rintro ⟨refreshable, immediate, -⟩
    exact opens ⟨refreshable, immediate⟩

/-- A connection that the reset of `race_complete` leaves idle. -/
def LeftIdle (conn : UpstreamConn) : Prop :=
  (conn.inFlight = true ∨ conn.state = .connected) ∧
    ¬ ((conn.sendBuf = true ∨ conn.inFlight = true) ∧ conn.connectionClose = true)

instance (conn : UpstreamConn) : Decidable (LeftIdle conn) :=
  inferInstanceAs (Decidable (_ ∧ _))

theorem rpcConnReset_idle_iff (conn : UpstreamConn) :
    (rpcConnReset conn).state = .connected ↔
      (conn.inFlight = true ∨ conn.state = .connected) ∧ conn.connectionClose = false := by
  unfold rpcConnReset
  split_ifs with closing busy
  · simp [closing]
  · simp [closing, busy]
  · simp [closing, busy]

theorem resetParticipant_active_iff (pair : ConnPair) :
    (connPairGetActive (resetParticipant pair)).state = .connected ↔
      LeftIdle (connPairGetActive pair) := by
  unfold resetParticipant LeftIdle
  dsimp only
  split_ifs with participates
  · rw [connPairGetActive, setSlot_activeIdx, setSlot_slots_self, rpcConnReset_idle_iff]
    simp [participates]
  · push Not at participates
    simp [participates]

theorem resetParticipant_standby (pair : ConnPair) :
    (resetParticipant pair).slots pair.standbyIdx = pair.slots pair.standbyIdx := by
  unfold resetParticipant
  dsimp only
  split_ifs
  · rw [setSlot_slots, if_neg (standbyIdx_ne pair)]
  · rfl

theorem resetParticipant_activeIdx (pair : ConnPair) :
    (resetParticipant pair).activeIdx = pair.activeIdx ∧
      (resetParticipant pair).swapRequired = pair.swapRequired := by
  unfold resetParticipant
  dsimp only
  split_ifs <;> exact ⟨rfl, rfl⟩

variable {n : Nat}

/-- `race_complete` makes a swap that is required once both slots are idle. -/
theorem raceComplete_swaps_iff (proxy : Proxy n) (node : Fin n) :
    ((raceComplete proxy).pairs node).activeIdx ≠ (proxy.pairs node).activeIdx ↔
      (proxy.pairs node).swapRequired = true ∧
        ((proxy.pairs node).slots (proxy.pairs node).standbyIdx).state = .connected ∧
        LeftIdle (proxy.active node) := by
  have indices := resetParticipant_activeIdx (proxy.pairs node)
  have standby := resetParticipant_standby (proxy.pairs node)
  have standbyIdx_eq : (resetParticipant (proxy.pairs node)).standbyIdx =
      (proxy.pairs node).standbyIdx := by
    rw [ConnPair.standbyIdx, indices.1]
    rfl
  rw [raceComplete_pairs, ← indices.1, connPairTick_swaps_iff, indices.2, standbyIdx_eq, standby,
    resetParticipant_active_iff]
  exact and_congr_right fun _ => and_comm

/-! ## Callbacks -/

/-- The active connection of a node as `conn_epoll_cb` leaves it. -/
def heldConn (proxy : Proxy n) (event : Event n) (node : Fin n) : UpstreamConn :=
  match event with
  | .conn other slot connEvent _ =>
      if other = node ∧ slot = (proxy.pairs node).activeIdx then
        ((connOutcome proxy other slot connEvent).map ConnOutcome.conn).getD (proxy.active node)
      else proxy.active node
  | _ => proxy.active node

/-- The callback is one of the node's own, and swaps its slots. -/
def SwapsOwn (proxy : Proxy n) (event : Event n) (node : Fin n) : Prop :=
  match event with
  | .rotation other result => other = node ∧ Rotates (proxy.pairs node) result
  | .conn other slot connEvent results =>
      other = node ∧
        (upcallOf proxy (.conn other slot connEvent results) = some .connected ∧
            slot = (proxy.pairs node).standbyIdx ∧
            (proxy.slot node slot).onConnected = .standbyOnConnected ∧
            TakesOver (proxy.pairs node) ∨
          upcallOf proxy (.conn other slot connEvent results) = some .error ∧
            proxy.race.state ≠ .idle ∧ proxy.race.nodeRetried node = false)
  | _ => False

/-- The callback completes a race, and the tick of `race_complete` makes a swap that is required. -/
def SwapsAtEnd (proxy : Proxy n) (event : Event n) (node : Fin n) : Prop :=
  proxy.race.state ≠ .idle ∧ Sweeps proxy event ∧
    (proxy.pairs node).swapRequired = true ∧
    ((proxy.pairs node).slots (proxy.pairs node).standbyIdx).state = .connected ∧
    LeftIdle (heldConn proxy event node)

/-- The callback leaves another slot of the node active than it finds. -/
def Swaps (proxy : Proxy n) (event : Event n) (node : Fin n) : Prop :=
  SwapsOwn proxy event node ∨ SwapsAtEnd proxy event node

theorem not_swapsAtEnd {proxy : Proxy n} {event : Event n} {node : Fin n}
    (ongoing : ¬ Sweeps proxy event) :
    ¬ SwapsAtEnd proxy event node :=
  fun ends => ongoing ends.2.1

/-- A callback that is none of the node's own and completes no race leaves its active slot. -/
theorem swaps_iff_of_kept {proxy result : Proxy n} {event : Event n} {node : Fin n}
    (kept : (result.pairs node).activeIdx = (proxy.pairs node).activeIdx)
    (foreign : ¬ SwapsOwn proxy event node) (ongoing : ¬ SwapsAtEnd proxy event node) :
    (result.pairs node).activeIdx ≠ (proxy.pairs node).activeIdx ↔ Swaps proxy event node :=
  iff_of_false (not_not.mpr kept) (not_or.mpr ⟨foreign, ongoing⟩)

/-- A pair of which at most the active connection has changed. -/
structure Beside (before after : ConnPair) : Prop where
  activeIdx_eq : after.activeIdx = before.activeIdx
  required_eq : after.swapRequired = before.swapRequired
  standby_eq : after.slots before.standbyIdx = before.slots before.standbyIdx

theorem Beside.refl (pair : ConnPair) : Beside pair pair :=
  ⟨rfl, rfl, rfl⟩

theorem Beside.standbyIdx_eq {before after : ConnPair} (beside : Beside before after) :
    after.standbyIdx = before.standbyIdx := by
  unfold ConnPair.standbyIdx
  rw [beside.activeIdx_eq]

theorem beside_setSlot {pair : ConnPair} {slot : Fin 2} (active : slot = pair.activeIdx)
    (conn : UpstreamConn) :
    Beside pair (pair.setSlot slot conn) := by
  refine ⟨rfl, rfl, ?_⟩
  rw [setSlot_slots, active, if_neg (standbyIdx_ne pair)]

/-- A callback that completes the race, on a node that it does not swap before. -/
theorem swaps_iff_of_completed {proxy base : Proxy n} {event : Event n} {node : Fin n}
    (active : proxy.race.state ≠ .idle) (sweeps : Sweeps proxy event)
    (foreign : ¬ SwapsOwn proxy event node)
    (beside : Beside (proxy.pairs node) (base.pairs node))
    (held : LeftIdle (base.active node) ↔ LeftIdle (heldConn proxy event node)) :
    ((raceComplete base).pairs node).activeIdx ≠ (proxy.pairs node).activeIdx ↔
      Swaps proxy event node := by
  have completed := raceComplete_swaps_iff base node
  rw [beside.activeIdx_eq, beside.required_eq, beside.standbyIdx_eq, beside.standby_eq,
    held] at completed
  rw [completed]
  constructor
  · intro ready
    exact Or.inr ⟨active, sweeps, ready⟩
  · rintro (own | ⟨-, -, ready⟩)
    · exact absurd own foreign
    · exact ready

section Traffic

variable {env : Env} {proxy result : Proxy n} {node other : Fin n} {slot : Fin 2}
variable {connEvent : ConnEvent} {results : List SendResult} {outcome : ConnOutcome}

theorem not_swapsOwn_of_ne (different : node ≠ other) :
    ¬ SwapsOwn proxy (.conn node slot connEvent results) other :=
  fun own => different own.1

theorem not_swapsOwn_of_upcall
    (noConnect : upcallOf proxy (.conn node slot connEvent results) ≠ some .connected)
    (noError : upcallOf proxy (.conn node slot connEvent results) ≠ some .error) :
    ¬ SwapsOwn proxy (.conn node slot connEvent results) other := by
  rintro ⟨-, ⟨connect, -⟩ | ⟨error, -⟩⟩
  · exact noConnect connect
  · exact noError error

theorem not_sweeps_of_upcall
    (noResponse : upcallOf proxy (.conn node slot connEvent results) ≠ some .response)
    (noError : upcallOf proxy (.conn node slot connEvent results) ≠ some .error) :
    ¬ Sweeps proxy (.conn node slot connEvent results) := by
  rintro ⟨-, -, outcome, out, upcall⟩
  simp only [upcallOf, out, Option.bind_some] at noResponse noError
  rcases upcall with response | ⟨error, -⟩
  · exact noResponse response
  · exact noError error

theorem not_sweeps_of_more (more : 1 < proxy.race.responsesPending) :
    ¬ Sweeps proxy (.conn node slot connEvent results) := by
  rintro ⟨-, last, -⟩
  omega

theorem heldConn_own (out : connOutcome proxy node slot connEvent = some outcome)
    (position : slot = (proxy.pairs node).activeIdx) :
    heldConn proxy (.conn node slot connEvent results) node = outcome.conn := by
  simp only [heldConn]
  rw [if_pos ⟨trivial, position⟩, out]
  rfl

theorem heldConn_of_ne (different : node ≠ other) :
    heldConn proxy (.conn node slot connEvent results) other = proxy.active other := by
  simp [heldConn, different]

/-- A connect that completes. -/
theorem connected_swaps_iff (out : connOutcome proxy node slot connEvent = some outcome)
    (upcall : outcome.upcall = some .connected) :
    (((proxy.transfer node slot outcome).setPair node
        (runOnConnected ((proxy.transfer node slot outcome).pairs node) slot)).pairs
          other).activeIdx ≠ (proxy.pairs other).activeIdx ↔
      Swaps proxy (.conn node slot connEvent results) other := by
  have called : upcallOf proxy (.conn node slot connEvent results) = some .connected := by
    simp [upcallOf, out, upcall]
  have ongoing : ¬ SwapsAtEnd proxy (.conn node slot connEvent results) other :=
    not_swapsAtEnd (not_sweeps_of_upcall (by simp [called]) (by simp [called]))
  by_cases same : node = other
  · subst same
    rcases (connOutcome_move out).of_connected upcall with ⟨-, connected, callback⟩
    have pair_eq : (proxy.transfer node slot outcome).pairs node =
        (proxy.pairs node).setSlot slot outcome.conn := by
      simp [Proxy.transfer, Proxy.setSlot]
    rw [Proxy.setPair_pairs, Function.update_self, pair_eq, runOnConnected_swaps_iff connected,
      callback]
    constructor
    · intro takes
      exact Or.inl ⟨rfl, Or.inl ⟨called, takes⟩⟩
    · rintro (⟨-, ⟨-, takes⟩ | ⟨error, -⟩⟩ | ends)
      · exact takes
      · rw [called] at error
        contradiction
      · exact absurd ends ongoing
  · refine swaps_iff_of_kept ?_ (not_swapsOwn_of_ne same) ongoing
    simp [Proxy.transfer, Proxy.setSlot, Ne.symm same]

theorem answered_beside {chunk : Memory} (position : slot = (proxy.pairs node).activeIdx)
    (race : Race n) (inIbd : Bool) (other : Fin n) :
    Beside (proxy.pairs other) ((answered proxy node slot chunk race inIbd).pairs other) := by
  rw [answered_pairs]
  by_cases same : other = node
  · subst same
    rw [Function.update_self]
    exact beside_setSlot position _
  · rw [Function.update_of_ne same]
    exact .refl _

/-- The response itself and the flag it sets do not matter to the reset. -/
theorem answered_held {chunk : Memory}
    (out : connOutcome proxy node slot connEvent =
      some ⟨(proxy.slot node slot).absorb chunk, some .response, [], chunk⟩)
    (position : slot = (proxy.pairs node).activeIdx) (race : Race n) (inIbd : Bool)
    (other : Fin n) :
    LeftIdle ((answered proxy node slot chunk race inIbd).active other) ↔
      LeftIdle (heldConn proxy (.conn node slot connEvent results) other) := by
  by_cases same : node = other
  · subst same
    have conn_eq := answered_slot proxy node slot chunk race inIbd
    rw [Proxy.slot] at conn_eq
    rw [heldConn_own out position, Proxy.active, connPairGetActive,
      (answered_beside position race inIbd node).activeIdx_eq, ← position, conn_eq]
    exact Iff.rfl
  · rw [heldConn_of_ne same, Proxy.active, answered_pairs, Function.update_of_ne (Ne.symm same)]
    exact Iff.rfl

/-- A response to the race, which ends the race if it is the last. -/
theorem ResponseMove.swaps_iff {chunk : Memory}
    (move : ResponseMove env proxy node slot chunk results result) (wellFormed : WellFormed proxy)
    (out : connOutcome proxy node slot connEvent =
      some ⟨(proxy.slot node slot).absorb chunk, some .response, [], chunk⟩)
    (receiving : (proxy.slot node slot).state = .receiving) (active : proxy.race.state ≠ .idle)
    (other : Fin n) :
    (result.pairs other).activeIdx ≠ (proxy.pairs other).activeIdx ↔
      Swaps proxy (.conn node slot connEvent results) other := by
  have called : upcallOf proxy (.conn node slot connEvent results) = some .response := by
    simp [upcallOf, out]
  have foreign : ¬ SwapsOwn proxy (.conn node slot connEvent results) other :=
    not_swapsOwn_of_upcall (by simp [called]) (by simp [called])
  have position : slot = (proxy.pairs node).activeIdx :=
    wellFormed.eq_active (by simp [UpstreamConn.inFlight, receiving])
  have beside : ∀ race inIbd, Beside (proxy.pairs other)
      ((answered proxy node slot chunk race inIbd).pairs other) :=
    fun race inIbd => answered_beside position race inIbd other
  have held : ∀ race inIbd,
      LeftIdle ((answered proxy node slot chunk race inIbd).active other) ↔
        LeftIdle (heldConn proxy (.conn node slot connEvent results) other) :=
    fun race inIbd => answered_held out position race inIbd other
  have sweeps : proxy.race.responsesPending = 1 →
      Sweeps proxy (.conn node slot connEvent results) :=
    fun last => ⟨active, last.le, _, out, Or.inl rfl⟩
  cases move with
  | counted race inIbd counting more =>
      exact swaps_iff_of_kept (beside race inIbd).activeIdx_eq foreign
        (not_swapsAtEnd (not_sweeps_of_more more))
  | broadcastWon race inIbd counting more =>
      exact swaps_iff_of_kept (beside race inIbd).activeIdx_eq foreign
        (not_swapsAtEnd (not_sweeps_of_more more))
  | won race inIbd stuck counting more =>
      refine swaps_iff_of_kept ?_ foreign (not_swapsAtEnd (not_sweeps_of_more more))
      rw [← (beside race inIbd).activeIdx_eq]
      by_cases same : other = node
      · subst same
        simp [released, Proxy.setSlot]
      · simp [released, Proxy.setSlot, same]
  | ended race inIbd counting last =>
      exact swaps_iff_of_completed active (sweeps last) foreign (beside race inIbd)
        (held race inIbd)
  | settled race inIbd stuck counting last =>
      refine swaps_iff_of_completed active (sweeps last) foreign ?_ ?_
      · rw [sendUpstreamResponseToClient_pairs, stick_pairs]
        exact beside race inIbd
      · rw [Proxy.active, sendUpstreamResponseToClient_pairs, stick_pairs]
        exact held race inIbd

/-- What completes the race after the node was counted as failed. -/
theorem FailureMove.swaps_iff {base : Proxy n} (move : FailureMove base node result)
    (active : proxy.race.state ≠ .idle)
    (pending_eq : base.race.responsesPending = proxy.race.responsesPending)
    (sweeps : proxy.race.responsesPending ≤ 1 → Sweeps proxy (.conn node slot connEvent results))
    (foreign : ¬ SwapsOwn proxy (.conn node slot connEvent results) other)
    (beside : Beside (proxy.pairs other) (base.pairs other))
    (held : LeftIdle (base.active other) ↔
      LeftIdle (heldConn proxy (.conn node slot connEvent results) other)) :
    (result.pairs other).activeIdx ≠ (proxy.pairs other).activeIdx ↔
      Swaps proxy (.conn node slot connEvent results) other := by
  cases move with
  | counted more =>
      exact swaps_iff_of_kept beside.activeIdx_eq foreign
        (not_swapsAtEnd (not_sweeps_of_more (pending_eq ▸ more)))
  | ended last =>
      exact swaps_iff_of_completed active (sweeps (pending_eq ▸ last)) foreign beside held
  | closed last =>
      exact swaps_iff_of_completed active (sweeps (pending_eq ▸ last)) foreign beside held

/-- `conn_pair_report_error` takes a required swap back, so `race_complete` does not swap again. -/
theorem FailureMove.swapped (move : FailureMove (swapOnError proxy node) node result) :
    (result.pairs node).activeIdx = (proxy.pairs node).standbyIdx := by
  have pair_eq : (swapOnError proxy node).pairs node = connPairReportError (proxy.pairs node) := by
    simp [swapOnError]
  have kept : ∀ base : Proxy n, base.pairs = (swapOnError proxy node).pairs →
      ((raceComplete base).pairs node).activeIdx = (proxy.pairs node).standbyIdx := by
    intro base pairs_eq
    have unchanged : ((raceComplete base).pairs node).activeIdx = (base.pairs node).activeIdx := by
      by_contra swapped
      have required := ((raceComplete_swaps_iff base node).mp swapped).1
      rw [pairs_eq, pair_eq] at required
      contradiction
    rw [unchanged, pairs_eq, pair_eq]
    rfl
  cases move with
  | counted =>
      change ((swapOnError proxy node).pairs node).activeIdx = _
      rw [pair_eq]
      rfl
  | ended => exact kept _ rfl
  | closed => exact kept _ rfl

theorem breakage_beside (position : slot = (proxy.pairs node).activeIdx) (other : Fin n) :
    Beside (proxy.pairs other) ((breakage proxy node slot).pairs other) := by
  by_cases same : other = node
  · subst same
    simpa [breakage, Proxy.setSlot] using beside_setSlot position _
  · simpa [breakage, Proxy.setSlot, same] using Beside.refl (proxy.pairs other)

/-- The connection that broke is the one `conn_epoll_cb` leaves. -/
theorem breakage_held
    (out : connOutcome proxy node slot connEvent =
      some (.quiet (proxy.slot node slot).dropFd (some .error)))
    (position : slot = (proxy.pairs node).activeIdx) (other : Fin n) :
    (breakage proxy node slot).active other =
      heldConn proxy (.conn node slot connEvent results) other := by
  by_cases same : node = other
  · subst same
    have broken : ((breakage proxy node slot).pairs node).slots slot =
        (proxy.slot node slot).dropFd := by
      simp [breakage, Proxy.setSlot]
    rw [heldConn_own out position, Proxy.active, connPairGetActive,
      (breakage_beside position node).activeIdx_eq, ← position, broken]
    rfl
  · have kept : (breakage proxy node slot).pairs other = proxy.pairs other := by
      simp [breakage, Proxy.setSlot, Ne.symm same]
    rw [heldConn_of_ne same, Proxy.active, kept]
    rfl

/-- An error of the race swaps the slots of its node, once for each request. -/
theorem ErrorMove.swaps_iff (move : ErrorMove (breakage proxy node slot) node result)
    (wellFormed : WellFormed proxy)
    (out : connOutcome proxy node slot connEvent =
      some (.quiet (proxy.slot node slot).dropFd (some .error)))
    (busy : (proxy.slot node slot).inFlight = true) (active : proxy.race.state ≠ .idle)
    (other : Fin n) :
    (result.pairs other).activeIdx ≠ (proxy.pairs other).activeIdx ↔
      Swaps proxy (.conn node slot connEvent results) other := by
  have position := wellFormed.eq_active busy
  have called : upcallOf proxy (.conn node slot connEvent results) = some .error := by
    simp [upcallOf, out, ConnOutcome.quiet]
  have sweeps : ¬ Retryable proxy node → proxy.race.responsesPending ≤ 1 →
      Sweeps proxy (.conn node slot connEvent results) :=
    fun final last => ⟨active, last, _, out, Or.inr ⟨rfl, final⟩⟩
  have swapped : proxy.race.nodeRetried node = false →
      Swaps proxy (.conn node slot connEvent results) node :=
    fun first => Or.inl ⟨rfl, Or.inr ⟨called, active, first⟩⟩
  have away : ((breakage proxy node slot).pairs node).standbyIdx ≠
      (proxy.pairs node).activeIdx := by
    rw [(breakage_beside position node).standbyIdx_eq]
    exact standbyIdx_ne _
  cases move with
  | retried retryable =>
      by_cases same : other = node
      · subst same
        refine iff_of_true ?_ (swapped retryable.1)
        have active_eq : ((retrial (breakage proxy other slot) other).pairs other).activeIdx =
            ((breakage proxy other slot).pairs other).standbyIdx := by
          simp [retrial, swapOnError, connPairReportError, sendActive]
        rw [active_eq]
        exact away
      · refine swaps_iff_of_kept ?_ (not_swapsOwn_of_ne (Ne.symm same)) ?_
        · simp [retrial, swapOnError, breakage, Proxy.setSlot, same]
        · rintro ⟨-, ⟨-, -, outcome, completes, response | ⟨-, final⟩⟩, -⟩
          · rw [out] at completes
            obtain rfl := Option.some.inj completes
            simp [ConnOutcome.quiet] at response
          · exact final ((retryable_breakage position).mp retryable)
  | twice already result failure =>
      have retried : proxy.race.nodeRetried node = true := already
      refine FailureMove.swaps_iff failure active rfl (sweeps fun retryable => ?_) ?_
        (breakage_beside position other) ?_
      · have first := retryable.1
        rw [retried] at first
        contradiction
      · rintro ⟨rfl, ⟨connect, -⟩ | ⟨-, -, first⟩⟩
        · rw [called] at connect
          contradiction
        · rw [retried] at first
          contradiction
      · rw [breakage_held out position other]
  | lost first final result failure =>
      by_cases same : node = other
      · subst same
        refine iff_of_true ?_ (swapped first)
        rw [FailureMove.swapped failure]
        exact away
      · have kept : (swapOnError (breakage proxy node slot) node).pairs other =
            proxy.pairs other := by
          simp [swapOnError, breakage, Proxy.setSlot, Ne.symm same]
        refine FailureMove.swaps_iff failure active rfl
          (sweeps fun retryable => final ((retryable_breakage position).mpr retryable))
          (not_swapsOwn_of_ne same) ?_ ?_
        · rw [kept]
          exact .refl _
        · rw [heldConn_of_ne same, Proxy.active, kept]
          exact Iff.rfl

end Traffic

/-- The timeout of a race ends with a tick, and the drain safety net with none. -/
theorem timeout_swaps_iff (env : Env) {proxy : Proxy n} (wellFormed : WellFormed proxy)
    (fd : Nat) (results : List SendResult) (node : Fin n) :
    ((step env proxy (.timeout fd results)).pairs node).activeIdx ≠
        (proxy.pairs node).activeIdx ↔
      Swaps proxy (.timeout fd results) node := by
  have foreign : ¬ SwapsOwn proxy (.timeout fd results) node := id
  simp only [step]
  split_ifs with registered
  · have move := rpcTimeoutCb_move proxy fd results wellFormed.racing
    generalize rpcTimeoutCb proxy fd results = result at move
    cases move with
    | drained idle =>
        refine swaps_iff_of_kept ?_ foreign fun ends => ends.1 idle
        rw [cancelRpcTimeout_pairs]
        change (resetStuck (proxy.pairs node)).activeIdx = _
        unfold resetStuck
        split_ifs <;> rfl
    | ended active =>
        exact swaps_iff_of_completed active registered foreign (.refl _) Iff.rfl
    | closed active =>
        exact swaps_iff_of_completed active registered foreign (.refl _) Iff.rfl
  · exact swaps_iff_of_kept rfl foreign (not_swapsAtEnd registered)

theorem rotation_swaps_iff (proxy : Proxy n) (node other : Fin n) (result : ConnectResult) :
    ((rotationEvent proxy node result).pairs other).activeIdx ≠ (proxy.pairs other).activeIdx ↔
      Swaps proxy (.rotation node result) other := by
  have ongoing : ¬ SwapsAtEnd proxy (.rotation node result) other := not_swapsAtEnd id
  by_cases same : node = other
  · subst same
    rw [rotationEvent_pairs, Function.update_self, rotationTimerCb_swaps_iff]
    constructor
    · intro rotates
      exact Or.inl ⟨rfl, rotates⟩
    · rintro (⟨-, rotates⟩ | ends)
      · exact rotates
      · exact absurd ends ongoing
  · have foreign : ¬ SwapsOwn proxy (.rotation node result) other := fun own => same own.1
    refine swaps_iff_of_kept ?_ foreign ongoing
    rw [rotationEvent_pairs, Function.update_of_ne (Ne.symm same)]

theorem setSlot_pairs_activeIdx (proxy : Proxy n) (node other : Fin n) (slot : Fin 2)
    (conn : UpstreamConn) :
    ((proxy.setSlot node slot conn).pairs other).activeIdx = (proxy.pairs other).activeIdx := by
  by_cases same : other = node
  · subst same
    simp [Proxy.setSlot]
  · simp [Proxy.setSlot, same]

/-- A request uses the active slots as they are. -/
theorem acceptance_activeIdx {env : Env} {proxy result : Proxy n} {method : Memory}
    {created : Bool} (acceptance : Acceptance env proxy method created result) (node : Fin n) :
    (result.pairs node).activeIdx = (proxy.pairs node).activeIdx := by
  cases acceptance with
  | fanout =>
      simp only [startRpcTimeout_pairs, fanoutPairs]
      split_ifs <;> rfl
  | sticky race begun state pending single target =>
      simp only [startRpcTimeout_pairs]
      by_cases same : node = target
      · subst same
        rw [Function.update_self]
        rfl
      · rw [Function.update_of_ne same]
  | refused => rfl

theorem client_activeIdx (env : Env) {proxy : Proxy n} (wellFormed : WellFormed proxy)
    (event : ClientEvent) (node : Fin n) :
    ((step env proxy (.client event)).pairs node).activeIdx = (proxy.pairs node).activeIdx := by
  have move := step_move env proxy (.client event) wellFormed
  generalize step env proxy (.client event) = result at move
  cases move with
  | ignored => rfl
  | hungUp => rfl
  | stored => rfl
  | dropped => rfl
  | request _ chunk method result bytes accepted idle nonempty acceptance =>
      have same := acceptance_activeIdx acceptance node
      exact same

/-- The active slot of a node changes in these callbacks and in no others. -/
theorem step_activeIdx_iff (env : Env) (proxy : Proxy n) (event : Event n)
    (wellFormed : WellFormed proxy) (node : Fin n) :
    ((step env proxy event).pairs node).activeIdx ≠ (proxy.pairs node).activeIdx ↔
      Swaps proxy event node := by
  cases event with
  | accept result =>
      refine swaps_iff_of_kept ?_ id (not_swapsAtEnd id)
      cases result with
      | failed => rfl
      | accepted registered =>
          simp only [step]
          rw [listenerCb_pairs]
  | client event =>
      exact swaps_iff_of_kept (client_activeIdx env wellFormed event node) id (not_swapsAtEnd id)
  | rotation target result => exact rotation_swaps_iff proxy target node result
  | timeout fd results => exact timeout_swaps_iff env wellFormed fd results node
  | blockNotify => exact swaps_iff_of_kept rfl id (not_swapsAtEnd id)
  | elapse duration => exact swaps_iff_of_kept rfl id (not_swapsAtEnd id)
  | conn target slot connEvent results =>
      have move := step_move env proxy (.conn target slot connEvent results) wellFormed
      generalize step env proxy (.conn target slot connEvent results) = result at move
      cases move with
      | ignored _ noBytes unheard =>
          exact swaps_iff_of_kept rfl
            (not_swapsOwn_of_upcall (by simp [unheard]) (by simp [unheard]))
            (not_swapsAtEnd (not_sweeps_of_upcall (by simp [unheard]) (by simp [unheard])))
      | moved _ _ _ _ outcome out silent =>
          have called : upcallOf proxy (.conn target slot connEvent results) = none := by
            simp [upcallOf, out, silent]
          exact swaps_iff_of_kept (setSlot_pairs_activeIdx proxy target node slot outcome.conn)
            (not_swapsOwn_of_upcall (by simp [called]) (by simp [called]))
            (not_swapsAtEnd (not_sweeps_of_upcall (by simp [called]) (by simp [called])))
      | connected _ _ _ _ outcome out upcall => exact connected_swaps_iff out upcall
      | lateResponse _ _ _ _ chunk nonempty out receiving complete idle =>
          have called : upcallOf proxy (.conn target slot connEvent results) = some .response := by
            simp [upcallOf, out]
          refine swaps_iff_of_kept ?_
            (not_swapsOwn_of_upcall (by simp [called]) (by simp [called]))
            fun ends => ends.1 idle
          rw [drainSlot_pairs, setSlot_pairs_activeIdx]
          exact setSlot_pairs_activeIdx proxy target node slot _
      | response _ _ _ _ chunk nonempty out receiving complete active result move =>
          exact ResponseMove.swaps_iff move wellFormed out receiving active node
      | lateError _ _ _ _ out busy idle =>
          have foreign : ¬ SwapsOwn proxy (.conn target slot connEvent results) node := by
            rintro ⟨-, ⟨connect, -⟩ | ⟨-, active, -⟩⟩
            · simp [upcallOf, out, ConnOutcome.quiet] at connect
            · exact active idle
          refine swaps_iff_of_kept ?_ foreign fun ends => ends.1 idle
          rw [drainSlot_pairs, setSlot_pairs_activeIdx]
          exact setSlot_pairs_activeIdx proxy target node slot _
      | error _ _ _ _ out busy active result move =>
          exact ErrorMove.swaps_iff move wellFormed out busy active node

end RpcRace.SlotSwaps
