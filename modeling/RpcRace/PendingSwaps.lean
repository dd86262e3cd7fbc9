import RpcRace.ActiveSlots
import RpcRace.Rotation

/-!
# Swaps that are due

A pair owes a swap in two situations.  A standby that gets its connection
while the active slot is down should take over at once, and a swap that the
rotation timer asked for while the active slot was busy should be made by the
handler that makes the slot idle again.

`standby_on_connected` does the first, but slot zero starts with
`slot_on_connected`, which does nothing, and keeps it when a recovery swap
makes it the standby (`recovers_iff_installed`).  `race_complete` does the
second, but the other handlers that make a slot idle do not call
`conn_pair_tick` (`noneForgotten_iff_remembers`).
-/

namespace RpcRace.PendingSwaps

open RpcRace.Library.CString
open RpcRace.Library.Run
open RpcRace.RpcConn
open RpcRace.ConnectionPair
open RpcRace.JsonResponse
open RpcRace.PairMoves
open RpcRace.RpcProxy
open RpcRace.Dispatch
open RpcRace.RaceMoves
open RpcRace.ProxyMoves
open RpcRace.SlotMoves
open RpcRace.Requests
open RpcRace.ActiveSlots
open RpcRace.Rotation

/-! ## Recovery -/

/-- The event completes the connect of the slot that is the standby. -/
def CompletesStandby (pair : ConnPair) (event : PairEvent) : Prop :=
  match event with
  | .io slot shared event =>
      slot = pair.standbyIdx ∧
        (connEpollCb shared (pair.slots slot) event).upcall = some .connected
  | .rotate result _ => pair.standbyRefreshable = true ∧ result = .immediate
  | _ => False

/-- A standby that gets its connection while the active slot is down recovers the node. -/
def Recovers (pair : ConnPair) (event : PairEvent) : Prop :=
  CompletesStandby pair event → IsDown (connPairGetActive pair) →
    connPairIsAvailable (pairStep pair event) = true

/-- A standby that gets its connection while the active slot is down has the standby's callback. -/
def Installed (pair : ConnPair) (event : PairEvent) : Prop :=
  match event with
  | .io slot _ _ =>
      CompletesStandby pair event → IsDown (connPairGetActive pair) →
        (pair.slots slot).onConnected = .standbyOnConnected
  | _ => True

instance (pair : ConnPair) (event : PairEvent) : Decidable (CompletesStandby pair event) :=
  match event with
  | .io _ _ _ => inferInstanceAs (Decidable (_ ∧ _))
  | .rotate _ _ => inferInstanceAs (Decidable (_ ∧ _))
  | .reportError | .send _ | .reset _ | .tick | .mark _ _ => .isFalse id

instance (pair : ConnPair) (event : PairEvent) : Decidable (Recovers pair event) :=
  inferInstanceAs (Decidable (_ → _))

theorem connPairIsAvailable_eq_false {pair : ConnPair} (down : IsDown (connPairGetActive pair)) :
    connPairIsAvailable pair = false :=
  decide_eq_false down.1

/-- `slot_on_connected` leaves the pair as it is, and so does a callback of the active slot. -/
theorem runOnConnected_of_plain {pair : ConnPair} {slot : Fin 2}
    (plain : (pair.slots slot).onConnected = .slotOnConnected ∨ slot ≠ pair.standbyIdx) :
    runOnConnected pair slot = pair := by
  unfold runOnConnected
  cases callback : (pair.slots slot).onConnected with
  | slotOnConnected => rfl
  | standbyOnConnected =>
      rcases plain with plain | active
      · rw [callback] at plain
        contradiction
      · exact if_pos active

theorem runOnConnected_of_installed {pair : ConnPair}
    (callback : (pair.slots pair.standbyIdx).onConnected = .standbyOnConnected) :
    runOnConnected pair pair.standbyIdx =
      if IsDown (connPairGetActive pair) then
        { pair with activeIdx := pair.standbyIdx, swapRequired := false }
      else connPairTick pair := by
  unfold runOnConnected standbyOnConnected
  rw [callback]
  exact if_neg (not_not.mpr rfl)

/-- The recovery swap of `standby_on_connected`. -/
theorem runOnConnected_of_down {pair : ConnPair}
    (callback : (pair.slots pair.standbyIdx).onConnected = .standbyOnConnected)
    (down : IsDown (connPairGetActive pair)) :
    runOnConnected pair pair.standbyIdx =
      { pair with activeIdx := pair.standbyIdx, swapRequired := false } := by
  rw [runOnConnected_of_installed callback, if_pos down]

/-- A change of the standby leaves the active slot as it is. -/
theorem setStandby_getActive (pair : ConnPair) (conn : UpstreamConn) :
    connPairGetActive (pair.setSlot pair.standbyIdx conn) = connPairGetActive pair := by
  rw [connPairGetActive, setSlot_activeIdx, setSlot_slots, if_neg (standbyIdx_ne pair).symm]
  rfl

/-- A rotation whose connect completes at once while the active slot is down. -/
theorem rotationTimerCb_available {pair : ConnPair} (fd : Nat)
    (refreshable : pair.standbyRefreshable = true) (down : IsDown (connPairGetActive pair)) :
    connPairIsAvailable (rotationTimerCb pair .immediate fd) = true := by
  have opened : rpcConnConnect pair.closedStandby .immediate fd =
      ({ pair.closedStandby with
        fd := some fd, interest := some ⟨true, false⟩, state := .connected }, true) := by
    unfold rpcConnConnect
    rw [if_neg (not_not.mpr (closedStandby_state refreshable))]
  unfold rotationTimerCb refreshStandby
  rw [if_pos refreshable, opened]
  generalize fresh_eq : ({ pair.closedStandby with
    fd := some fd, interest := some ⟨true, false⟩, state := .connected } : UpstreamConn) = fresh
  have connected : fresh.state = .connected := by
    rw [← fresh_eq]
  have callback : ((pair.setSlot pair.standbyIdx fresh).slots
      (pair.setSlot pair.standbyIdx fresh).standbyIdx).onConnected = .standbyOnConnected := by
    rw [setSlot_standbyIdx, setSlot_slots_self, ← fresh_eq]
    rfl
  have swapped := runOnConnected_of_down callback (by rwa [setStandby_getActive])
  rw [setSlot_standbyIdx] at swapped
  dsimp only
  rw [if_pos rfl, swapped]
  -- the slot that was active is down, so the tick that follows swaps nothing back
  unfold connPairTick
  rw [if_neg]
  · rw [connPairIsAvailable_iff]
    simpa using connected
  · rintro ⟨-, -, standby⟩
    refine down.1 ?_
    have other : 1 - pair.standbyIdx = pair.activeIdx := one_sub_standbyIdx pair
    have kept : (pair.setSlot pair.standbyIdx fresh).slots pair.activeIdx =
        connPairGetActive pair :=
      setStandby_getActive pair fresh
    change ((pair.setSlot pair.standbyIdx fresh).slots (1 - pair.standbyIdx)).state = _ at standby
    rwa [other, kept] at standby

/-- Traffic recovers a node exactly if the standby has its callback. -/
theorem recovers_iff (pair : ConnPair) (event : PairEvent) :
    Recovers pair event ↔ Installed pair event := by
  cases event with
  | io slot shared event =>
      refine forall_congr' fun completes => forall_congr' fun down => ?_
      rcases completes with ⟨rfl, upcall⟩
      have move := connEpollCb_move shared (pair.slots pair.standbyIdx) event
      simp only [pairStep]
      generalize connEpollCb shared (pair.slots pair.standbyIdx) event = outcome at upcall move
      rcases move.of_connected upcall with ⟨-, connected, callback_eq⟩
      rw [if_pos upcall]
      have stillDown : IsDown (connPairGetActive (pair.setSlot pair.standbyIdx outcome.conn)) := by
        rwa [setStandby_getActive]
      have kept : ((pair.setSlot pair.standbyIdx outcome.conn).slots pair.standbyIdx).onConnected =
          (pair.slots pair.standbyIdx).onConnected := by
        rw [setSlot_slots_self, callback_eq]
      constructor
      · intro available
        cases callback : (pair.slots pair.standbyIdx).onConnected with
        | standbyOnConnected => rfl
        | slotOnConnected =>
            rw [runOnConnected_of_plain (Or.inl (kept.trans callback)),
              connPairIsAvailable_eq_false stillDown] at available
            contradiction
      · intro callback
        have swapped := runOnConnected_of_down (kept.trans callback) stillDown
        rw [setSlot_standbyIdx] at swapped
        rw [swapped, connPairIsAvailable_iff]
        simpa using connected
  | rotate result fd =>
      refine iff_of_true ?_ trivial
      rintro ⟨refreshable, rfl⟩ down
      exact rotationTimerCb_available fd refreshable down
  | _ => exact iff_of_true (fun completes => completes.elim) trivial

/-- In `conn_pair_init` the standby has its callback. -/
theorem connPairInit_available (boot : PairBoot) (fd : Fin 2 → Nat)
    (immediate : boot.connect 1 = .immediate) :
    connPairIsAvailable (connPairInit boot fd) = true := by
  rw [connPairIsAvailable_iff]
  unfold connPairInit
  rw [immediate]
  cases boot.connect 0 <;> rfl

/--
Whenever the connect of the standby completes while the active slot is down,
in `conn_pair_init` or later, the node is available when the handler returns,
exactly if no such standby has kept `slot_on_connected`.
-/
theorem recovers_iff_installed (boot : PairBoot) (fd : Fin 2 → Nat) (events : List PairEvent) :
    ((boot.connect 1 = .immediate → boot.connect 0 ≠ .immediate →
          connPairIsAvailable (connPairInit boot fd) = true) ∧
        Along pairStep Recovers (connPairInit boot fd) events) ↔
      Along pairStep Installed (connPairInit boot fd) events := by
  have guards : Recovers = Installed := by
    ext pair event
    exact recovers_iff pair event
  rw [guards]
  constructor
  · rintro ⟨-, along⟩
    exact along
  · intro along
    exact ⟨fun immediate _ => connPairInit_available boot fd immediate, along⟩

/-- Neither connection of a new pair is there at once. -/
def slowBoot : PairBoot :=
  ⟨fun _ => [], fun _ => .inProgress⟩

/-- The connect of a slot completes. -/
def connects (slot : Fin 2) : PairEvent :=
  .io slot [] ⟨false, false, true, false, .again, .again⟩

/-- Slot one connects and takes over, the server closes it, and then slot zero connects. -/
def lateFirstSlot : List PairEvent :=
  [connects secondSlot, .io secondSlot [] ⟨false, true, false, false, .again, .data []⟩,
    connects firstSlot]

/-- Slot zero is connected, but the closed slot one stays active. -/
theorem lateFirstSlot_not_recovers :
    ¬ Along pairStep Recovers (connPairInit slowBoot ![0, 1]) lateFirstSlot := by
  decide +kernel

/-! ## Rotation -/

/-- A pair that still owes a swap has a slot that is not idle. -/
def Owing (pair : ConnPair) : Prop :=
  pair.swapRequired = true → ∃ slot, (pair.slots slot).state ≠ .connected

instance (pair : ConnPair) : Decidable (Owing pair) :=
  inferInstanceAs (Decidable (_ → _))

/-- Two slots are one slot and the other. -/
theorem eq_other {slot index : Fin 2} (different : index ≠ slot) : index = 1 - slot := by
  revert slot index
  decide

theorem owing_of_not_required {pair : ConnPair} (made : pair.swapRequired = false) :
    Owing pair := by
  intro required
  rw [made] at required
  contradiction

/-- `conn_pair_tick` makes a swap that can be made. -/
theorem owing_connPairTick (pair : ConnPair) : Owing (connPairTick pair) := by
  unfold connPairTick
  split_ifs with ready
  · exact owing_of_not_required rfl
  · intro required
    by_contra idle
    push Not at idle
    exact ready ⟨required, idle _, idle _⟩

theorem owing_setSlot_of_state {pair : ConnPair} (slot : Fin 2) {conn : UpstreamConn}
    (busy : conn.state ≠ .connected) :
    Owing (pair.setSlot slot conn) := by
  intro _
  exact ⟨slot, by rwa [setSlot_slots_self]⟩

/-- A slot that becomes idle leaves no swap to make if the other slot is not idle. -/
theorem owing_setSlot_iff {pair : ConnPair} {slot : Fin 2} {conn : UpstreamConn}
    (idle : conn.state = .connected) :
    Owing (pair.setSlot slot conn) ↔
      (pair.swapRequired = true → (pair.slots (1 - slot)).state ≠ .connected) := by
  have other : 1 - slot ≠ slot := by
    revert slot
    decide
  refine forall_congr' fun required => ?_
  constructor
  · rintro ⟨index, busy⟩
    rw [setSlot_slots] at busy
    split_ifs at busy with same
    · exact absurd idle busy
    · rwa [← eq_other same]
  · intro busy
    exact ⟨1 - slot, by rwa [setSlot_slots, if_neg other]⟩

theorem Owing.setSlot {pair : ConnPair} (owing : Owing pair) (slot : Fin 2) {conn : UpstreamConn}
    (unopened : conn.state = .connected → (pair.slots slot).state = .connected) :
    Owing (pair.setSlot slot conn) := by
  intro required
  rcases owing required with ⟨index, busy⟩
  refine ⟨index, ?_⟩
  rw [setSlot_slots]
  split_ifs with same
  · subst same
    exact fun idle => busy (unopened idle)
  · exact busy

/-- The callback of a standby makes the swap that is due. -/
theorem owing_runOnConnected {pair : ConnPair}
    (callback : (pair.slots pair.standbyIdx).onConnected = .standbyOnConnected) :
    Owing (runOnConnected pair pair.standbyIdx) := by
  rw [runOnConnected_of_installed callback]
  split_ifs
  · exact owing_of_not_required rfl
  · exact owing_connPairTick pair

theorem connPairInit_swapRequired (boot : PairBoot) (fd : Fin 2 → Nat) :
    (connPairInit boot fd).swapRequired = false := by
  unfold connPairInit
  cases boot.connect 0 <;> cases boot.connect 1 <;> rfl

theorem owing_sendActive (pair : ConnPair) (len : Nat) : Owing (sendActive pair len) :=
  owing_setSlot_of_state pair.activeIdx (by simp [UpstreamConn.beginSend])

/-- A response that does not end its connection leaves it idle after a reset. -/
theorem rpcConnReset_state_of_busy {conn : UpstreamConn} (busy : conn.inFlight = true) :
    (rpcConnReset conn).state = if conn.connectionClose then .disconnected else .connected := by
  unfold rpcConnReset
  split_ifs <;> rfl

variable {n : Nat}

/-- No pair has forgotten a swap: one that is required waits for a slot that is not idle. -/
def NoneForgotten (proxy : Proxy n) : Prop :=
  ∀ node, Owing (proxy.pairs node)

instance (proxy : Proxy n) : Decidable (NoneForgotten proxy) :=
  inferInstanceAs (Decidable (∀ _, _))

/--
The slot of a node that a callback makes idle without calling
`conn_pair_tick`: by a connect whose callback does nothing, by a reset of a
late response or of an early winner, or by the drain timeout.
-/
def idledSlot (env : Env) (proxy : Proxy n) (event : Event n) (node : Fin n) :
    Option (Fin 2) :=
  match event with
  | .conn other slot connEvent _ =>
      if other = node then
        (connOutcome proxy node slot connEvent).bind fun outcome =>
          match outcome.upcall with
          | some .connected =>
              if outcome.conn.onConnected = .slotOnConnected ∨
                  slot ≠ (proxy.pairs node).standbyIdx then
                some slot
              else none
          | some .response =>
              if (proxy.race.state = .idle ∨ winsEarly env proxy event = some node) ∧
                  outcome.conn.connectionClose = false then
                some slot
              else none
          | _ => none
      else none
  | .timeout fd _ =>
      if timerRegistered proxy fd ∧ proxy.race.state = .idle ∧ (proxy.active node).inFlight ∧
          (proxy.active node).connectionClose = false then
        some (proxy.pairs node).activeIdx
      else none
  | _ => none

/-- A slot of the node is made idle without a tick only while no swap with the other slot is due. -/
def RemembersAt (env : Env) (proxy : Proxy n) (event : Event n) (node : Fin n) : Prop :=
  ∀ slot, idledSlot env proxy event node = some slot →
    (proxy.pairs node).swapRequired = true →
      ((proxy.pairs node).slots (otherSlot slot)).state ≠ .connected

/-- The same for all nodes. -/
def Remembers (env : Env) (proxy : Proxy n) (event : Event n) : Prop :=
  ∀ node, RemembersAt env proxy event node

theorem remembersAt_of_none {env : Env} {proxy : Proxy n} {event : Event n} {node : Fin n}
    (none : idledSlot env proxy event node = none) :
    RemembersAt env proxy event node := by
  intro slot idled
  rw [none] at idled
  contradiction

theorem remembersAt_iff_of_some {env : Env} {proxy : Proxy n} {event : Event n} {node : Fin n}
    {slot : Fin 2} {conn : UpstreamConn} (some : idledSlot env proxy event node = some slot)
    (idle : conn.state = .connected) :
    Owing ((proxy.pairs node).setSlot slot conn) ↔ RemembersAt env proxy event node := by
  rw [owing_setSlot_iff idle]
  unfold RemembersAt
  rw [some]
  simp

theorem owing_raceComplete (proxy : Proxy n) (node : Fin n) :
    Owing ((raceComplete proxy).pairs node) := by
  rw [raceComplete_pairs]
  exact owing_connPairTick _

/-- A callback that makes no slot idle without a tick, and leaves the pair with its swap to make. -/
theorem owing_iff_of_none {env : Env} {proxy : Proxy n} {event : Event n} {node : Fin n}
    {after : ConnPair} (none : idledSlot env proxy event node = none) (owing : Owing after) :
    Owing after ↔ RemembersAt env proxy event node :=
  iff_of_true owing (remembersAt_of_none none)

/-- A change of one pair, after which it owes its swap or has made it. -/
theorem owing_update {pairs : Fin n → ConnPair} {pair : ConnPair} (node : Fin n) {other : Fin n}
    (own : Owing pair) (owing : Owing (pairs other)) :
    Owing (Function.update pairs node pair other) := by
  by_cases same : other = node
  · subst same
    rwa [Function.update_self]
  · rwa [Function.update_of_ne same]

/-- Traffic on another node makes no slot of this one idle. -/
theorem idledSlot_of_ne {env : Env} {proxy : Proxy n} {node other : Fin n} (slot : Fin 2)
    (connEvent : ConnEvent) (results : List SendResult) (different : other ≠ node) :
    idledSlot env proxy (.conn node slot connEvent results) other = none :=
  if_neg different.symm

/-- What traffic on a slot of the node itself makes idle. -/
theorem idledSlot_of_out {env : Env} {proxy : Proxy n} {node : Fin n} {slot : Fin 2}
    {connEvent : ConnEvent} {results : List SendResult} {outcome : ConnOutcome}
    (out : connOutcome proxy node slot connEvent = some outcome) :
    idledSlot env proxy (.conn node slot connEvent results) node =
      match outcome.upcall with
      | some .connected =>
          if outcome.conn.onConnected = .slotOnConnected ∨
              slot ≠ (proxy.pairs node).standbyIdx then
            some slot
          else none
      | some .response =>
          if (proxy.race.state = .idle ∨
                winsEarly env proxy (.conn node slot connEvent results) = some node) ∧
              outcome.conn.connectionClose = false then
            some slot
          else none
      | _ => none := by
  simp only [idledSlot, if_true, out, Option.bind_some]

/-- Only a connect or a response makes a slot idle. -/
theorem idledSlot_of_upcall {env : Env} {proxy : Proxy n} {node : Fin n} {slot : Fin 2}
    {connEvent : ConnEvent} {results : List SendResult}
    (noConnect : upcallOf proxy (.conn node slot connEvent results) ≠ some .connected)
    (noResponse : upcallOf proxy (.conn node slot connEvent results) ≠ some .response)
    (other : Fin n) :
    idledSlot env proxy (.conn node slot connEvent results) other = none := by
  by_cases same : other = node
  · subst same
    cases out : connOutcome proxy other slot connEvent with
    | none => simp [idledSlot, out]
    | some outcome =>
        rw [idledSlot_of_out out]
        simp only [upcallOf, out, Option.bind_some] at noConnect noResponse
        split
        · contradiction
        · contradiction
        · rfl
  · exact idledSlot_of_ne slot connEvent results same

/-- A reset after a response, of which the proxy keeps the connection or not. -/
theorem owing_reset_iff {env : Env} {proxy : Proxy n} {event : Event n} {node : Fin n}
    {slot : Fin 2} {conn : UpstreamConn} (busy : conn.inFlight = true)
    (idled : idledSlot env proxy event node =
      if conn.connectionClose = false then some slot else none) :
    Owing ((proxy.pairs node).setSlot slot (rpcConnReset conn)) ↔
      RemembersAt env proxy event node := by
  have state := rpcConnReset_state_of_busy busy
  cases closing : conn.connectionClose with
  | true =>
      rw [closing] at idled state
      exact owing_iff_of_none idled (owing_setSlot_of_state slot (by rw [state]; simp))
  | false =>
      rw [closing] at idled state
      exact remembersAt_iff_of_some idled state

/-- Traffic that is no connect and no response. -/
theorem owing_moved_iff {env : Env} {proxy : Proxy n} {node other : Fin n} {slot : Fin 2}
    {connEvent : ConnEvent} {results : List SendResult} {outcome : ConnOutcome}
    (out : connOutcome proxy node slot connEvent = some outcome)
    (silent : outcome.upcall = none) (owing : Owing (proxy.pairs other)) :
    Owing ((proxy.transfer node slot outcome).pairs other) ↔
      RemembersAt env proxy (.conn node slot connEvent results) other := by
  apply owing_iff_of_none
  · apply idledSlot_of_upcall <;> simp [upcallOf, out, silent]
  · by_cases same : other = node
    · subst same
      have unopened := ((connOutcome_move out).unopened (by simp [silent])).1
      simpa [Proxy.transfer, Proxy.setSlot] using owing.setSlot slot unopened
    · simpa [Proxy.transfer, Proxy.setSlot, same] using owing

/-- A connect makes the slot idle, and its callback ticks only for a standby that has it. -/
theorem owing_connected_iff {env : Env} {proxy : Proxy n} {node other : Fin n} {slot : Fin 2}
    {connEvent : ConnEvent} {results : List SendResult} {outcome : ConnOutcome}
    (out : connOutcome proxy node slot connEvent = some outcome)
    (upcall : outcome.upcall = some .connected) (owing : Owing (proxy.pairs other)) :
    Owing (((proxy.transfer node slot outcome).setPair node
        (runOnConnected ((proxy.transfer node slot outcome).pairs node) slot)).pairs other) ↔
      RemembersAt env proxy (.conn node slot connEvent results) other := by
  by_cases same : other = node
  · subst same
    rcases (connOutcome_move out).of_connected upcall with ⟨-, connected, -⟩
    have idled : idledSlot env proxy (.conn other slot connEvent results) other =
        if outcome.conn.onConnected = .slotOnConnected ∨
            slot ≠ (proxy.pairs other).standbyIdx then
          some slot
        else none := by
      rw [idledSlot_of_out out, upcall]
    have pair_eq : (proxy.transfer other slot outcome).pairs other =
        (proxy.pairs other).setSlot slot outcome.conn := by
      simp [Proxy.transfer, Proxy.setSlot]
    rw [Proxy.setPair_pairs, Function.update_self, pair_eq]
    split_ifs at idled with plain
    · rw [runOnConnected_of_plain (by simpa using plain)]
      exact remembersAt_iff_of_some idled connected
    · push Not at plain
      rcases plain with ⟨callback, rfl⟩
      have installed : (((proxy.pairs other).setSlot (proxy.pairs other).standbyIdx
          outcome.conn).slots (proxy.pairs other).standbyIdx).onConnected =
            .standbyOnConnected := by
        rw [setSlot_slots_self]
        cases kept : outcome.conn.onConnected with
        | slotOnConnected => exact absurd kept callback
        | standbyOnConnected => rfl
      exact owing_iff_of_none idled (owing_runOnConnected installed)
  · apply owing_iff_of_none (idledSlot_of_ne slot connEvent results same)
    simpa [Proxy.transfer, Proxy.setSlot, same] using owing

/-- A response that does not win early leaves the slot busy, or ends the race with a tick. -/
theorem owing_response_iff {env : Env} {proxy result : Proxy n} {node : Fin n} {slot : Fin 2}
    {chunk : Memory} {connEvent : ConnEvent} {results : List SendResult}
    (move : ResponseMove env proxy node slot chunk results result) (racing : Racing proxy.race)
    (out : connOutcome proxy node slot connEvent =
      some ⟨(proxy.slot node slot).absorb chunk, some .response, [], chunk⟩)
    (receiving : (proxy.slot node slot).state = .receiving) (active : proxy.race.state ≠ .idle)
    (other : Fin n) (owing : Owing (proxy.pairs other)) :
    Owing (result.pairs other) ↔
      RemembersAt env proxy (.conn node slot connEvent results) other := by
  have idled : idledSlot env proxy (.conn node slot connEvent results) node =
      if winsEarly env proxy (.conn node slot connEvent results) = some node ∧
          ((proxy.slot node slot).absorb chunk).connectionClose = false then
        some slot
      else none := by
    rw [idledSlot_of_out out]
    simp [active]
  have late : winsEarly env proxy (.conn node slot connEvent results) = none →
      idledSlot env proxy (.conn node slot connEvent results) other = none := by
    intro unwon
    by_cases same : other = node
    · subst same
      rw [idled, unwon]
      simp
    · exact idledSlot_of_ne slot connEvent results same
  have busy : ∀ race inIbd, Owing ((answered proxy node slot chunk race inIbd).pairs other) := by
    intro race inIbd
    rw [answered_pairs]
    exact owing_update node (owing_setSlot_of_state slot (by simp [receiving])) owing
  cases move with
  | counted race inIbd counting more unsent =>
      refine owing_iff_of_none (late ?_) (busy race inIbd)
      rcases unsent with error | won
      · simp [winsEarly, out, error]
      · have all : proxy.race.allMustComplete = true := by
          by_contra single
          exact won (racing.single (by simpa using single))
        simp [winsEarly, out, all]
  | broadcastWon race inIbd counting more all =>
      exact owing_iff_of_none (late (by simp [winsEarly, out, all])) (busy race inIbd)
  | won race inIbd stuck counting more single first valid =>
      have early : winsEarly env proxy (.conn node slot connEvent results) = some node := by
        simp [winsEarly, out, active, single, more, valid]
      by_cases same : other = node
      · subst same
        have pair_eq : (released
            (sendUpstreamResponseToClient
              (stick (answered proxy other slot chunk race inIbd) other stuck) other slot results)
            other slot).pairs other =
          (proxy.pairs other).setSlot slot
            (rpcConnReset { (proxy.slot other slot).absorb chunk with inIbd := inIbd }) := by
          simp [released, Proxy.setSlot, Proxy.slot, ConnPair.setSlot]
        rw [pair_eq]
        apply owing_reset_iff
        · simp [UpstreamConn.inFlight, receiving]
        · rw [idled, early]
          simp
      · apply owing_iff_of_none (idledSlot_of_ne slot connEvent results same)
        simpa [released, Proxy.setSlot, same] using owing
  | ended race inIbd counting last =>
      exact owing_iff_of_none (late (by simp [winsEarly, last])) (owing_raceComplete _ other)
  | settled race inIbd stuck counting last =>
      exact owing_iff_of_none (late (by simp [winsEarly, last])) (owing_raceComplete _ other)

/-- A late response is drained by a reset alone. -/
theorem owing_lateResponse_iff {env : Env} {proxy : Proxy n} {node : Fin n} {slot : Fin 2}
    {chunk : Memory} {connEvent : ConnEvent} {results : List SendResult}
    (out : connOutcome proxy node slot connEvent =
      some ⟨(proxy.slot node slot).absorb chunk, some .response, [], chunk⟩)
    (receiving : (proxy.slot node slot).state = .receiving) (idle : proxy.race.state = .idle)
    (other : Fin n) (owing : Owing (proxy.pairs other)) :
    Owing ((drainSlot (delivery proxy node slot chunk) node slot).pairs other) ↔
      RemembersAt env proxy (.conn node slot connEvent results) other := by
  rw [drainSlot_pairs]
  by_cases same : other = node
  · subst same
    have pair_eq : ((delivery proxy other slot chunk).setSlot other slot
        (rpcConnReset ((delivery proxy other slot chunk).slot other slot))).pairs other =
          (proxy.pairs other).setSlot slot
            (rpcConnReset ((proxy.slot other slot).absorb chunk)) := by
      simp [delivery, Proxy.setSlot, Proxy.slot, ConnPair.setSlot]
    rw [pair_eq]
    apply owing_reset_iff
    · simp [UpstreamConn.inFlight, receiving]
    · rw [idledSlot_of_out out]
      simp [idle]
  · apply owing_iff_of_none (idledSlot_of_ne slot connEvent results same)
    simpa [delivery, Proxy.setSlot, same] using owing

/-- A connection that broke is not idle. -/
theorem owing_breakage (proxy : Proxy n) (node other : Fin n) (slot : Fin 2)
    (owing : Owing (proxy.pairs other)) :
    Owing ((breakage proxy node slot).pairs other) := by
  have broken : Owing ((proxy.pairs node).setSlot slot (proxy.slot node slot).dropFd) :=
    owing_setSlot_of_state slot (by simp)
  exact owing_update node broken owing

theorem owing_lateError (proxy : Proxy n) (node other : Fin n) (slot : Fin 2)
    (owing : Owing (proxy.pairs other)) :
    Owing ((drainSlot (breakage proxy node slot) node slot).pairs other) := by
  rw [drainSlot_pairs]
  have down : (rpcConnReset ((breakage proxy node slot).slot node slot)).state = .disconnected :=
    rpcConnReset_disconnected (breakage_broken proxy node slot).down
  have reset : Owing (((breakage proxy node slot).pairs node).setSlot slot
      (rpcConnReset ((breakage proxy node slot).slot node slot))) :=
    owing_setSlot_of_state slot (by simp [down])
  exact owing_update node reset (owing_breakage proxy node other slot owing)

theorem owing_failure {proxy result : Proxy n} {node : Fin n}
    (move : FailureMove proxy node result) (other : Fin n) (owing : Owing (proxy.pairs other)) :
    Owing (result.pairs other) := by
  cases move with
  | counted => exact owing
  | ended => exact owing_raceComplete _ other
  | closed => exact owing_raceComplete _ other

/-- `conn_pair_report_error` takes the swap back. -/
theorem owing_swapOnError (proxy : Proxy n) (node other : Fin n)
    (owing : Owing (proxy.pairs other)) :
    Owing ((swapOnError proxy node).pairs other) := by
  have taken : Owing (connPairReportError (proxy.pairs node)) := owing_of_not_required rfl
  exact owing_update node taken owing

theorem owing_error {proxy result : Proxy n} {node : Fin n} (move : ErrorMove proxy node result)
    (other : Fin n) (owing : Owing (proxy.pairs other)) :
    Owing (result.pairs other) := by
  cases move with
  | retried =>
      have sending := owing_sendActive ((swapOnError proxy node).pairs node)
        proxy.race.requestLen
      exact owing_update node sending (owing_swapOnError proxy node other owing)
  | twice already result failure => exact owing_failure failure other owing
  | lost first final result failure =>
      exact owing_failure failure other (owing_swapOnError proxy node other owing)

theorem owing_acceptance {env : Env} {proxy result : Proxy n} {method : Memory} {created : Bool}
    (acceptance : Acceptance env proxy method created result) (other : Fin n)
    (owing : Owing (proxy.pairs other)) :
    Owing (result.pairs other) := by
  cases acceptance with
  | fanout =>
      simp only [startRpcTimeout_pairs, fanoutPairs]
      split_ifs
      · exact owing_sendActive _ _
      · exact owing
  | sticky race begun state pending single node =>
      simp only [startRpcTimeout_pairs]
      exact owing_update node (owing_sendActive _ _) owing
  | refused => exact owing

/-- The drain timeout resets every active slot; a race that times out ends with a tick. -/
theorem owing_timeout_iff (env : Env) {proxy : Proxy n} (fd : Nat) (results : List SendResult)
    (wellFormed : WellFormed proxy) (other : Fin n) (owing : Owing (proxy.pairs other)) :
    Owing ((step env proxy (.timeout fd results)).pairs other) ↔
      RemembersAt env proxy (.timeout fd results) other := by
  simp only [step]
  split_ifs with registered
  · have move := rpcTimeoutCb_move proxy fd results wellFormed.racing
    generalize rpcTimeoutCb proxy fd results = result at move
    cases move with
    | drained idle =>
        rw [cancelRpcTimeout_pairs]
        change Owing (resetStuck (proxy.pairs other)) ↔ _
        unfold resetStuck
        split_ifs with busy
        · apply owing_reset_iff busy
          have stuck : (proxy.active other).inFlight = true := busy
          simp only [idledSlot, registered, idle, stuck, true_and]
          rfl
        · apply owing_iff_of_none _ owing
          have calm : (proxy.active other).inFlight = false := Bool.eq_false_of_not_eq_true busy
          simp [idledSlot, calm]
    | ended active =>
        exact owing_iff_of_none (by simp [idledSlot, active]) (owing_raceComplete _ other)
    | closed active =>
        exact owing_iff_of_none (by simp [idledSlot, active]) (owing_raceComplete _ other)
  · exact owing_iff_of_none (by simp [idledSlot, registered]) owing

/-- A step that makes a slot idle without a tick forgets the swap that is due, and no other does. -/
theorem step_owing_iff (env : Env) (proxy : Proxy n) (event : Event n)
    (wellFormed : WellFormed proxy) (before : NoneForgotten proxy) (other : Fin n) :
    Owing ((step env proxy event).pairs other) ↔ RemembersAt env proxy event other := by
  have owing := before other
  have move := step_move env proxy event wellFormed
  generalize result_eq : step env proxy event = result at move
  cases move with
  | ignored event noBytes unheard =>
      cases event with
      | timeout fd results =>
          rw [← owing_timeout_iff env fd results wellFormed other owing, result_eq]
      | conn node slot connEvent results =>
          apply owing_iff_of_none _ owing
          apply idledSlot_of_upcall <;> simp [unheard]
      | _ => exact owing_iff_of_none rfl owing
  | elapsed duration => exact owing_iff_of_none rfl owing
  | notified => exact owing_iff_of_none rfl owing
  | replaced registered =>
      apply owing_iff_of_none rfl
      rw [listenerCb_pairs]
      exact owing
  | hungUp => exact owing_iff_of_none rfl owing
  | stored => exact owing_iff_of_none rfl owing
  | dropped => exact owing_iff_of_none rfl owing
  | request event chunk method result bytes accepted idle nonempty acceptance =>
      exact owing_iff_of_none rfl (owing_acceptance acceptance other owing)
  | moved node slot connEvent results outcome out silent => exact owing_moved_iff out silent owing
  | connected node slot connEvent results outcome out upcall =>
      exact owing_connected_iff out upcall owing
  | lateResponse node slot connEvent results chunk nonempty out receiving complete idle =>
      exact owing_lateResponse_iff out receiving idle other owing
  | response node slot connEvent results chunk nonempty out receiving complete active result
      move =>
      exact owing_response_iff move (wellFormed.racing active) out receiving active other owing
  | lateError node slot connEvent results out busy idle =>
      apply owing_iff_of_none _ (owing_lateError proxy node other slot owing)
      apply idledSlot_of_upcall <;> simp [upcallOf, out, ConnOutcome.quiet]
  | error node slot connEvent results out busy active result move =>
      apply owing_iff_of_none _
        (owing_error move other (owing_breakage proxy node other slot owing))
      apply idledSlot_of_upcall <;> simp [upcallOf, out, ConnOutcome.quiet]
  | rotated node result =>
      apply owing_iff_of_none rfl
      rw [rotationEvent_pairs]
      exact owing_update node (owing_connPairTick _) owing
  | expired fd results registered result move =>
      rw [← owing_timeout_iff env fd results wellFormed other owing, result_eq]

/--
No postponed rotation is forgotten in a run, exactly if no handler makes a
slot idle without `conn_pair_tick` while a swap with the other slot is due.
-/
theorem noneForgotten_iff_remembers (env : Env) (boot : Boot n) (events : List (Event n)) :
    Throughout (step env) NoneForgotten (rpcProxyCreate boot) events ↔
      Along (step env) (Remembers env) (rpcProxyCreate boot) events := by
  have keep : ∀ (proxy : Proxy n) event, WellFormed proxy ∧ NoneForgotten proxy →
      Remembers env proxy event →
      WellFormed (step env proxy event) ∧ NoneForgotten (step env proxy event) := by
    rintro proxy event ⟨wellFormed, before⟩ remembers
    exact ⟨step_wellFormed env proxy event wellFormed, fun node =>
      (step_owing_iff env proxy event wellFormed before node).mpr (remembers node)⟩
  apply throughout_iff_along keep
  · rintro proxy ⟨-, before⟩
    exact before
  · rintro proxy event ⟨wellFormed, before⟩ after node
    exact (step_owing_iff env proxy event wellFormed before node).mp (after node)
  · refine ⟨rpcProxyCreate_wellFormed boot, fun node => ?_⟩
    exact owing_of_not_required (connPairInit_swapRequired (boot.pair node) _)

/-- The timer of a node expires while both nodes work on a request, and that node wins. -/
def rotatedWinner : List (Event 2) :=
  [clientConnects, clientSends addressRequest, slotWrites 0 0 1000, slotWrites 1 0 1000,
    rotates 0 .immediate, slotReads 0 0 doneResponse [.accepted 1000]]

/-- The winner is idle with its new standby, and the swap is still to be made. -/
theorem rotatedWinner_forgotten :
    ¬ Throughout (step exampleEnv) NoneForgotten (rpcProxyCreate (Requests.exampleBoot 2))
      rotatedWinner := by
  have forgotten : ¬ NoneForgotten (exampleRun 2 rotatedWinner) := by
    decide +kernel
  intro everywhere
  exact forgotten (throughout_end everywhere)

end RpcRace.PendingSwaps
