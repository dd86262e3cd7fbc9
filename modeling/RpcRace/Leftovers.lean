import RpcRace.SlotSwaps

/-!
# What a race leaves behind

A connection that breaks keeps its request pointer and its framing state
until something clears them: the swap after a first error, the reset of a
late response or error, or `race_complete`, which resets the active slot of
every node.  A node that fails twice in a race that goes on keeps them.

If another node then wins early, nothing clears them; if a recovery swap
makes the slot the standby, `race_complete` passes it by.  These are the only
ways to a leftover in an idle proxy (`noLeftovers_iff_nothingLeft`).
-/

namespace RpcRace.Leftovers

open RpcRace.Library.CString
open RpcRace.Library.Run
open RpcRace.RpcConn
open RpcRace.ConnectionPair
open RpcRace.JsonResponse
open RpcRace.PairMoves
open RpcRace.RpcProxy
open RpcRace.Dispatch
open RpcRace.RaceMoves
open RpcRace.ProxyMoves
open RpcRace.SlotMoves
open RpcRace.Requests
open RpcRace.ClientMoves
open RpcRace.ActiveSlots
open RpcRace.SlotSwaps

/-! ## Connections -/

/-- No request pointer, no received bytes, no framing state and no close flag. -/
def Clean (conn : UpstreamConn) : Prop :=
  conn.sendBuf = false ∧ conn.recvLen = 0 ∧ conn.headersComplete = false ∧
    conn.connectionClose = false

instance (conn : UpstreamConn) : Decidable (Clean conn) :=
  inferInstanceAs (Decidable (_ ∧ _))

/-- A request pointer without a request in flight. -/
def Leftover (conn : UpstreamConn) : Prop :=
  conn.sendBuf = true ∧ conn.inFlight = false

/-- A connection without a pointer is clean, and one with a request in flight has its pointer. -/
structure Tidy (conn : UpstreamConn) : Prop where
  pointer : conn.inFlight = true → conn.sendBuf = true
  clean : conn.sendBuf = false → Clean conn

theorem tidy_of_clean {conn : UpstreamConn} (clean : Clean conn) (calm : conn.inFlight = false) :
    Tidy conn := by
  refine ⟨fun busy => ?_, fun _ => clean⟩
  rw [calm] at busy
  contradiction

theorem tidy_of_sendBuf {conn : UpstreamConn} (pointer : conn.sendBuf = true) : Tidy conn := by
  refine ⟨fun _ => pointer, fun cleared => ?_⟩
  rw [pointer] at cleared
  contradiction

/-- A reset clears everything, whether it closes the connection or not. -/
theorem tidy_rpcConnReset (conn : UpstreamConn) : Tidy (rpcConnReset conn) := by
  refine tidy_of_clean ?_ (rpcConnReset_inFlight conn)
  unfold rpcConnReset
  split_ifs with closing busy
  · simp [Clean]
  · simp [Clean, closing]
  · simp [Clean, closing]

theorem tidy_rpcConnDisconnect (conn : UpstreamConn) : Tidy (rpcConnDisconnect conn) :=
  tidy_of_clean (by simp [Clean]) (by simp [UpstreamConn.inFlight])

theorem ConnMove.tidy {shared : Memory} {conn : UpstreamConn} {outcome : ConnOutcome}
    (move : ConnMove shared conn outcome) (tidy : Tidy conn) :
    Tidy outcome.conn := by
  have pointer : ∀ state, conn.state = state → state = .sending ∨ state = .receiving →
      conn.sendBuf = true := by
    rintro state state_eq busy
    apply tidy.pointer
    rcases busy with rfl | rfl <;> simp [UpstreamConn.inFlight, state_eq]
  cases move with
  | still => exact tidy
  | closed quiet =>
      refine ⟨fun busy => ?_, fun cleared => tidy.clean cleared⟩
      simp [ConnOutcome.quiet, UpstreamConn.inFlight] at busy
  | connected connecting =>
      refine ⟨fun busy => ?_, fun cleared => tidy.clean cleared⟩
      simp [ConnOutcome.quiet, UpstreamConn.inFlight] at busy
  | broken busy => exact tidy_of_sendBuf (tidy.pointer busy)
  | wrote sending => exact tidy_of_sendBuf (pointer _ sending (Or.inl rfl))
  | wroteAll sending => exact tidy_of_sendBuf (pointer _ sending (Or.inl rfl))
  | read receiving =>
      exact tidy_of_sendBuf ((absorb_sendBuf _ _).trans (pointer _ receiving (Or.inr rfl)))
  | readAll receiving =>
      exact tidy_of_sendBuf ((absorb_sendBuf _ _).trans (pointer _ receiving (Or.inr rfl)))

theorem tidy_rpcConnConnect {conn : UpstreamConn} (tidy : Tidy conn) (result : ConnectResult)
    (fd : Nat) :
    Tidy (rpcConnConnect conn result fd).1 := by
  unfold rpcConnConnect
  split_ifs with other
  · exact tidy
  · cases result with
    | failed => exact tidy
    | immediate =>
        refine ⟨fun busy => ?_, fun cleared => tidy.clean cleared⟩
        simp [UpstreamConn.inFlight] at busy
    | inProgress =>
        refine ⟨fun busy => ?_, fun cleared => tidy.clean cleared⟩
        simp [UpstreamConn.inFlight] at busy

theorem connInvariant_tidy : ConnInvariant Tidy where
  move _ _ _ move tidy := ConnMove.tidy move tidy
  disconnect conn _ := tidy_rpcConnDisconnect conn
  connect _ result fd tidy := tidy_rpcConnConnect tidy result fd
  install _ _ tidy := ⟨tidy.pointer, tidy.clean⟩
  send _ _ _ _ := tidy_of_sendBuf rfl
  reset conn _ := tidy_rpcConnReset conn
  mark _ _ tidy := ⟨tidy.pointer, tidy.clean⟩

/-- Both slots of a pair are tidy. -/
def TidyPair (pair : ConnPair) : Prop :=
  ∀ slot, Tidy (pair.slots slot)

theorem connPairInit_clean (boot : PairBoot) (fd : Fin 2 → Nat) (slot : Fin 2) :
    Clean ((connPairInit boot fd).slots slot) := by
  apply connPairInit_slots Clean
  intro slot callback
  unfold rpcConnConnect
  cases boot.connect slot <;> simp [Clean, rpcConnInit]

/-! ## Leftovers under the handlers -/

theorem not_leftover_of_busy {conn : UpstreamConn} (busy : conn.inFlight = true) :
    ¬ Leftover conn := by
  rintro ⟨-, calm⟩
  rw [busy] at calm
  contradiction

theorem not_leftover_of_sendBuf {conn : UpstreamConn} (cleared : conn.sendBuf = false) :
    ¬ Leftover conn := by
  rintro ⟨pointer, -⟩
  rw [cleared] at pointer
  contradiction

theorem not_leftover_rpcConnReset (conn : UpstreamConn) : ¬ Leftover (rpcConnReset conn) :=
  not_leftover_of_sendBuf (rpcConnReset_sendBuf conn)

/-- An event without an error leaves no pointer behind. -/
theorem ConnMove.leftover {shared : Memory} {conn : UpstreamConn} {outcome : ConnOutcome}
    (move : ConnMove shared conn outcome) (noError : outcome.upcall ≠ some .error)
    (left : Leftover outcome.conn) :
    Leftover conn := by
  cases move with
  | still => exact left
  | closed quiet => exact ⟨left.1, quiet⟩
  | connected connecting => exact ⟨left.1, by simp [UpstreamConn.inFlight, connecting]⟩
  | broken busy => exact absurd rfl noError
  | wrote sending => exact left
  | wroteAll sending =>
      refine absurd left (not_leftover_of_busy ?_)
      simp [UpstreamConn.inFlight, UpstreamConn.beginReceive]
  | read receiving =>
      refine absurd left (not_leftover_of_busy ?_)
      simp [UpstreamConn.inFlight, receiving]
  | readAll receiving =>
      refine absurd left (not_leftover_of_busy ?_)
      simp [UpstreamConn.inFlight, receiving]

theorem leftover_of_refreshed {pair : ConnPair} (refreshable : pair.standbyRefreshable = true)
    (result : ConnectResult) (fd : Nat)
    (left : Leftover (rpcConnConnect pair.closedStandby result fd).1) :
    Leftover (pair.slots pair.standbyIdx) := by
  have pointer : pair.closedStandby.sendBuf = true := by
    have kept := left.1
    rw [refreshed_eq refreshable] at kept
    cases result <;> exact kept
  unfold ConnPair.closedStandby at pointer
  dsimp only at pointer
  split_ifs at pointer with connected
  · simp at pointer
  · have down : (pair.slots pair.standbyIdx).state = .disconnected := by
      simpa [ConnPair.standbyRefreshable, connected] using refreshable
    exact ⟨pointer, by simp [UpstreamConn.inFlight, down]⟩

variable {n : Nat}

/-- `race_complete` clears the active slots and passes the standbys by. -/
theorem raceComplete_leftover_iff (proxy : Proxy n) (node : Fin n) (slot : Fin 2) :
    Leftover ((raceComplete proxy).slot node slot) ↔
      Leftover (proxy.slot node slot) ∧ slot = (proxy.pairs node).standbyIdx := by
  rw [Proxy.slot, raceComplete_pairs, connPairTick_slots]
  unfold resetParticipant
  dsimp only
  by_cases active : slot = (proxy.pairs node).activeIdx
  · have other : slot ≠ (proxy.pairs node).standbyIdx := by
      rw [active]
      exact (standbyIdx_ne _).symm
    refine iff_of_false (fun left => ?_) fun left => other left.2
    split_ifs at left with participates
    · rw [setSlot_slots, if_pos active] at left
      exact not_leftover_rpcConnReset _ left
    · rw [active] at left
      exact participates (Or.inl left.1)
  · have standby := eq_standby_of_ne_active _ slot active
    split_ifs
    · rw [setSlot_slots, if_neg active]
      exact (and_iff_left standby).symm
    · exact (and_iff_left standby).symm

theorem unstuck_leftover {proxy : Proxy n} {node : Fin n} {slot : Fin 2}
    (left : Leftover ((unstuck proxy).slot node slot)) :
    Leftover (proxy.slot node slot) := by
  rcases unstuck_slot proxy node slot with same | reset
  · rwa [same] at left
  · rw [reset] at left
    exact absurd left (not_leftover_rpcConnReset _)

theorem sendActive_leftover {pair : ConnPair} {len : Nat} {slot : Fin 2}
    (left : Leftover ((sendActive pair len).slots slot)) :
    Leftover (pair.slots slot) := by
  rw [sendActive, setSlot_slots] at left
  split_ifs at left
  · refine absurd left (not_leftover_of_busy ?_)
    simp [UpstreamConn.inFlight, UpstreamConn.beginSend]
  · exact left

/-- The leftovers after one callback. -/
inductive LeftoverMove (env : Env) (proxy : Proxy n) (event : Event n) (result : Proxy n) :
    Prop where
  /-- The race does not end, and only a second failure of a node leaves something behind. -/
  | spared (ongoing : proxy.race.state ≠ .idle → result.race.state ≠ .idle)
      (retried : proxy.race.state ≠ .idle → ∀ node, proxy.race.nodeRetried node = true →
        result.race.nodeRetried node = true)
      (fewer : ∀ node slot, Leftover (result.slot node slot) →
        Leftover (proxy.slot node slot) ∨
          proxy.race.state ≠ .idle ∧ proxy.race.nodeRetried node = true)
  /-- A response wins early, and what is left stays. -/
  | won (racing : proxy.race.state ≠ .idle) (idle : result.race.state = .idle)
      (early : winsEarly env proxy event ≠ none)
      (same : ∀ node slot, Leftover (result.slot node slot) ↔ Leftover (proxy.slot node slot))
  /-- `race_complete` clears the active slots. -/
  | completed (racing : proxy.race.state ≠ .idle) (idle : result.race.state = .idle)
      (late : winsEarly env proxy event = none)
      (swept : ∀ node slot, Leftover (result.slot node slot) ↔
        Leftover (proxy.slot node slot) ∧ slot = (proxy.pairs node).standbyIdx)

/-- While a request is raced, something is left only of nodes that were retried. -/
def RetriedOnly (proxy : Proxy n) : Prop :=
  proxy.race.state ≠ .idle → ∀ node slot, Leftover (proxy.slot node slot) →
    proxy.race.nodeRetried node = true

/-- `race_complete` on a node of which at most the active slot has changed. -/
theorem raceComplete_swept {proxy base : Proxy n} {node : Fin n}
    (beside : Beside (proxy.pairs node) (base.pairs node)) (slot : Fin 2) :
    Leftover ((raceComplete base).slot node slot) ↔
      Leftover (proxy.slot node slot) ∧ slot = (proxy.pairs node).standbyIdx := by
  rw [raceComplete_leftover_iff, beside.standbyIdx_eq]
  refine and_congr_left fun standby => ?_
  rw [standby, Proxy.slot, beside.standby_eq]
  rfl

/-- Any change of one slot, when the others are as they were. -/
theorem spares_of_slot {proxy result : Proxy n} (node : Fin n) (slot : Fin 2)
    (kept : ∀ other index, ¬ (other = node ∧ index = slot) →
      result.slot other index = proxy.slot other index)
    (own : Leftover (result.slot node slot) →
      Leftover (proxy.slot node slot) ∨
        proxy.race.state ≠ .idle ∧ proxy.race.nodeRetried node = true)
    (other : Fin n) (index : Fin 2) (left : Leftover (result.slot other index)) :
    Leftover (proxy.slot other index) ∨
      proxy.race.state ≠ .idle ∧ proxy.race.nodeRetried other = true := by
  by_cases same : other = node ∧ index = slot
  · rcases same with ⟨rfl, rfl⟩
    exact own left
  · rw [kept other index same] at left
    exact Or.inl left

section Events

variable {env : Env} {proxy result : Proxy n} {node : Fin n} {slot : Fin 2}
variable {connEvent : ConnEvent} {results : List SendResult} {chunk : Memory}

theorem ResponseMove.leftoverMove
    (move : ResponseMove env proxy node slot chunk results result) (wellFormed : WellFormed proxy)
    (out : connOutcome proxy node slot connEvent =
      some ⟨(proxy.slot node slot).absorb chunk, some .response, [], chunk⟩)
    (receiving : (proxy.slot node slot).state = .receiving)
    (active : proxy.race.state ≠ .idle) :
    LeftoverMove env proxy (.conn node slot connEvent results) result := by
  have busy : (proxy.slot node slot).inFlight = true := by
    simp [UpstreamConn.inFlight, receiving]
  have answering : ∀ race inIbd,
      ((answered proxy node slot chunk race inIbd).slot node slot).inFlight = true := by
    intro race inIbd
    rw [answered_slot]
    simp [UpstreamConn.inFlight, receiving]
  have counted : ∀ race inIbd,
      Counted env proxy.race ((proxy.slot node slot).absorb chunk) node false race →
      ∀ result : Proxy n, result.race = race →
      result.pairs = (answered proxy node slot chunk race inIbd).pairs →
      LeftoverMove env proxy (.conn node slot connEvent results) result := by
    intro race inIbd counting result race_eq pairs_eq
    have slots : ∀ other index, result.slot other index =
        (answered proxy node slot chunk race inIbd).slot other index := by
      intro other index
      rw [Proxy.slot, pairs_eq]
      rfl
    refine .spared (fun _ => ?_) (fun _ other retried => ?_)
      (spares_of_slot node slot ?_ fun left => ?_)
    · rw [race_eq, counting.state_eq]
      exact active
    · rw [race_eq, counting.retried_eq]
      exact retried
    · intro other index different
      rw [slots]
      exact answered_slot_of_ne node other slot index chunk race inIbd different
    · rw [slots] at left
      exact absurd left (not_leftover_of_busy (answering race inIbd))
  have beside : ∀ race inIbd other, Beside (proxy.pairs other)
      ((answered proxy node slot chunk race inIbd).pairs other) :=
    answered_beside (wellFormed.eq_active busy)
  cases move with
  | counted race inIbd counting => exact counted race inIbd counting _ rfl rfl
  | broadcastWon race inIbd counting => exact counted race inIbd counting _ rfl rfl
  | won race inIbd stuck counting more single first valid =>
      refine .won active rfl (by simp [winsEarly, out, active, single, more, valid]) ?_
      intro other index
      rw [released, setSlot_slot]
      split_ifs with same
      · rcases same with ⟨rfl, rfl⟩
        exact iff_of_false (not_leftover_rpcConnReset _) (not_leftover_of_busy busy)
      · have kept : (sendUpstreamResponseToClient
            (stick (answered proxy node slot chunk race inIbd) node stuck)
            node slot results).slot other index = proxy.slot other index := by
          rw [Proxy.slot, sendUpstreamResponseToClient_pairs, stick_pairs]
          exact answered_slot_of_ne node other slot index chunk race inIbd same
        exact iff_of_eq (congrArg Leftover kept)
  | ended race inIbd counting last =>
      refine .completed active rfl (by simp [winsEarly, last]) fun other index => ?_
      exact raceComplete_swept (beside race inIbd other) index
  | settled race inIbd stuck counting last =>
      refine .completed active rfl (by simp [winsEarly, last]) fun other index => ?_
      apply raceComplete_swept
      rw [sendUpstreamResponseToClient_pairs, stick_pairs]
      exact beside race inIbd other

theorem winsEarly_of_error
    (out : connOutcome proxy node slot connEvent =
      some (.quiet (proxy.slot node slot).dropFd (some .error))) :
    winsEarly env proxy (.conn node slot connEvent results) = none := by
  simp [winsEarly, out, ConnOutcome.quiet]

/-- A node that fails although it was retried. -/
theorem FailureMove.leftoverMove_of_twice
    (move : FailureMove (breakage proxy node slot) node result)
    (out : connOutcome proxy node slot connEvent =
      some (.quiet (proxy.slot node slot).dropFd (some .error)))
    (position : slot = (proxy.pairs node).activeIdx) (active : proxy.race.state ≠ .idle)
    (already : proxy.race.nodeRetried node = true) :
    LeftoverMove env proxy (.conn node slot connEvent results) result := by
  have late : winsEarly env proxy (.conn node slot connEvent results) = none :=
    winsEarly_of_error out
  have kept : ∀ other index, ¬ (other = node ∧ index = slot) →
      (lost (breakage proxy node slot) node).slot other index = proxy.slot other index :=
    (breakage_broken proxy node slot).kept
  cases move with
  | counted =>
      exact .spared (fun _ => active) (fun _ _ retried => retried)
        (spares_of_slot node slot kept fun _ => Or.inr ⟨active, already⟩)
  | ended =>
      refine .completed active rfl late fun other index => ?_
      apply raceComplete_swept
      exact breakage_beside position other
  | closed =>
      refine .completed active rfl late fun other index => ?_
      apply raceComplete_swept
      exact breakage_beside position other

/-- A swapped pair has nothing left if it had nothing left before the error. -/
theorem not_leftover_swapOnError (position : slot = (proxy.pairs node).activeIdx)
    (none : ∀ index, ¬ Leftover (proxy.slot node index)) (index : Fin 2) :
    ¬ Leftover ((swapOnError (breakage proxy node slot) node).slot node index) := by
  have activeIdx_eq : ((breakage proxy node slot).pairs node).activeIdx = slot := by
    rw [(breakage_beside position node).activeIdx_eq, position]
  rw [swapOnError_slot, activeIdx_eq]
  split_ifs with same
  · exact not_leftover_of_sendBuf rfl
  · rw [(breakage_broken proxy node slot).kept node index same]
    exact none index

theorem swapOnError_kept {other : Fin n} (different : other ≠ node) :
    (swapOnError (breakage proxy node slot) node).pairs other = proxy.pairs other := by
  simp [swapOnError, breakage, Proxy.setSlot, different]

/-- A node that was retried still is, when another one fails. -/
theorem swapOnError_retried {other : Fin n} (retried : proxy.race.nodeRetried other = true) :
    (swapOnError (breakage proxy node slot) node).race.nodeRetried other = true := by
  change Function.update proxy.race.nodeRetried node true other = true
  rw [Function.update_apply, retried, ite_self]

/-- A node that fails for the first time and has no connected standby. -/
theorem FailureMove.leftoverMove_of_lost
    (move : FailureMove (swapOnError (breakage proxy node slot) node) node result)
    (out : connOutcome proxy node slot connEvent =
      some (.quiet (proxy.slot node slot).dropFd (some .error)))
    (position : slot = (proxy.pairs node).activeIdx) (active : proxy.race.state ≠ .idle)
    (none : ∀ index, ¬ Leftover (proxy.slot node index)) :
    LeftoverMove env proxy (.conn node slot connEvent results) result := by
  have late : winsEarly env proxy (.conn node slot connEvent results) = Option.none :=
    winsEarly_of_error out
  have clean := not_leftover_swapOnError position none
  have completed : ∀ base : Proxy n,
      base.pairs = (swapOnError (breakage proxy node slot) node).pairs →
      ∀ other index, Leftover ((raceComplete base).slot other index) ↔
        Leftover (proxy.slot other index) ∧ index = (proxy.pairs other).standbyIdx := by
    intro base pairs_eq other index
    by_cases same : other = node
    · subst same
      refine iff_of_false (fun left => ?_) fun left => none index left.1
      have before := ((raceComplete_leftover_iff base other index).mp left).1
      rw [Proxy.slot, pairs_eq] at before
      exact clean index before
    · apply raceComplete_swept
      rw [pairs_eq, swapOnError_kept same]
      exact .refl _
  cases move with
  | counted =>
      refine .spared (fun _ => active) (fun _ _ => swapOnError_retried)
        fun other index left => ?_
      by_cases same : other = node
      · subst same
        exact absurd left (clean index)
      · have kept : (lost (swapOnError (breakage proxy node slot) node) node).slot other index =
            proxy.slot other index :=
          congrFun (congrArg ConnPair.slots (swapOnError_kept same)) index
        rw [kept] at left
        exact Or.inl left
  | ended => exact .completed active rfl late (completed _ rfl)
  | closed => exact .completed active rfl late (completed _ rfl)

theorem ErrorMove.leftoverMove (move : ErrorMove (breakage proxy node slot) node result)
    (wellFormed : WellFormed proxy) (retriedOnly : RetriedOnly proxy)
    (out : connOutcome proxy node slot connEvent =
      some (.quiet (proxy.slot node slot).dropFd (some .error)))
    (busy : (proxy.slot node slot).inFlight = true) (active : proxy.race.state ≠ .idle) :
    LeftoverMove env proxy (.conn node slot connEvent results) result := by
  have position := wellFormed.eq_active busy
  have none : proxy.race.nodeRetried node = false →
      ∀ index, ¬ Leftover (proxy.slot node index) := by
    intro first index left
    have retried := retriedOnly active node index left
    rw [first] at retried
    contradiction
  cases move with
  | retried retryable =>
      have clean := not_leftover_swapOnError position (none retryable.1)
      refine .spared (fun _ => active) (fun _ _ => swapOnError_retried)
        fun other index left => ?_
      by_cases same : other = node
      · subst same
        rw [retrial, emit_slot, setPair_slot, if_pos rfl] at left
        exact absurd (sendActive_leftover left) (clean index)
      · rw [retrial, emit_slot, setPair_slot, if_neg same, Proxy.slot,
          swapOnError_kept same] at left
        exact Or.inl left
  | twice already result failure =>
      exact FailureMove.leftoverMove_of_twice failure out position active already
  | lost first final result failure =>
      exact FailureMove.leftoverMove_of_lost failure out position active (none first)

end Events

theorem TimeoutMove.leftoverMove {env : Env} {proxy result : Proxy n} {fd : Nat}
    {results : List SendResult} (move : TimeoutMove proxy fd result) :
    LeftoverMove env proxy (.timeout fd results) result := by
  cases move with
  | drained idle =>
      refine .spared (fun active => absurd idle active) (fun active => absurd idle active)
        fun other index left => Or.inl ?_
      rw [Proxy.slot, cancelRpcTimeout_pairs] at left
      have before := unstuck_leftover left
      exact before
  | ended active =>
      refine .completed active rfl rfl fun other index => ?_
      apply raceComplete_swept
      exact .refl (proxy.pairs other)
  | closed active =>
      refine .completed active rfl rfl fun other index => ?_
      apply raceComplete_swept
      exact .refl (proxy.pairs other)

theorem Acceptance.leftover {env : Env} {proxy result : Proxy n} {method : Memory}
    {created : Bool} (acceptance : Acceptance env proxy method created result) {node : Fin n}
    {slot : Fin 2} (left : Leftover (result.slot node slot)) :
    Leftover (proxy.slot node slot) := by
  cases acceptance with
  | fanout =>
      simp only [Proxy.slot, startRpcTimeout_pairs, fanoutPairs] at left
      split_ifs at left
      · exact sendActive_leftover left
      · exact left
  | sticky race begun state pending single target =>
      simp only [Proxy.slot, startRpcTimeout_pairs] at left
      by_cases same : node = target
      · subst same
        rw [Function.update_self] at left
        exact sendActive_leftover left
      · rwa [Function.update_of_ne same] at left
  | refused => exact left

/-- What every callback does to the leftovers. -/
theorem step_leftoverMove (env : Env) (proxy : Proxy n) (event : Event n)
    (wellFormed : WellFormed proxy) (retriedOnly : RetriedOnly proxy) :
    LeftoverMove env proxy event (step env proxy event) := by
  have aside : ∀ result : Proxy n, result.race.state = proxy.race.state →
      result.race.nodeRetried = proxy.race.nodeRetried →
      (∀ node slot, Leftover (result.slot node slot) → Leftover (proxy.slot node slot)) →
      LeftoverMove env proxy event result := by
    intro result state_eq retried_eq fewer
    refine .spared (fun active => ?_) (fun _ node retried => ?_) fun node slot left =>
      Or.inl (fewer node slot left)
    · rwa [state_eq]
    · rwa [retried_eq]
  have move := step_move env proxy event wellFormed
  generalize step env proxy event = result at move
  cases move with
  | ignored => exact aside _ rfl rfl fun _ _ left => left
  | elapsed => exact aside _ rfl rfl fun _ _ left => left
  | notified => exact aside _ rfl rfl fun _ _ left => left
  | replaced registered =>
      refine aside _ (congrArg _ (listenerCb_race proxy registered))
        (congrArg _ (listenerCb_race proxy registered)) fun node slot left => ?_
      rwa [Proxy.slot, listenerCb_pairs] at left
  | hungUp => exact aside _ rfl rfl fun _ _ left => left
  | stored => exact aside _ rfl rfl fun _ _ left => left
  | dropped => exact aside _ rfl rfl fun _ _ left => left
  | request event chunk method result bytes accepted idle nonempty acceptance =>
      refine .spared (fun active => absurd idle active) (fun active => absurd idle active)
        fun node slot left => Or.inl ?_
      have before := Acceptance.leftover acceptance left
      exact before
  | moved node slot connEvent results outcome out silent =>
      refine aside _ rfl rfl fun other index left => ?_
      rw [Proxy.transfer, emit_slot, setSlot_slot] at left
      split_ifs at left with same
      · rcases same with ⟨rfl, rfl⟩
        exact ConnMove.leftover (connOutcome_move out) (by simp [silent]) left
      · exact left
  | connected node slot connEvent results outcome out upcall =>
      refine aside _ rfl rfl fun other index left => ?_
      rw [established_slot] at left
      split_ifs at left with same
      · rcases same with ⟨rfl, rfl⟩
        exact ConnMove.leftover (connOutcome_move out) (by simp [upcall]) left
      · exact left
  | lateResponse node slot connEvent results chunk nonempty out receiving complete idle =>
      refine .spared (fun active => absurd idle active) (fun active => absurd idle active)
        (spares_of_slot node slot (fun other index different => ?_) fun left => ?_)
      · rw [drainSlot_slot, if_neg different, delivery, emit_slot, emit_slot, setSlot_slot,
          if_neg different]
      · rw [drainSlot_slot, if_pos ⟨rfl, rfl⟩] at left
        exact absurd left (not_leftover_rpcConnReset _)
  | response node slot connEvent results chunk nonempty out receiving complete active result
      move =>
      exact ResponseMove.leftoverMove move wellFormed out receiving active
  | lateError node slot connEvent results out busy idle =>
      refine .spared (fun active => absurd idle active) (fun active => absurd idle active)
        (spares_of_slot node slot (fun other index different => ?_) fun left => ?_)
      · rw [drainSlot_slot, if_neg different]
        exact (breakage_broken proxy node slot).kept other index different
      · rw [drainSlot_slot, if_pos ⟨rfl, rfl⟩] at left
        exact absurd left (not_leftover_rpcConnReset _)
  | error node slot connEvent results out busy active result move =>
      exact ErrorMove.leftoverMove move wellFormed retriedOnly out busy active
  | rotated node connect =>
      refine aside _ (congrArg _ (rotationEvent_race proxy node connect))
        (congrArg _ (rotationEvent_race proxy node connect)) fun other index left => ?_
      rw [rotationEvent_slot] at left
      split_ifs at left with refreshed
      · rw [refreshed.1, refreshed.2.2]
        exact leftover_of_refreshed refreshed.2.1 connect proxy.nextFd left
      · exact left
  | expired fd results registered result move => exact TimeoutMove.leftoverMove move

/-! ## The end of a race -/

theorem FailureMove.idle_iff {base result : Proxy n} {node : Fin n}
    (move : FailureMove base node result) (active : base.race.state ≠ .idle) :
    result.race.state = .idle ↔ base.race.responsesPending ≤ 1 := by
  cases move with
  | counted more => exact iff_of_false active (not_le.mpr more)
  | ended last => exact iff_of_true rfl last
  | closed last => exact iff_of_true rfl last

section Ends

variable {env : Env} {proxy result : Proxy n} {node : Fin n} {slot : Fin 2}
variable {connEvent : ConnEvent} {results : List SendResult} {chunk : Memory}

/-- A callback that neither responds nor fails ends no race. -/
theorem ends_iff_of_kept (kept : result.race.state ≠ .idle)
    (noResponse : upcallOf proxy (.conn node slot connEvent results) ≠ some .response)
    (noError : upcallOf proxy (.conn node slot connEvent results) ≠ some .error) :
    result.race.state = .idle ↔
      winsEarly env proxy (.conn node slot connEvent results) ≠ none ∨
        Sweeps proxy (.conn node slot connEvent results) := by
  refine iff_of_false kept (not_or.mpr ⟨not_not.mpr ?_, not_sweeps_of_upcall noResponse noError⟩)
  by_contra early
  rcases Option.ne_none_iff_exists'.mp early with ⟨winner, early⟩
  rcases winsEarly_eq_some early with ⟨-, -, -, _, _, _, outcome, equal, out, response, -⟩
  cases equal
  exact noResponse (by simp [upcallOf, out, response])

theorem ResponseMove.ends_iff (move : ResponseMove env proxy node slot chunk results result)
    (wellFormed : WellFormed proxy)
    (out : connOutcome proxy node slot connEvent =
      some ⟨(proxy.slot node slot).absorb chunk, some .response, [], chunk⟩)
    (active : proxy.race.state ≠ .idle) :
    result.race.state = .idle ↔
      winsEarly env proxy (.conn node slot connEvent results) ≠ none ∨
        Sweeps proxy (.conn node slot connEvent results) := by
  have sweeps : proxy.race.responsesPending = 1 →
      Sweeps proxy (.conn node slot connEvent results) :=
    fun last => ⟨active, last.le, _, out, Or.inl rfl⟩
  cases move with
  | counted race inIbd counting more unsent =>
      have late : winsEarly env proxy (.conn node slot connEvent results) = none := by
        rcases unsent with error | won
        · simp [winsEarly, out, error]
        · have all : proxy.race.allMustComplete = true := by
            by_contra single
            exact won ((wellFormed.racing active).single (Bool.eq_false_of_not_eq_true single))
          simp [winsEarly, out, all]
      refine iff_of_false (fun idle => active ?_)
        (not_or.mpr ⟨not_not.mpr late, not_sweeps_of_more more⟩)
      exact counting.state_eq.symm.trans idle
  | broadcastWon race inIbd counting more all =>
      have late : winsEarly env proxy (.conn node slot connEvent results) = none := by
        simp [winsEarly, out, all]
      refine iff_of_false (fun idle => active ?_)
        (not_or.mpr ⟨not_not.mpr late, not_sweeps_of_more more⟩)
      exact counting.state_eq.symm.trans idle
  | won race inIbd stuck counting more single first valid =>
      refine iff_of_true rfl (Or.inl ?_)
      simp [winsEarly, out, active, single, more, valid]
  | ended race inIbd counting last => exact iff_of_true rfl (Or.inr (sweeps last))
  | settled race inIbd stuck counting last => exact iff_of_true rfl (Or.inr (sweeps last))

theorem ErrorMove.ends_iff (move : ErrorMove (breakage proxy node slot) node result)
    (out : connOutcome proxy node slot connEvent =
      some (.quiet (proxy.slot node slot).dropFd (some .error)))
    (position : slot = (proxy.pairs node).activeIdx) (active : proxy.race.state ≠ .idle) :
    result.race.state = .idle ↔
      winsEarly env proxy (.conn node slot connEvent results) ≠ none ∨
        Sweeps proxy (.conn node slot connEvent results) := by
  have late : winsEarly env proxy (.conn node slot connEvent results) = none :=
    winsEarly_of_error out
  have sweeps_iff : Sweeps proxy (.conn node slot connEvent results) ↔
      proxy.race.responsesPending ≤ 1 ∧ ¬ Retryable proxy node := by
    constructor
    · rintro ⟨-, last, outcome, completes, response | ⟨-, final⟩⟩
      · rw [out] at completes
        obtain rfl := Option.some.inj completes
        simp [ConnOutcome.quiet] at response
      · exact ⟨last, final⟩
    · rintro ⟨last, final⟩
      exact ⟨active, last, _, out, Or.inr ⟨rfl, final⟩⟩
  rw [or_iff_right (not_not.mpr late), sweeps_iff]
  cases move with
  | retried retryable =>
      exact iff_of_false active fun ends => ends.2 ((retryable_breakage position).mp retryable)
  | twice already result failure =>
      have final : ¬ Retryable proxy node := fun retryable => by
        have first : proxy.race.nodeRetried node = true := already
        rw [retryable.1] at first
        contradiction
      rw [FailureMove.idle_iff failure active]
      exact (and_iff_left final).symm
  | lost first final result failure =>
      rw [FailureMove.idle_iff failure active]
      exact (and_iff_left (mt (retryable_breakage position).mpr final)).symm

end Ends

/-- A race ends with an early win, its last answer, its last failure or its timeout. -/
theorem step_ends_iff (env : Env) (proxy : Proxy n) (event : Event n)
    (wellFormed : WellFormed proxy) (active : proxy.race.state ≠ .idle) :
    (step env proxy event).race.state = .idle ↔
      winsEarly env proxy event ≠ none ∨ Sweeps proxy event := by
  cases event with
  | accept result =>
      refine iff_of_false ?_ (by simp [winsEarly, Sweeps])
      cases result with
      | failed => exact active
      | accepted registered =>
          simp only [step]
          rwa [listenerCb_race]
  | client event =>
      refine iff_of_false ?_ (by simp [winsEarly, Sweeps])
      have move := step_move env proxy (.client event) wellFormed
      generalize step env proxy (.client event) = result at move
      cases move with
      | ignored => exact active
      | hungUp => exact active
      | stored => exact active
      | dropped => exact active
      | request _ chunk method result bytes accepted idle => exact absurd idle active
  | rotation target result =>
      refine iff_of_false ?_ (by simp [winsEarly, Sweeps])
      simp only [step]
      rwa [rotationEvent_race]
  | timeout fd results =>
      have unwon : winsEarly env proxy (.timeout fd results) = none := rfl
      rw [or_iff_right (not_not.mpr unwon)]
      simp only [step]
      split_ifs with registered
      · refine iff_of_true ?_ registered
        have move := rpcTimeoutCb_move proxy fd results wellFormed.racing
        generalize rpcTimeoutCb proxy fd results = result at move
        cases move with
        | drained idle => exact absurd idle active
        | ended => rfl
        | closed => rfl
      · exact iff_of_false active registered
  | blockNotify => exact iff_of_false active (by simp [winsEarly, Sweeps])
  | elapse duration => exact iff_of_false active (by simp [winsEarly, Sweeps])
  | conn node slot connEvent results =>
      have move := step_move env proxy (.conn node slot connEvent results) wellFormed
      generalize step env proxy (.conn node slot connEvent results) = result at move
      cases move with
      | ignored _ noBytes unheard =>
          exact ends_iff_of_kept active (by simp [unheard]) (by simp [unheard])
      | moved _ _ _ _ outcome out silent =>
          exact ends_iff_of_kept active (by simp [upcallOf, out, silent])
            (by simp [upcallOf, out, silent])
      | connected _ _ _ _ outcome out upcall =>
          exact ends_iff_of_kept active (by simp [upcallOf, out, upcall])
            (by simp [upcallOf, out, upcall])
      | lateResponse _ _ _ _ chunk nonempty out receiving complete idle => exact absurd idle active
      | response _ _ _ _ chunk nonempty out receiving complete _ result move =>
          exact ResponseMove.ends_iff move wellFormed out active
      | lateError _ _ _ _ out busy idle => exact absurd idle active
      | error _ _ _ _ out busy _ result move =>
          exact ErrorMove.ends_iff move out (wellFormed.eq_active busy) active

/-! ## Runs -/

/-- While the proxy is idle, a connection without a request in flight is clean. -/
def NoLeftovers (proxy : Proxy n) : Prop :=
  proxy.race.state = .idle → ∀ node slot, (proxy.slot node slot).inFlight = false →
    Clean (proxy.slot node slot)

instance (proxy : Proxy n) : Decidable (NoLeftovers proxy) :=
  inferInstanceAs (Decidable (_ → _))

/--
While something is left, no response wins early, and the last answer, the last
failure or the timeout of a race finds it on an active slot.
-/
def NothingLeft (env : Env) (proxy : Proxy n) (event : Event n) : Prop :=
  ∀ node slot, (proxy.slot node slot).sendBuf = true → (proxy.slot node slot).inFlight = false →
    winsEarly env proxy event = none ∧
      (proxy.race.state ≠ .idle → Sweeps proxy event → slot = (proxy.pairs node).activeIdx)

/-- What holds in every state of a run that leaves nothing behind. -/
structure Tended (proxy : Proxy n) : Prop where
  wellFormed : WellFormed proxy
  tidy : ∀ node, TidyPair (proxy.pairs node)
  retriedOnly : RetriedOnly proxy
  idle : proxy.race.state = .idle → ∀ node slot, ¬ Leftover (proxy.slot node slot)

theorem noLeftovers_iff {proxy : Proxy n} (tidy : ∀ node, TidyPair (proxy.pairs node)) :
    NoLeftovers proxy ↔
      (proxy.race.state = .idle → ∀ node slot, ¬ Leftover (proxy.slot node slot)) := by
  refine forall_congr' fun idle => forall_congr' fun node => forall_congr' fun slot => ?_
  constructor
  · rintro clean ⟨pointer, calm⟩
    rw [(clean calm).1] at pointer
    contradiction
  · intro cleared calm
    apply (tidy node slot).clean
    apply Bool.eq_false_of_not_eq_true
    intro pointer
    exact cleared ⟨pointer, calm⟩

theorem step_tidy (env : Env) (proxy : Proxy n) (event : Event n) (wellFormed : WellFormed proxy)
    (tidy : ∀ node, TidyPair (proxy.pairs node)) (node : Fin n) :
    TidyPair ((step env proxy event).pairs node) :=
  step_connInvariant connInvariant_tidy env proxy event wellFormed tidy node

/-- A step of a tended state leaves nothing behind in an idle proxy exactly if its guard holds. -/
theorem step_idle_iff (env : Env) (proxy : Proxy n) (event : Event n) (tended : Tended proxy) :
    ((step env proxy event).race.state = .idle →
        ∀ node slot, ¬ Leftover ((step env proxy event).slot node slot)) ↔
      NothingLeft env proxy event := by
  have ends := fun active => step_ends_iff env proxy event tended.wellFormed active
  have move := step_leftoverMove env proxy event tended.wellFormed tended.retriedOnly
  generalize step env proxy event = result at move ends
  cases move with
  | spared ongoing retried fewer =>
      refine iff_of_true (fun idle node slot left => ?_) fun node slot pointer calm => ?_
      · have wasIdle : proxy.race.state = .idle := by
          by_contra active
          exact ongoing active idle
        rcases fewer node slot left with before | ⟨active, -⟩
        · exact tended.idle wasIdle node slot before
        · exact active wasIdle
      · have active : proxy.race.state ≠ .idle := fun idle =>
          tended.idle idle node slot ⟨pointer, calm⟩
        rcases not_or.mp (mt (ends active).mpr (ongoing active)) with ⟨late, unswept⟩
        exact ⟨not_not.mp late, fun _ sweeps => absurd sweeps unswept⟩
  | won racing idle early same =>
      constructor
      · intro none node slot pointer calm
        exact absurd ((same node slot).mpr ⟨pointer, calm⟩) (none idle node slot)
      · intro guarded _ node slot left
        have before := (same node slot).mp left
        exact early (guarded node slot before.1 before.2).1
  | completed racing idle late swept =>
      have sweeps : Sweeps proxy event :=
        ((ends racing).mp idle).resolve_left (not_not.mpr late)
      constructor
      · intro none node slot pointer calm
        refine ⟨late, fun _ _ => ?_⟩
        by_contra standby
        exact none idle node slot ((swept node slot).mpr
          ⟨⟨pointer, calm⟩, eq_standby_of_ne_active _ slot standby⟩)
      · intro guarded _ node slot left
        rcases (swept node slot).mp left with ⟨before, standby⟩
        have active := (guarded node slot before.1 before.2).2 racing sweeps
        exact standbyIdx_ne _ (standby.symm.trans active)

theorem step_retriedOnly (env : Env) (proxy : Proxy n) (event : Event n) (tended : Tended proxy) :
    RetriedOnly (step env proxy event) := by
  have move := step_leftoverMove env proxy event tended.wellFormed tended.retriedOnly
  generalize step env proxy event = result at move
  intro active node slot left
  cases move with
  | spared ongoing retried fewer =>
      rcases fewer node slot left with before | ⟨racing, already⟩
      · by_cases racing : proxy.race.state = .idle
        · exact absurd before (tended.idle racing node slot)
        · exact retried racing node (tended.retriedOnly racing node slot before)
      · exact retried racing node already
  | won racing idle => exact absurd idle active
  | completed racing idle => exact absurd idle active

theorem rpcProxyCreate_tended (boot : Boot n) : Tended (rpcProxyCreate boot) := by
  have clean : ∀ node slot, Clean ((rpcProxyCreate boot).slot node slot) := fun node slot =>
    connPairInit_clean (boot.pair node) _ slot
  refine ⟨rpcProxyCreate_wellFormed boot, fun node slot => ?_, fun active => absurd rfl active,
    fun _ node slot => not_leftover_of_sendBuf (clean node slot).1⟩
  exact tidy_of_clean (clean node slot) (rpcProxyCreate_quiet boot node slot)

/--
No slot carries anything over from a race, exactly if no response wins early
while something is left and `race_complete` finds it on active slots alone.
-/
theorem noLeftovers_iff_nothingLeft (env : Env) (boot : Boot n) (events : List (Event n)) :
    Throughout (step env) NoLeftovers (rpcProxyCreate boot) events ↔
      Along (step env) (NothingLeft env) (rpcProxyCreate boot) events := by
  have keep : ∀ (proxy : Proxy n) event, Tended proxy → NothingLeft env proxy event →
      Tended (step env proxy event) := by
    intro proxy event tended guarded
    exact ⟨step_wellFormed env proxy event tended.wellFormed,
      step_tidy env proxy event tended.wellFormed tended.tidy,
      step_retriedOnly env proxy event tended,
      (step_idle_iff env proxy event tended).mpr guarded⟩
  apply throughout_iff_along keep
  · intro proxy tended
    exact (noLeftovers_iff tended.tidy).mpr tended.idle
  · intro proxy event tended after
    have tidy := step_tidy env proxy event tended.wellFormed tended.tidy
    exact (step_idle_iff env proxy event tended).mp ((noLeftovers_iff tidy).mp after)
  · exact rpcProxyCreate_tended boot

/--
Both connections of a node break under one request; the rotation timer gives
it a new one, which takes over, and then the other node answers.
-/
def failedTwice : List (Event 2) :=
  [clientConnects, clientSends addressRequest, slotFails 0 0, slotFails 0 1,
    rotates 0 .immediate, slotWrites 1 0 1000, slotReads 1 0 doneResponse [.accepted 1000]]

/-- The proxy is idle, and a closed standby keeps its pointer into the request. -/
theorem failedTwice_leftover :
    ¬ Throughout (step exampleEnv) NoLeftovers (rpcProxyCreate (exampleBoot 2)) failedTwice := by
  have left : ¬ NoLeftovers (exampleRun 2 failedTwice) := by
    decide +kernel
  intro everywhere
  exact left (throughout_end everywhere)

end RpcRace.Leftovers
