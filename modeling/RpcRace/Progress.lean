import RpcRace.Broadcast
import RpcRace.Registration

/-!
# Races make progress

A race ends when `responses_pending` has come down to zero.  It could hang in
two ways: if the counter waited for more answers than there are connections
left to give one, or if retries went on without end.

Neither happens, in any interleaving.  While a request is raced, at least as
many nodes owe a response as the counter waits for, each on a descriptor that
the event loop watches (`race_awaits_nodes`).  And every response and every
error takes the race nearer to its end, so that `2 n` of them end it whatever
they are (`race_ends_within`).  The timeout is needed only for nodes that
neither answer nor fail.
-/

namespace RpcRace.Progress

open RpcRace.Library.CString
open RpcRace.Library.Run
open RpcRace.RpcConn
open RpcRace.ConnectionPair
open RpcRace.PairMoves
open RpcRace.RpcProxy
open RpcRace.Dispatch
open RpcRace.RaceMoves
open RpcRace.ProxyMoves
open RpcRace.SlotMoves
open RpcRace.Requests
open RpcRace.ClientMoves
open RpcRace.Outcomes
open RpcRace.Broadcast
open RpcRace.Registration (Shaped interestOf run_shaped)

variable {n : Nat}

/-! ## What a race waits for -/

/-- The connection has not sent its whole request, or its response is not complete. -/
def owes (conn : UpstreamConn) : Bool :=
  conn.state = .sending || conn.state = .receiving && !rpcConnResponseComplete conn

/-- One of the node's connections owes a response. -/
def Owes (proxy : Proxy n) (node : Fin n) : Prop :=
  ∃ slot, owes (proxy.slot node slot) = true

instance (proxy : Proxy n) (node : Fin n) : Decidable (Owes proxy node) :=
  inferInstanceAs (Decidable (∃ _, _))

/-- The nodes that owe a response. -/
def owing (proxy : Proxy n) : Finset (Fin n) :=
  Finset.univ.filter (Owes proxy)

/-- The nodes that have not used their retry. -/
def unretried (race : Race n) : Finset (Fin n) :=
  Finset.univ.filter fun node => race.nodeRetried node = false

/-- `on_upstream_response` or `on_upstream_error` was called. -/
def isCallback : Effect n → Bool
  | .delivered _ _ _ => true
  | .failed _ _ => true
  | _ => false

/-- How often these two were called since the latest request was accepted. -/
def callbacks (trace : List (Effect n)) : Nat :=
  (sinceRequest trace).countP isCallback

theorem callbacks_append (added : List (Effect n))
    (silent : ∀ effect ∈ added, isRequest effect = false) (trace : List (Effect n)) :
    callbacks (added ++ trace) = added.countP isCallback + callbacks trace := by
  rw [callbacks, sinceRequest_append silent, List.countP_append, callbacks]

theorem callbacks_aside {added : List (Effect n)}
    (quiet : ∀ effect ∈ added, isAside effect = true) (trace : List (Effect n)) :
    callbacks (added ++ trace) = callbacks trace := by
  have silent : ∀ effect ∈ added, isRequest effect = false ∧ isCallback effect = false := by
    intro effect member
    have aside := quiet effect member
    cases effect with
    | requestAccepted => simp [isAside, isHousekeeping] at aside
    | delivered => simp [isAside, isHousekeeping] at aside
    | failed => simp [isAside, isHousekeeping] at aside
    | _ => exact ⟨rfl, rfl⟩
  have none : added.countP isCallback = 0 := by
    rw [List.countP_eq_zero]
    intro effect member
    simp [(silent effect member).2]
  rw [callbacks_append added fun effect member => (silent effect member).1, none, Nat.zero_add]

/-! ## What one callback does -/

/-- A callback during a race, as seen by the connections the race waits for. -/
inductive Advance (proxy result : Proxy n) : Prop where
  /-- The race is over. -/
  | ended (idle : result.race.state = .idle)
  /-- No response and no error. -/
  | kept (pending_eq : result.race.responsesPending = proxy.race.responsesPending)
      (retried_eq : result.race.nodeRetried = proxy.race.nodeRetried)
      (owed : ∀ node, Owes proxy node → Owes result node)
      (called : callbacks result.trace = callbacks proxy.trace)
  /-- An error that is answered by the one retry of the node. -/
  | retried (node : Fin n)
      (pending_eq : result.race.responsesPending = proxy.race.responsesPending)
      (first : proxy.race.nodeRetried node = false)
      (retried_eq : result.race.nodeRetried = Function.update proxy.race.nodeRetried node true)
      (owed : ∀ other, Owes proxy other → Owes result other)
      (called : callbacks result.trace = callbacks proxy.trace + 1)
  /-- A response, or an error that counts. -/
  | counted (node : Fin n)
      (pending_eq : result.race.responsesPending = proxy.race.responsesPending - 1)
      (retried : ∀ other, proxy.race.nodeRetried other = true →
        result.race.nodeRetried other = true)
      (owed : ∀ other, other ≠ node → Owes proxy other → Owes result other)
      (called : callbacks result.trace = callbacks proxy.trace + 1)

theorem Owes.of_slots {proxy result : Proxy n} {node : Fin n} (owed : Owes proxy node)
    (kept : ∀ slot, owes (proxy.slot node slot) = true → owes (result.slot node slot) = true) :
    Owes result node := by
  rcases owed with ⟨slot, slot_owes⟩
  exact ⟨slot, kept slot slot_owes⟩

/-- An event that is neither a response nor an error leaves a debt as it is. -/
theorem ConnMove.owes {shared : Memory} {conn : UpstreamConn} {outcome : ConnOutcome}
    (move : ConnMove shared conn outcome) (noResponse : outcome.upcall ≠ some .response)
    (noError : outcome.upcall ≠ some .error) (owed : owes conn = true) :
    Progress.owes outcome.conn = true := by
  cases move with
  | still => exact owed
  | closed quiet =>
      exfalso
      cases state : conn.state <;> simp_all [Progress.owes, UpstreamConn.inFlight]
  | connected connecting => simp [Progress.owes, connecting] at owed
  | broken busy => exact absurd rfl noError
  | wrote sending taken more => simp [Progress.owes, sending]
  | wroteAll sending taken bounded finished =>
      simp [Progress.owes, UpstreamConn.beginReceive, rpcConnResponseComplete]
  | read receiving chunk nonempty fits incomplete =>
      simp [Progress.owes, receiving, incomplete]
  | readAll receiving chunk nonempty fits complete => exact absurd rfl noResponse

/-- A connection that owes a response has a request in flight. -/
theorem inFlight_of_owes {conn : UpstreamConn} (owed : owes conn = true) :
    conn.inFlight = true := by
  simp only [owes, Bool.or_eq_true, Bool.and_eq_true, decide_eq_true_eq] at owed
  rcases owed with sending | ⟨receiving, -⟩
  · simp [UpstreamConn.inFlight, sending]
  · simp [UpstreamConn.inFlight, receiving]

/-- A response that does not end the race is counted. -/
theorem ResponseMove.advance {env : Env} {proxy : Proxy n} {node : Fin n} {slot : Fin 2}
    {chunk : Memory} {results : List SendResult} {result : Proxy n}
    (move : ResponseMove env proxy node slot chunk results result) :
    Advance proxy result := by
  have elsewhere : ∀ race inIbd other, other ≠ node → Owes proxy other →
      Owes (answered proxy node slot chunk race inIbd) other := by
    intro race inIbd other different owed
    refine owed.of_slots fun index slot_owes => ?_
    rwa [answered_slot_of_ne node other slot index chunk race inIbd fun same =>
      different same.1]
  have kept : ∀ {stuck race},
      Counted env proxy.race ((proxy.slot node slot).absorb chunk) node stuck race →
      ∀ other, proxy.race.nodeRetried other = true → race.nodeRetried other = true := by
    intro stuck race counting other retried
    rw [counting.retried_eq]
    exact retried
  cases move with
  | counted race inIbd counting =>
      refine .counted node counting.pending_eq (kept counting) (elsewhere race inIbd) ?_
      exact (callbacks_append [_, _] (by simp [isRequest]) _).trans
        (Nat.add_comm _ _)
  | broadcastWon race inIbd counting =>
      refine .counted node counting.pending_eq (kept counting) (elsewhere race inIbd) ?_
      exact (callbacks_append [_, _, _] (by simp [isRequest]) _).trans
        (Nat.add_comm _ _)
  | won => exact .ended rfl
  | ended => exact .ended (raceComplete_state _)
  | settled => exact .ended (raceComplete_state _)

/-- A failure that does not end the race is counted. -/
theorem FailureMove.advance {proxy base result : Proxy n} {node : Fin n} {slot : Fin 2}
    (move : FailureMove base node result) (broken : Broken proxy base node slot)
    (retried : ∀ other, proxy.race.nodeRetried other = true →
      base.race.nodeRetried other = true) :
    Advance proxy result := by
  cases move with
  | counted more =>
      refine .counted node ?_ retried ?_ ?_
      · change base.race.responsesPending - 1 = _
        rw [broken.pending_eq]
      · intro other different owed
        refine owed.of_slots fun index slot_owes => ?_
        change owes (base.slot other index) = true
        rwa [broken.kept other index fun same => different same.1]
      · change callbacks (.gaveUp node :: base.trace) = _
        rw [broken.trace_eq]
        exact (callbacks_append [_, _, _] (by simp [isRequest]) _).trans (Nat.add_comm _ _)
  | ended => exact .ended (raceComplete_state _)
  | closed => exact .ended (raceComplete_state _)

/-- An error is retried, or it is counted, or it ends the race. -/
theorem ErrorMove.advance {proxy result : Proxy n} {node : Fin n} {slot : Fin 2}
    (move : ErrorMove (breakage proxy node slot) node result)
    (active : slot = (proxy.pairs node).activeIdx) :
    Advance proxy result := by
  have broken := breakage_broken proxy node slot
  have sameActive : ((breakage proxy node slot).pairs node).activeIdx =
      (proxy.pairs node).activeIdx := by
    simp [breakage, Proxy.setSlot]
  have swapped := swapOnError_broken broken (active.trans sameActive.symm)
  cases move with
  | retried retryable =>
      refine .retried node rfl retryable.1 rfl ?_ ?_
      · intro other owed
        by_cases same : other = node
        · subst same
          refine ⟨((swapOnError (breakage proxy other slot) other).pairs other).activeIdx, ?_⟩
          simp [retrial, setPair_slot, sendActive, owes, UpstreamConn.beginSend]
        · refine owed.of_slots fun index slot_owes => ?_
          rw [retrial, emit_slot, setPair_slot, if_neg same]
          rwa [swapped.kept other index fun equal => same equal.1]
      · exact (callbacks_append [_, _, _] (by simp [isRequest]) _).trans (Nat.add_comm _ _)
  | twice already result failure =>
      exact FailureMove.advance failure broken fun _ => id
  | lost first final result failure =>
      refine FailureMove.advance failure swapped fun other retried => ?_
      change Function.update proxy.race.nodeRetried node true other = true
      rw [Function.update_apply, retried, ite_self]

/-- Every callback during a race is one of these. -/
theorem step_advance (env : Env) (proxy : Proxy n) (event : Event n)
    (wellFormed : WellFormed proxy) (active : proxy.race.state ≠ .idle) :
    Advance proxy (step env proxy event) := by
  have unmoved : ∀ {result : Proxy n}, result.pairs = proxy.pairs →
      ∀ node, Owes proxy node → Owes result node := by
    intro result pairs_eq node owed
    refine owed.of_slots fun index slot_owes => ?_
    rwa [Proxy.slot, pairs_eq]
  have move := step_move env proxy event wellFormed
  generalize step env proxy event = result at move
  cases move with
  | ignored event noBytes unheard => exact .kept rfl rfl (fun _ => id) rfl
  | elapsed duration => exact .kept rfl rfl (unmoved rfl) rfl
  | notified =>
      exact .kept rfl rfl (unmoved rfl)
        ((callbacks_append [_] (by simp [isRequest]) _).trans (Nat.zero_add _))
  | replaced registered =>
      rcases listenerCb_trace proxy registered with ⟨added, trace, quiet⟩
      refine .kept ?_ ?_ (unmoved (listenerCb_pairs proxy registered)) ?_
      · rw [listenerCb_race]
      · rw [listenerCb_race]
      · rw [trace]
        exact callbacks_aside
          (fun effect member => isAside_of_isHousekeeping (quiet effect member)) _
  | hungUp event connected noBytes =>
      exact .kept rfl rfl (unmoved rfl)
        ((callbacks_append [_] (by simp [isRequest]) _).trans (Nat.zero_add _))
  | stored event chunk bytes waiting => exact .kept rfl rfl (unmoved rfl) rfl
  | dropped event chunk bytes waiting => exact .kept rfl rfl (unmoved rfl) rfl
  | request event chunk method result bytes accepted idle nonempty acceptance =>
      exact absurd idle active
  | moved node slot event results outcome out silent =>
      refine .kept rfl rfl (fun other owed => owed.of_slots fun index slot_owes => ?_)
        ((callbacks_append [_] (by simp [isRequest]) _).trans (Nat.zero_add _))
      rw [Proxy.transfer, emit_slot, setSlot_slot]
      split_ifs with same
      · obtain ⟨rfl, rfl⟩ := same
        exact ConnMove.owes (connOutcome_move out) (by simp [silent]) (by simp [silent]) slot_owes
      · exact slot_owes
  | connected node slot event results outcome out upcall =>
      refine .kept rfl rfl (fun other owed => owed.of_slots fun index slot_owes => ?_)
        ((callbacks_append [_, _] (by simp [isRequest]) _).trans (Nat.zero_add _))
      rw [established_slot]
      split_ifs with same
      · obtain ⟨rfl, rfl⟩ := same
        exact ConnMove.owes (connOutcome_move out) (by simp [upcall]) (by simp [upcall]) slot_owes
      · exact slot_owes
  | lateResponse node slot event results chunk nonempty out receiving complete idle =>
      exact absurd idle active
  | response node slot event results chunk nonempty out receiving complete active result move =>
      exact ResponseMove.advance move
  | lateError node slot event results out busy idle => exact absurd idle active
  | error node slot event results out busy active result move =>
      exact ErrorMove.advance move (wellFormed.eq_active busy)
  | rotated node result =>
      rcases rotationEvent_trace proxy node result with ⟨added, trace, quiet⟩
      refine .kept ?_ ?_ (fun other owed => owed.of_slots fun index slot_owes => ?_) ?_
      · rw [rotationEvent_race]
      · rw [rotationEvent_race]
      · rw [rotationEvent_slot, if_neg]
        · exact slot_owes
        · -- a standby has nothing in flight
          rintro ⟨rfl, -, standby⟩
          have busy := wellFormed.eq_active (inFlight_of_owes slot_owes)
          exact standbyIdx_ne (proxy.pairs other) (standby.symm.trans busy)
      · rw [trace]
        exact callbacks_aside
          (fun effect member => isAside_of_isHousekeeping (quiet effect member)) _
  | expired fd results registered result move =>
      cases move with
      | drained idle => exact absurd idle active
      | ended => exact .ended (raceComplete_state _)
      | closed => exact .ended (raceComplete_state _)

/-! ## A new race -/

theorem callbacks_request (proxy : Proxy n) (method : Memory) {added : List (Effect n)}
    (silent : ∀ effect ∈ added, isRequest effect = false ∧ isCallback effect = false)
    (trace : List (Effect n)) :
    callbacks (added ++ requestEffect proxy method :: trace) = 0 := by
  rw [callbacks_append added fun effect member => (silent effect member).1]
  have none : added.countP isCallback = 0 := by
    rw [List.countP_eq_zero]
    intro effect member
    simp [(silent effect member).2]
  rw [none]
  rfl

theorem silent_startEffects (proxy : Proxy n) (nodes : List (Fin n)) (len : Nat) :
    ∀ effect ∈ startEffects proxy nodes len,
      isRequest effect = false ∧ isCallback effect = false := by
  intro effect member
  simp only [startEffects, List.mem_reverse, List.mem_map] at member
  rcases member with ⟨node, -, rfl⟩
  exact ⟨rfl, rfl⟩

/-- The state of a race that has just begun. -/
structure Opened (result : Proxy n) : Prop where
  owed : result.race.responsesPending ≤ (owing result).card
  called : callbacks result.trace = 0

/-- The send leaves a debt. -/
theorem owes_sendActive (pair : ConnPair) (len : Nat) :
    owes ((sendActive pair len).slots pair.activeIdx) = true := by
  simp [sendActive, owes, UpstreamConn.beginSend]

theorem Acceptance.opened {env : Env} {proxy result : Proxy n} {method : Memory} {created : Bool}
    (acceptance : Acceptance env proxy method created result)
    (active : result.race.state ≠ .idle) :
    Opened result := by
  cases acceptance with
  | fanout race begun state pending reachable =>
      constructor
      · have distinct : (fanoutTargets proxy).Nodup := (List.nodup_finRange n).filter _
        rw [startRpcTimeout_race, pending, Nat.cast_le,
          ← List.toFinset_card_of_nodup distinct]
        apply Finset.card_le_card
        intro node member
        have available := (List.mem_filter.mp (List.mem_toFinset.mp member)).2
        simp only [owing, Finset.mem_filter, Finset.mem_univ, true_and]
        refine ⟨(proxy.pairs node).activeIdx, ?_⟩
        rw [Proxy.slot, startRpcTimeout_pairs]
        dsimp only [fanoutPairs]
        rw [if_pos available]
        exact owes_sendActive _ _
      · rw [startRpcTimeout_trace, ← List.append_assoc]
        refine callbacks_request proxy method (List.forall_mem_append.mpr ⟨?_, ?_⟩) _
        · exact forall_timerEffects _ env created fun _ => ⟨rfl, rfl⟩
        · exact silent_startEffects proxy _ _
  | sticky race begun state pending single node stuck available =>
      constructor
      · rw [startRpcTimeout_race, pending, Nat.one_le_cast, Nat.one_le_iff_ne_zero,
          ← Nat.pos_iff_ne_zero, Finset.card_pos]
        refine ⟨node, ?_⟩
        simp only [owing, Finset.mem_filter, Finset.mem_univ, true_and]
        refine ⟨(proxy.pairs node).activeIdx, ?_⟩
        rw [Proxy.slot, startRpcTimeout_pairs]
        dsimp only
        rw [Function.update_self]
        exact owes_sendActive _ _
      · rw [startRpcTimeout_trace]
        change callbacks (timerEffects _ env created ++ ([_, _] ++
          requestEffect proxy method :: proxy.trace)) = 0
        rw [← List.append_assoc]
        refine callbacks_request proxy method (List.forall_mem_append.mpr ⟨?_, ?_⟩) _
        · exact forall_timerEffects _ env created fun _ => ⟨rfl, rfl⟩
        · simp [isRequest, isCallback]
  | refused race begun state unreachable => exact absurd state active

/-! ## Runs -/

theorem card_unretried_le (race : Race n) : (unretried race).card ≤ n :=
  (Finset.card_le_univ _).trans (Fintype.card_fin n).le

theorem card_owing_le (proxy : Proxy n) : (owing proxy).card ≤ n :=
  (Finset.card_le_univ _).trans (Fintype.card_fin n).le

/--
While a request is raced, there are debts enough for the counter, and each
callback so far has used up an answer or a retry.
-/
structure Progressing (proxy : Proxy n) : Prop extends WellFormed proxy where
  owed : proxy.race.state ≠ .idle → proxy.race.responsesPending ≤ (owing proxy).card
  bounded : proxy.race.state ≠ .idle →
    callbacks proxy.trace + proxy.race.responsesPending + (unretried proxy.race).card ≤ 2 * n

theorem Advance.owed {proxy result : Proxy n} (advance : Advance proxy result)
    (active : result.race.state ≠ .idle)
    (owed : proxy.race.responsesPending ≤ (owing proxy).card) :
    result.race.responsesPending ≤ (owing result).card := by
  cases advance with
  | ended idle => exact absurd idle active
  | kept pending_eq retried_eq kept called =>
      have fewer : (owing proxy).card ≤ (owing result).card :=
        Finset.card_le_card (Finset.monotone_filter_right _ fun node _ => kept node)
      omega
  | retried node pending_eq first retried_eq kept called =>
      have fewer : (owing proxy).card ≤ (owing result).card :=
        Finset.card_le_card (Finset.monotone_filter_right _ fun node _ => kept node)
      omega
  | counted node pending_eq retried kept called =>
      have fewer : (owing proxy).card ≤ (owing result).card + 1 := by
        refine (Finset.card_le_card ?_).trans (Finset.card_insert_le node (owing result))
        intro other member
        rw [Finset.mem_insert]
        by_cases same : other = node
        · exact Or.inl same
        · right
          simp only [owing, Finset.mem_filter, Finset.mem_univ, true_and] at member ⊢
          exact kept other same member
      omega

theorem Advance.bounded {proxy result : Proxy n} (advance : Advance proxy result)
    (active : result.race.state ≠ .idle)
    (bounded :
      callbacks proxy.trace + proxy.race.responsesPending + (unretried proxy.race).card ≤ 2 * n) :
    callbacks result.trace + result.race.responsesPending + (unretried result.race).card ≤
      2 * n := by
  cases advance with
  | ended idle => exact absurd idle active
  | kept pending_eq retried_eq kept called =>
      rw [called, pending_eq, unretried, retried_eq]
      exact bounded
  | retried node pending_eq first retried_eq kept called =>
      have fewer : (unretried result.race).card < (unretried proxy.race).card := by
        refine Finset.card_lt_card (Finset.ssubset_iff_of_subset ?_ |>.mpr ⟨node, ?_, ?_⟩)
        · intro other member
          simp only [unretried, Finset.mem_filter, Finset.mem_univ, true_and] at member ⊢
          rw [retried_eq, Function.update_apply] at member
          split_ifs at member
          exact member
        · simp [unretried, first]
        · simp [unretried, retried_eq]
      omega
  | counted node pending_eq retried kept called =>
      have fewer : (unretried result.race).card ≤ (unretried proxy.race).card := by
        refine Finset.card_le_card (Finset.monotone_filter_right _ fun other _ fresh => ?_)
        by_contra used
        have noted := retried other (by simpa using used)
        simp [noted] at fresh
      omega

/-- A race that was not there before the callback has just begun. -/
theorem opened_of_idle (env : Env) (proxy : Proxy n) (event : Event n)
    (wellFormed : WellFormed proxy) (idle : proxy.race.state = .idle)
    (active : (step env proxy event).race.state ≠ .idle) :
    Opened (step env proxy event) := by
  have move := step_raceStep env proxy event wellFormed
  generalize step env proxy event = result at move active
  cases move with
  | aside event result added trace quiet race_eq waiting =>
      rw [race_eq] at active
      exact absurd idle active
  | notified => exact absurd idle active
  | request event chunk method result bytes accepted idle acceptance =>
      have opened := Acceptance.opened acceptance active
      exact ⟨opened.owed, opened.called⟩
  | lateResponse node slot event results chunk result added out idle trace quiet race_eq =>
      rw [race_eq] at active
      exact absurd idle active
  | response node slot event results chunk result out complete racing move =>
      exact absurd idle racing
  | lateError node slot event results result added idle trace quiet race_eq =>
      rw [race_eq] at active
      exact absurd idle active
  | error node slot event results result out racing move => exact absurd idle racing
  | expired fd results result registered move =>
      cases move with
      | drained idle =>
          rw [cancelRpcTimeout_race] at active
          exact absurd idle active
      | ended racing => exact absurd idle racing
      | closed racing => exact absurd idle racing

theorem step_progressing (env : Env) (proxy : Proxy n) (event : Event n)
    (progressing : Progressing proxy) :
    Progressing (step env proxy event) := by
  have wellFormed := progressing.toWellFormed
  by_cases idle : proxy.race.state = .idle
  · refine ⟨step_wellFormed env proxy event wellFormed, fun active => ?_, fun active => ?_⟩
    · exact (opened_of_idle env proxy event wellFormed idle active).owed
    · have opened := opened_of_idle env proxy event wellFormed idle active
      have few := card_owing_le (step env proxy event)
      have fresh := card_unretried_le (step env proxy event).race
      have owed := opened.owed
      rw [opened.called]
      omega
  · have advance := step_advance env proxy event wellFormed idle
    exact ⟨step_wellFormed env proxy event wellFormed,
      fun active => advance.owed active (progressing.owed idle),
      fun active => advance.bounded active (progressing.bounded idle)⟩

theorem run_progressing (env : Env) (boot : Boot n) (events : List (Event n)) :
    Progressing (run (step env) (rpcProxyCreate boot) events) := by
  apply run_invariant (step_progressing env)
  exact ⟨rpcProxyCreate_wellFormed boot, fun active => absurd rfl active,
    fun active => absurd rfl active⟩

/-- The race has somebody to wait for. -/
structure Awaits (proxy : Proxy n) : Prop where
  /-- There is a debt for every response that is still counted on. -/
  pending : proxy.race.state ≠ .idle →
    1 ≤ proxy.race.responsesPending ∧ proxy.race.responsesPending ≤ (owing proxy).card
  /-- The event loop watches a connection that owes a response. -/
  watched : ∀ node slot, owes (proxy.slot node slot) = true →
    (proxy.slot node slot).fd ≠ none ∧
      ∃ interest, (proxy.slot node slot).interest = some interest ∧ interest.epollIn = true ∧
        ((proxy.slot node slot).state = .sending → interest.epollOut = true)

/--
However client requests, responses, errors, rotations, notifies and timeouts
are ordered, a race never waits for a response that no connection can bring.
-/
theorem race_awaits_nodes (env : Env) (boot : Boot n) (events : List (Event n)) :
    Awaits (run (step env) (rpcProxyCreate boot) events) := by
  have progressing := run_progressing env boot events
  refine ⟨fun active => ⟨(progressing.racing active).pending, progressing.owed active⟩, ?_⟩
  intro node slot owed
  have shaped := run_shaped env boot events node slot
  generalize (run (step env) (rpcProxyCreate boot) events).slot node slot = conn at owed shaped
  simp only [owes, Bool.or_eq_true, Bool.and_eq_true, decide_eq_true_eq] at owed
  have up : conn.state ≠ .disconnected := by
    rcases owed with sending | ⟨receiving, -⟩
    · simp [sending]
    · simp [receiving]
  refine ⟨fun closed => up (shaped.disconnected_iff.mpr closed), ?_⟩
  rw [shaped.interest_eq]
  rcases owed with sending | ⟨receiving, -⟩
  · exact ⟨⟨true, true⟩, by rw [sending]; rfl, rfl, fun _ => rfl⟩
  · exact ⟨⟨true, false⟩, by rw [receiving]; rfl, rfl, by simp [receiving]⟩

/--
A race that is still on has seen fewer than `2 n` responses and errors, so
that many of them end it, in whatever order they come and from whatever
request they date.
-/
theorem race_ends_within (env : Env) (boot : Boot n) (events : List (Event n))
    (active : (run (step env) (rpcProxyCreate boot) events).race.state ≠ .idle) :
    callbacks (run (step env) (rpcProxyCreate boot) events).trace < 2 * n := by
  have progressing := run_progressing env boot events
  have bounded := progressing.bounded active
  have pending := (progressing.racing active).pending
  omega

/-- A node fails, and the retry on its standby fails, while the other one still owes. -/
def halfFailed : List (Event 2) :=
  [clientConnects, clientSends blockRequest, slotFails 0 0, slotFails 0 1, slotFails 1 0]

theorem race_ends_within_halfFailed :
    (exampleRun 2 halfFailed).race.state ≠ .idle ∧
      callbacks (exampleRun 2 halfFailed).trace = 3 ∧
      callbacks (exampleRun 2 halfFailed).trace < 2 * 2 := by
  have facts : (exampleRun 2 halfFailed).race.state ≠ .idle ∧
      callbacks (exampleRun 2 halfFailed).trace = 3 := by
    decide +kernel
  exact ⟨facts.1, facts.2,
    race_ends_within exampleEnv (exampleBoot 2) halfFailed facts.1⟩

end RpcRace.Progress
