import RpcRace.ProxyMoves

/-!
# What one callback does to one connection

The trace of the whole proxy is projected to the effects on one slot.
`SlotMove` lists what a callback can do to a slot together with the effects
it records for it, and `step_explained` says that every callback acts on all
slots that way.  A request is recorded before the sends it causes, so each
send is made for the request that is the latest when the callback returns.
-/

namespace RpcRace.SlotMoves

open RpcRace.Library.CString
open RpcRace.RpcConn
open RpcRace.ConnectionPair
open RpcRace.PairMoves
open RpcRace.RpcProxy
open RpcRace.Dispatch
open RpcRace.RaceMoves
open RpcRace.ProxyMoves

variable {n : Nat}

/-! ## Projection -/

/-- An effect on one connection. -/
inductive SlotEffect where
  | started (len : Nat)
  | transferred (written received : Memory)
  | refreshed (result : ConnectResult)
  | delivered (conn : UpstreamConn)
  | failed

/-- The part of an effect that concerns one slot. -/
def slotEffect (node : Fin n) (slot : Fin 2) (effect : Effect n) : Option SlotEffect :=
  match effect with
  | .started other index len => if other = node ∧ index = slot then some (.started len) else none
  | .transferred other index written received =>
      if other = node ∧ index = slot then some (.transferred written received) else none
  | .refreshed other index result =>
      if other = node ∧ index = slot then some (.refreshed result) else none
  | .delivered other index conn =>
      if other = node ∧ index = slot then some (.delivered conn) else none
  | .failed other index => if other = node ∧ index = slot then some .failed else none
  | _ => none

/-- The history of one slot, newest first. -/
def slotTrace (node : Fin n) (slot : Fin 2) (trace : List (Effect n)) : List SlotEffect :=
  trace.filterMap (slotEffect node slot)

/-- The record of a request that is passed to dispatch. -/
def isRequest : Effect n → Bool
  | .requestAccepted _ _ _ _ => true
  | _ => false

section Projection

variable (node : Fin n) (slot : Fin 2)

@[simp]
theorem slotTrace_nil : slotTrace node slot [] = [] :=
  rfl

theorem slotTrace_append (first second : List (Effect n)) :
    slotTrace node slot (first ++ second) =
      slotTrace node slot first ++ slotTrace node slot second :=
  List.filterMap_append

@[simp]
theorem slotTrace_timerEffects (env : Env) (proxy : Proxy n) (created : Bool) :
    slotTrace node slot (timerEffects proxy env created) = [] := by
  unfold timerEffects
  split_ifs <;> rfl

@[simp]
theorem slotTrace_acceptedRequest (env : Env) (proxy : Proxy n) (event : Event n) :
    slotTrace node slot (acceptedRequest env proxy event).toList = [] := by
  simp only [acceptedRequest]
  cases storedChunk proxy event with
  | none => rfl
  | some chunk => cases acceptedMethod env proxy event <;> rfl

/-- A fan-out sends at most once on a slot: on the active one of an available node. -/
theorem slotTrace_startEffects (proxy : Proxy n) (nodes : List (Fin n)) (distinct : nodes.Nodup)
    (len : Nat) :
    slotTrace node slot (startEffects proxy nodes len) =
      if node ∈ nodes ∧ slot = (proxy.pairs node).activeIdx then [.started len] else [] := by
  induction nodes with
  | nil => simp [startEffects]
  | cons head rest induction =>
      obtain ⟨fresh, distinctRest⟩ := List.nodup_cons.mp distinct
      have split : startEffects proxy (head :: rest) len =
          startEffects proxy rest len ++
            [.started head (proxy.pairs head).activeIdx len] := by
        simp [startEffects]
      rw [split, slotTrace_append, induction distinctRest]
      by_cases same : head = node
      · subst same
        by_cases active : slot = (proxy.pairs head).activeIdx
        · simp [fresh, slotTrace, slotEffect, active]
        · simp [fresh, slotTrace, slotEffect, active, Ne.symm active]
      · simp [slotTrace, slotEffect, same, Ne.symm same]

end Projection

/-! ## Moves of one slot -/

/-- The callback ends a race or runs the drain safety net, which resets connections. -/
def Sweeps (proxy : Proxy n) (event : Event n) : Prop :=
  match event with
  | .timeout fd _ => timerRegistered proxy fd = true
  | .conn node slot event _ =>
      proxy.race.state ≠ .idle ∧ proxy.race.responsesPending ≤ 1 ∧
        ∃ outcome, connOutcome proxy node slot event = some outcome ∧
          (outcome.upcall = some .response ∨
            outcome.upcall = some .error ∧ ¬ Retryable proxy node)
  | _ => False

theorem not_delivers_of_ne {proxy : Proxy n} {node other : Fin n} {slot index : Fin 2}
    {connEvent : ConnEvent} {results : List SendResult}
    (different : ¬ (other = node ∧ index = slot)) :
    ¬ Delivers proxy (.conn node slot connEvent results) other index := by
  rintro ⟨⟨_, _, equal⟩, -⟩
  cases equal
  exact different ⟨rfl, rfl⟩

theorem not_delivers_timeout {proxy : Proxy n} {node : Fin n} {slot : Fin 2} (fd : Nat)
    (results : List SendResult) :
    ¬ Delivers proxy (.timeout fd results) node slot := by
  rintro ⟨⟨_, _, equal⟩, -⟩
  cases equal

/-- Why a request is sent to a node: it was just accepted, or it is retried after an error. -/
def StartCause (env : Env) (proxy : Proxy n) (event : Event n) (node : Fin n) (len : Nat) :
    Prop :=
  (∃ chunk, storedChunk proxy event = some chunk ∧ acceptedMethod env proxy event ≠ none ∧
    len = (withChunk proxy chunk).client.recvLen) ∨
  (∃ slot, Delivers proxy event node slot ∧ upcallOf proxy event = some .error) ∧
    proxy.race.state ≠ .idle ∧ Retryable proxy node ∧ len = proxy.race.requestLen

/-- What a callback does to one slot, with the effects it records for it. -/
inductive SlotMove (env : Env) (proxy : Proxy n) (event : Event n) (node : Fin n) (slot : Fin 2) :
    List SlotEffect → UpstreamConn → Prop where
  | kept :
      SlotMove env proxy event node slot [] (proxy.slot node slot)
  | io (outcome : ConnOutcome)
      (move : ConnMove proxy.client.recvBuf (proxy.slot node slot) outcome)
      (noResponse : outcome.upcall ≠ some .response)
      (noError : outcome.upcall ≠ some .error) :
      SlotMove env proxy event node slot [.transferred outcome.written outcome.received]
        outcome.conn
  | answered (chunk : Memory) (inIbd : Bool)
      (receiving : (proxy.slot node slot).state = .receiving) (nonempty : chunk ≠ [])
      (complete : rpcConnResponseComplete ((proxy.slot node slot).absorb chunk) = true)
      (active : proxy.race.state ≠ .idle) :
      SlotMove env proxy event node slot
        [.delivered ((proxy.slot node slot).absorb chunk), .transferred [] chunk]
        { (proxy.slot node slot).absorb chunk with inIbd := inIbd }
  | answeredReset (chunk : Memory) (inIbd : Bool)
      (receiving : (proxy.slot node slot).state = .receiving) (nonempty : chunk ≠ [])
      (complete : rpcConnResponseComplete ((proxy.slot node slot).absorb chunk) = true) :
      SlotMove env proxy event node slot
        [.delivered ((proxy.slot node slot).absorb chunk), .transferred [] chunk]
        (rpcConnReset { (proxy.slot node slot).absorb chunk with inIbd := inIbd })
  | broken (after : UpstreamConn) (busy : (proxy.slot node slot).inFlight = true)
      (down : after.state = .disconnected) :
      SlotMove env proxy event node slot [.failed, .transferred [] []] after
  | started (len : Nat) (nonempty : len ≠ 0)
      (connected : (proxy.slot node slot).state = .connected)
      (cause : StartCause env proxy event node len) :
      SlotMove env proxy event node slot [.started len] ((proxy.slot node slot).beginSend len)
  | swept (sweeps : Sweeps proxy event) (unheard : ¬ Delivers proxy event node slot) :
      SlotMove env proxy event node slot [] (rpcConnReset (proxy.slot node slot))
  | refreshed (result : ConnectResult) (fd : Nat)
      (standby : slot = (proxy.pairs node).standbyIdx)
      (refreshable : (proxy.pairs node).standbyRefreshable = true) :
      SlotMove env proxy event node slot [.refreshed result]
        (rpcConnConnect (proxy.pairs node).closedStandby result fd).1

/--
A callback that acts on every slot by one of the moves.  A request it accepts
is the first thing it writes to the trace, and `added` is all the rest.
-/
def Explained (env : Env) (proxy : Proxy n) (event : Event n) (result : Proxy n) : Prop :=
  ∃ added, result.trace = added ++ ((acceptedRequest env proxy event).toList ++ proxy.trace) ∧
    (∀ effect ∈ added, isRequest effect = false) ∧
      ∀ node slot,
        SlotMove env proxy event node slot (slotTrace node slot added) (result.slot node slot)

/-! ## Slots under the handlers' last steps -/

/-- A reset of the active slot, as seen by each slot. -/
theorem resetActive_slots (pair : ConnPair) (slot : Fin 2) :
    (pair.setSlot pair.activeIdx (rpcConnReset (connPairGetActive pair))).slots slot =
        pair.slots slot ∨
      (pair.setSlot pair.activeIdx (rpcConnReset (connPairGetActive pair))).slots slot =
        rpcConnReset (pair.slots slot) := by
  rw [setSlot_slots]
  split_ifs with active
  · rw [active]
    exact Or.inr rfl
  · exact Or.inl rfl

/-- `race_complete` leaves a connection alone or resets it. -/
theorem raceComplete_slot (proxy : Proxy n) (node : Fin n) (slot : Fin 2) :
    (raceComplete proxy).slot node slot = proxy.slot node slot ∨
      (raceComplete proxy).slot node slot = rpcConnReset (proxy.slot node slot) := by
  unfold Proxy.slot
  rw [raceComplete_pairs, connPairTick_slots]
  unfold resetParticipant
  dsimp only
  split_ifs
  · exact resetActive_slots (proxy.pairs node) slot
  · exact Or.inl rfl

/-- After `race_complete` nothing is in flight. -/
theorem raceComplete_quiet {proxy : Proxy n} (standby : ∀ node, StandbyQuiet (proxy.pairs node))
    (node : Fin n) (slot : Fin 2) :
    ((raceComplete proxy).slot node slot).inFlight = false := by
  unfold Proxy.slot
  rw [raceComplete_pairs, connPairTick_slots]
  by_cases active : slot = (proxy.pairs node).activeIdx
  · subst active
    unfold resetParticipant
    dsimp only
    split_ifs with participates
    · rw [setSlot_slots, if_pos rfl]
      exact rpcConnReset_inFlight _
    · exact Bool.eq_false_of_not_eq_true fun busy => participates (Or.inr busy)
  · have calm : ((proxy.pairs node).slots slot).inFlight = false := by
      rw [eq_standby_of_ne_active _ slot active]
      exact standby node
    unfold resetParticipant
    dsimp only
    split_ifs
    · rw [setSlot_slots, if_neg active]
      exact calm
    · exact calm

/-- The drain safety net leaves a connection alone or resets it. -/
theorem unstuck_slot (proxy : Proxy n) (node : Fin n) (slot : Fin 2) :
    (unstuck proxy).slot node slot = proxy.slot node slot ∨
      (unstuck proxy).slot node slot = rpcConnReset (proxy.slot node slot) := by
  change (resetStuck (proxy.pairs node)).slots slot = _ ∨
    (resetStuck (proxy.pairs node)).slots slot = _
  unfold resetStuck
  split_ifs
  · exact resetActive_slots (proxy.pairs node) slot
  · exact Or.inl rfl

/-- A completed connect changes its own slot only, whatever callback it runs. -/
theorem established_slot (proxy : Proxy n) (node : Fin n) (slot : Fin 2) (outcome : ConnOutcome)
    (other : Fin n) (index : Fin 2) :
    (((proxy.transfer node slot outcome).setPair node
      (runOnConnected ((proxy.transfer node slot outcome).pairs node) slot)).emit
        (.established node slot)).slot other index =
      if other = node ∧ index = slot then outcome.conn else proxy.slot other index := by
  rw [emit_slot, setPair_slot, runOnConnected_slots, ← setSlot_slot]
  split_ifs with same
  · rw [same]
    rfl
  · rfl

/-- The rotation timer opens a new connection in the standby slot. -/
theorem rotationEvent_slot (proxy : Proxy n) (node other : Fin n) (result : ConnectResult)
    (index : Fin 2) :
    (rotationEvent proxy node result).slot other index =
      if other = node ∧ (proxy.pairs node).standbyRefreshable = true ∧
          index = (proxy.pairs node).standbyIdx then
        (rpcConnConnect (proxy.pairs node).closedStandby result proxy.nextFd).1
      else proxy.slot other index := by
  rw [Proxy.slot, rotationEvent_pairs]
  by_cases same : other = node
  · subst same
    simp [Proxy.slot, rotationTimerCb_slots]
  · simp [Proxy.slot, same]

/-- A connection that is down stays down under a reset. -/
theorem rpcConnReset_disconnected {conn : UpstreamConn} (down : conn.state = .disconnected) :
    (rpcConnReset conn).state = .disconnected := by
  rcases rpcConnReset_state conn with closed | ⟨-, busy⟩ | ⟨same, -⟩
  · exact closed
  · simp [UpstreamConn.inFlight, down] at busy
  · exact same.trans down

/-! ## Every callback is explained -/

/-- An effect that neither concerns a slot nor records a request. -/
def isSilent : Effect n → Bool
  | .started _ _ _ => false
  | .transferred _ _ _ _ => false
  | .refreshed _ _ _ => false
  | .delivered _ _ _ => false
  | .failed _ _ => false
  | .requestAccepted _ _ _ _ => false
  | _ => true

theorem slotTrace_of_isSilent {effects : List (Effect n)}
    (silent : ∀ effect ∈ effects, isSilent effect = true) (node : Fin n) (slot : Fin 2) :
    slotTrace node slot effects = [] := by
  rw [slotTrace, List.filterMap_eq_nil_iff]
  intro effect member
  have quiet := silent effect member
  cases effect <;> first | rfl | simp [isSilent] at quiet

theorem isRequest_of_isSilent {effect : Effect n} (silent : isSilent effect = true) :
    isRequest effect = false := by
  cases effect <;> first | rfl | simp [isSilent] at silent

theorem isSilent_cancelEffects (proxy : Proxy n) :
    ∀ effect ∈ cancelEffects proxy, isSilent effect = true :=
  forall_cancelEffects proxy fun _ => rfl

theorem isSilent_raceComplete (proxy : Proxy n) {extra : List (Effect n)}
    (silent : ∀ effect ∈ extra, isSilent effect = true) :
    ∀ effect ∈ Effect.raceCompleted :: cancelEffects proxy ++ extra, isSilent effect = true :=
  List.forall_mem_append.mpr ⟨forall_raceComplete proxy rfl fun _ => rfl, silent⟩

theorem isSilent_timerEffects (env : Env) (proxy : Proxy n) (created : Bool) :
    ∀ effect ∈ timerEffects proxy env created, isSilent effect = true :=
  forall_timerEffects proxy env created fun _ => rfl

theorem isSilent_stickEffects (node : Fin n) (stuck : Bool) :
    ∀ effect ∈ stickEffects node stuck, isSilent effect = true := by
  unfold stickEffects
  split_ifs <;> simp [isSilent]

section Explained

variable {env : Env} {proxy : Proxy n} {event : Event n}

/-- A callback that changes no slot and records no effect on one. -/
theorem explained_of_kept {result : Proxy n} (added : List (Effect n))
    (trace : result.trace = added ++ proxy.trace)
    (silent : ∀ effect ∈ added, isSilent effect = true)
    (pairs : result.pairs = proxy.pairs)
    (waiting : acceptedMethod env proxy event = none) :
    Explained env proxy event result := by
  refine ⟨added, ?_, fun effect member => isRequest_of_isSilent (silent effect member),
    fun node slot => ?_⟩
  · rw [acceptedRequest_of_acceptedMethod waiting]
    exact trace
  rw [slotTrace_of_isSilent silent, Proxy.slot, pairs]
  exact .kept

/-- A callback that acts on one slot, and keeps or sweeps the others. -/
theorem explained_of_single {result : Proxy n} (node : Fin n) (slot : Fin 2)
    (extra own : List (Effect n)) (trace : result.trace = extra ++ (own ++ proxy.trace))
    (silent : ∀ effect ∈ extra, isSilent effect = true)
    (ownRequests : ∀ effect ∈ own, isRequest effect = false)
    (ownSlot : ∀ other index, ¬ (other = node ∧ index = slot) →
      slotTrace other index own = [])
    (kept : ∀ other index, ¬ (other = node ∧ index = slot) →
      result.slot other index = proxy.slot other index ∨
        result.slot other index = rpcConnReset (proxy.slot other index) ∧
          Sweeps proxy event ∧ ¬ Delivers proxy event other index)
    (move : SlotMove env proxy event node slot (slotTrace node slot own) (result.slot node slot))
    (waiting : acceptedMethod env proxy event = none) :
    Explained env proxy event result := by
  refine ⟨extra ++ own, ?_, fun effect member => ?_, fun other index => ?_⟩
  · rw [acceptedRequest_of_acceptedMethod waiting]
    simpa using trace
  · rcases List.mem_append.mp member with inExtra | inOwn
    · exact isRequest_of_isSilent (silent effect inExtra)
    · exact ownRequests effect inOwn
  · rw [slotTrace_append, slotTrace_of_isSilent silent, List.nil_append]
    by_cases same : other = node ∧ index = slot
    · rw [same.1, same.2]
      exact move
    · rw [ownSlot other index same]
      rcases kept other index same with equal | ⟨equal, sweeps, unheard⟩
      · rw [equal]
        exact .kept
      · rw [equal]
        exact .swept sweeps unheard

/-- The two effects of a delivery, on its own slot and on the others. -/
theorem slotTrace_delivered (node other : Fin n) (slot index : Fin 2) (conn : UpstreamConn)
    (chunk : Memory) :
    slotTrace other index [.delivered node slot conn, .transferred node slot [] chunk] =
      if other = node ∧ index = slot then [.delivered conn, .transferred [] chunk] else [] := by
  by_cases same : node = other ∧ slot = index
  · simp [slotTrace, slotEffect, same]
  · have different : ¬ (other = node ∧ index = slot) := fun equal =>
      same ⟨equal.1.symm, equal.2.symm⟩
    simp [slotTrace, slotEffect, same, different]

/-- The two effects of a transport error, on its own slot and on the others. -/
theorem slotTrace_failed (node other : Fin n) (slot index : Fin 2) :
    slotTrace other index [.failed node slot, .transferred node slot [] []] =
      if other = node ∧ index = slot then [.failed, .transferred [] []] else [] := by
  by_cases same : node = other ∧ slot = index
  · simp [slotTrace, slotEffect, same]
  · have different : ¬ (other = node ∧ index = slot) := fun equal =>
      same ⟨equal.1.symm, equal.2.symm⟩
    simp [slotTrace, slotEffect, same, different]

/-- A callback that delivers a response on one slot. -/
theorem explained_of_delivered {result : Proxy n} (node : Fin n) (slot : Fin 2)
    (chunk : Memory) (extra : List (Effect n))
    (trace : result.trace =
      extra ++ .delivered node slot ((proxy.slot node slot).absorb chunk) ::
        .transferred node slot [] chunk :: proxy.trace)
    (silent : ∀ effect ∈ extra, isSilent effect = true)
    (kept : ∀ other index, ¬ (other = node ∧ index = slot) →
      result.slot other index = proxy.slot other index ∨
        result.slot other index = rpcConnReset (proxy.slot other index) ∧
          Sweeps proxy event ∧ ¬ Delivers proxy event other index)
    (move : SlotMove env proxy event node slot
      [.delivered ((proxy.slot node slot).absorb chunk), .transferred [] chunk]
      (result.slot node slot))
    (waiting : acceptedMethod env proxy event = none) :
    Explained env proxy event result := by
  refine explained_of_single node slot extra
    [.delivered node slot ((proxy.slot node slot).absorb chunk), .transferred node slot [] chunk]
    trace silent (by simp [isRequest]) (fun other index different => ?_) kept ?_ waiting
  · rw [slotTrace_delivered, if_neg different]
  · rw [slotTrace_delivered, if_pos ⟨rfl, rfl⟩]
    exact move

/-- A callback that reports an error on one slot. -/
theorem explained_of_failed {result : Proxy n} (node : Fin n) (slot : Fin 2)
    (extra : List (Effect n))
    (trace : result.trace =
      extra ++ .failed node slot :: .transferred node slot [] [] :: proxy.trace)
    (silent : ∀ effect ∈ extra, isSilent effect = true)
    (kept : ∀ other index, ¬ (other = node ∧ index = slot) →
      result.slot other index = proxy.slot other index ∨
        result.slot other index = rpcConnReset (proxy.slot other index) ∧
          Sweeps proxy event ∧ ¬ Delivers proxy event other index)
    (busy : (proxy.slot node slot).inFlight = true)
    (down : (result.slot node slot).state = .disconnected)
    (waiting : acceptedMethod env proxy event = none) :
    Explained env proxy event result := by
  refine explained_of_single node slot extra
    [.failed node slot, .transferred node slot [] []]
    trace silent (by simp [isRequest]) (fun other index different => ?_) kept ?_ waiting
  · rw [slotTrace_failed, if_neg different]
  · rw [slotTrace_failed, if_pos ⟨rfl, rfl⟩]
    exact .broken _ busy down

/-- A callback that moves bytes on one slot, with nothing to report about a request. -/
theorem explained_of_transferred {result : Proxy n} (node : Fin n) (slot : Fin 2)
    {outcome : ConnOutcome} (extra : List (Effect n))
    (trace : result.trace =
      extra ++ .transferred node slot outcome.written outcome.received :: proxy.trace)
    (silent : ∀ effect ∈ extra, isSilent effect = true)
    (slots : ∀ other index, result.slot other index =
      if other = node ∧ index = slot then outcome.conn else proxy.slot other index)
    (move : ConnMove proxy.client.recvBuf (proxy.slot node slot) outcome)
    (noResponse : outcome.upcall ≠ some .response) (noError : outcome.upcall ≠ some .error)
    (waiting : acceptedMethod env proxy event = none) :
    Explained env proxy event result := by
  refine explained_of_single node slot extra
    [.transferred node slot outcome.written outcome.received] trace silent (by simp [isRequest])
    (fun other index different => ?_) (fun other index different => ?_) ?_ waiting
  · have symmetric : ¬ (node = other ∧ slot = index) := fun same =>
      different ⟨same.1.symm, same.2.symm⟩
    simp [slotTrace, slotEffect, symmetric]
  · rw [slots, if_neg different]
    exact Or.inl rfl
  · rw [slots, if_pos ⟨rfl, rfl⟩]
    simpa [slotTrace, slotEffect] using SlotMove.io outcome move noResponse noError

theorem answered_slot_of_ne (node other : Fin n) (slot index : Fin 2) (chunk : Memory)
    (race : Race n) (inIbd : Bool) (different : ¬ (other = node ∧ index = slot)) :
    (answered proxy node slot chunk race inIbd).slot other index = proxy.slot other index := by
  have equal := setSlot_slot proxy node slot other index
    { (proxy.slot node slot).absorb chunk with inIbd := inIbd }
  rw [if_neg different] at equal
  exact equal

theorem isSilent_forwarded (node : Fin n) (slot : Fin 2) (chunk : Memory)
    (inIbd stuck : Bool) (results : List SendResult) :
    ∀ effect ∈ forwardEffect proxy node slot chunk inIbd results :: stickEffects node stuck,
      isSilent effect = true := by
  simp only [List.mem_cons]
  rintro effect (rfl | inStick)
  · rfl
  · exact isSilent_stickEffects node stuck effect inStick

theorem ResponseMove.explained {node : Fin n} {slot : Fin 2} {chunk : Memory}
    {connEvent : ConnEvent} {results : List SendResult} {result : Proxy n}
    (move : ResponseMove env proxy node slot chunk results result)
    (out : connOutcome proxy node slot connEvent =
      some ⟨(proxy.slot node slot).absorb chunk, some .response, [], chunk⟩)
    (receiving : (proxy.slot node slot).state = .receiving) (nonempty : chunk ≠ [])
    (complete : rpcConnResponseComplete ((proxy.slot node slot).absorb chunk) = true)
    (active : proxy.race.state ≠ .idle) :
    Explained env proxy (.conn node slot connEvent results) result := by
  have sweeps : proxy.race.responsesPending = 1 →
      Sweeps proxy (.conn node slot connEvent results) := fun last =>
    ⟨active, last.le, _, out, Or.inl rfl⟩
  -- `race_complete` after the judgement, whatever was sent to the client in between
  have completed : ∀ (judged : Proxy n) (race : Race n) (inIbd : Bool)
      (extra : List (Effect n)), proxy.race.responsesPending = 1 →
      judged.pairs = (answered proxy node slot chunk race inIbd).pairs →
      judged.trace = extra ++ (answered proxy node slot chunk race inIbd).trace →
      (∀ effect ∈ extra, isSilent effect = true) →
      Explained env proxy (.conn node slot connEvent results) (raceComplete judged) := by
    intro judged race inIbd extra last pairs trace silent
    have slots : ∀ other index, judged.slot other index =
        (answered proxy node slot chunk race inIbd).slot other index := fun other index => by
      rw [Proxy.slot, pairs]
      rfl
    refine explained_of_delivered node slot chunk (.raceCompleted :: cancelEffects judged ++ extra)
      ?_ ?_ ?_ ?_ rfl
    · rw [raceComplete_trace, trace]
      simp
    · exact isSilent_raceComplete judged silent
    · intro other index different
      rcases raceComplete_slot judged other index with equal | equal
      · rw [equal, slots, answered_slot_of_ne _ _ _ _ _ _ _ different]
        exact Or.inl rfl
      · rw [equal, slots, answered_slot_of_ne _ _ _ _ _ _ _ different]
        exact Or.inr ⟨rfl, sweeps last, not_delivers_of_ne different⟩
    · rcases raceComplete_slot judged node slot with equal | equal
      · rw [equal, slots, answered_slot]
        exact .answered chunk inIbd receiving nonempty complete active
      · rw [equal, slots, answered_slot]
        exact .answeredReset chunk inIbd receiving nonempty complete
  cases move with
  | counted race inIbd =>
      refine explained_of_delivered node slot chunk [] rfl (by simp)
        (fun other index different => Or.inl ?_) ?_ rfl
      · exact answered_slot_of_ne _ _ _ _ _ _ _ different
      · rw [answered_slot]
        exact .answered chunk inIbd receiving nonempty complete active
  | broadcastWon race inIbd =>
      refine explained_of_delivered node slot chunk [_] rfl (by simp [isSilent])
        (fun other index different => Or.inl ?_) ?_ rfl
      · exact answered_slot_of_ne _ _ _ _ _ race inIbd different
      · rw [show (sendUpstreamResponseToClient (answered proxy node slot chunk race inIbd)
          node slot results).slot node slot =
            (answered proxy node slot chunk race inIbd).slot node slot from rfl, answered_slot]
        exact .answered chunk inIbd receiving nonempty complete active
  | won race inIbd stuck =>
      have slots : ∀ other index, (sendUpstreamResponseToClient
          (stick (answered proxy node slot chunk race inIbd) node stuck)
          node slot results).slot other index =
            (answered proxy node slot chunk race inIbd).slot other index := by
        intro other index
        simp [Proxy.slot]
      refine explained_of_delivered node slot chunk
        (forwardEffect proxy node slot chunk inIbd results :: stickEffects node stuck)
        (forwarded_trace proxy node slot chunk race inIbd stuck results)
        (isSilent_forwarded node slot chunk inIbd stuck results)
        (fun other index different => Or.inl ?_) ?_ rfl
      · rw [released, setSlot_slot, if_neg different]
        exact (slots other index).trans (answered_slot_of_ne _ _ _ _ _ _ _ different)
      · rw [released, setSlot_slot_self, slots, answered_slot]
        exact .answeredReset chunk inIbd receiving nonempty complete
  | ended race inIbd counting last =>
      exact completed _ race inIbd [] last rfl rfl (by simp)
  | settled race inIbd stuck counting last =>
      exact completed _ race inIbd _ last (by simp)
        (forwarded_trace proxy node slot chunk race inIbd stuck results)
        (isSilent_forwarded node slot chunk inIbd stuck results)

/-! ### Errors -/

/-- A state that differs from the one before an error by the broken slot alone. -/
structure Broken (proxy base : Proxy n) (node : Fin n) (slot : Fin 2) : Prop where
  trace_eq : base.trace = .failed node slot :: .transferred node slot [] [] :: proxy.trace
  pending_eq : base.race.responsesPending = proxy.race.responsesPending
  kept : ∀ other index, ¬ (other = node ∧ index = slot) →
    base.slot other index = proxy.slot other index
  down : (base.slot node slot).state = .disconnected

theorem breakage_broken (proxy : Proxy n) (node : Fin n) (slot : Fin 2) :
    Broken proxy (breakage proxy node slot) node slot where
  trace_eq := rfl
  pending_eq := rfl
  kept other index different := by simp [breakage, setSlot_slot, different]
  down := by simp [breakage]

theorem swapOnError_slot (node other : Fin n) (index : Fin 2) :
    (swapOnError proxy node).slot other index =
      if other = node ∧ index = (proxy.pairs node).activeIdx then
        rpcConnDisconnect (proxy.active node)
      else proxy.slot other index := by
  by_cases same : other = node
  · subst same
    simp [swapOnError, Proxy.slot, connPairReportError, setSlot_slots, Proxy.active]
  · simp [swapOnError, Proxy.slot, same]

theorem swapOnError_broken {base : Proxy n} {node : Fin n} {slot : Fin 2}
    (broken : Broken proxy base node slot) (active : slot = (base.pairs node).activeIdx) :
    Broken proxy (swapOnError base node) node slot where
  trace_eq := broken.trace_eq
  pending_eq := broken.pending_eq
  kept other index different := by
    rw [swapOnError_slot, ← active, if_neg different]
    exact broken.kept other index different
  down := by
    rw [swapOnError_slot, ← active, if_pos ⟨rfl, rfl⟩]
    simp

theorem FailureMove.explained {base result : Proxy n} {node : Fin n} {slot : Fin 2}
    {connEvent : ConnEvent} {results : List SendResult}
    (move : FailureMove base node result) (broken : Broken proxy base node slot)
    (out : connOutcome proxy node slot connEvent =
      some (.quiet (proxy.slot node slot).dropFd (some .error)))
    (busy : (proxy.slot node slot).inFlight = true) (active : proxy.race.state ≠ .idle)
    (final : ¬ Retryable proxy node) :
    Explained env proxy (.conn node slot connEvent results) result := by
  have sweeps : base.race.responsesPending ≤ 1 →
      Sweeps proxy (.conn node slot connEvent results) := fun last =>
    ⟨active, broken.pending_eq ▸ last, _, out, Or.inr ⟨rfl, final⟩⟩
  have completed : ∀ (judged : Proxy n) (extra : List (Effect n)),
      base.race.responsesPending ≤ 1 → judged.pairs = base.pairs →
      judged.trace = extra ++ base.trace → (∀ effect ∈ extra, isSilent effect = true) →
      Explained env proxy (.conn node slot connEvent results) (raceComplete judged) := by
    intro judged extra last pairs trace silent
    have slots : ∀ other index, judged.slot other index = base.slot other index :=
      fun other index => by rw [Proxy.slot, pairs]; rfl
    refine explained_of_failed node slot (.raceCompleted :: cancelEffects judged ++ extra)
      ?_ ?_ ?_ busy ?_ rfl
    · rw [raceComplete_trace, trace, broken.trace_eq]
      simp
    · exact isSilent_raceComplete judged silent
    · intro other index different
      rcases raceComplete_slot judged other index with equal | equal
      · rw [equal, slots, broken.kept other index different]
        exact Or.inl rfl
      · rw [equal, slots, broken.kept other index different]
        exact Or.inr ⟨rfl, sweeps last, not_delivers_of_ne different⟩
    · rcases raceComplete_slot judged node slot with equal | equal
      · rw [equal, slots]
        exact broken.down
      · rw [equal, slots]
        exact rpcConnReset_disconnected broken.down
  cases move with
  | counted =>
      refine explained_of_failed node slot [.gaveUp node] ?_ (by simp [isSilent])
        (fun other index different => Or.inl (broken.kept other index different)) busy broken.down
        rfl
      exact congrArg (List.cons _) broken.trace_eq
  | ended last =>
      exact completed (lost base node) [.gaveUp node] last rfl rfl (by simp [isSilent])
  | closed last =>
      exact completed (closeClient (lost base node) true) [.closeClient _ true, .gaveUp node]
        last rfl rfl (by simp [isSilent])

/-- The error itself does not change whether the node can be retried. -/
theorem retryable_breakage {node : Fin n} {slot : Fin 2}
    (active : slot = (proxy.pairs node).activeIdx) :
    Retryable (breakage proxy node slot) node ↔ Retryable proxy node := by
  have standby : ((breakage proxy node slot).pairs node).slots
      ((breakage proxy node slot).pairs node).standbyIdx =
        (proxy.pairs node).slots (proxy.pairs node).standbyIdx := by
    have different := standbyIdx_ne (proxy.pairs node)
    rw [← active] at different
    simp [breakage, Proxy.setSlot, setSlot_slots, different]
  unfold Retryable
  rw [standby]
  rfl

theorem ErrorMove.explained {node : Fin n} {slot : Fin 2} {connEvent : ConnEvent}
    {results : List SendResult} {result : Proxy n}
    (move : ErrorMove (breakage proxy node slot) node result)
    (out : connOutcome proxy node slot connEvent =
      some (.quiet (proxy.slot node slot).dropFd (some .error)))
    (busy : (proxy.slot node slot).inFlight = true) (racing : proxy.race.state ≠ .idle)
    (active : slot = (proxy.pairs node).activeIdx) :
    Explained env proxy (.conn node slot connEvent results) result := by
  have broken := breakage_broken proxy node slot
  have sameActive : ((breakage proxy node slot).pairs node).activeIdx =
      (proxy.pairs node).activeIdx := by
    simp [breakage, Proxy.setSlot]
  have swapped := swapOnError_broken broken (active.trans sameActive.symm)
  have upcall : upcallOf proxy (.conn node slot connEvent results) = some .error := by
    simp [upcallOf, out, ConnOutcome.quiet]
  cases move with
  | retried retryable =>
      -- the broken slot and the former standby are the two slots that change
      have different : (proxy.pairs node).standbyIdx ≠ slot := active ▸ standbyIdx_ne _
      have newActive : ((swapOnError (breakage proxy node slot) node).pairs node).activeIdx =
          (proxy.pairs node).standbyIdx := by
        simp [swapOnError, connPairReportError, breakage, Proxy.setSlot]
      have slots : ∀ other index,
          (retrial (breakage proxy node slot) node).slot other index =
            if other = node ∧ index = (proxy.pairs node).standbyIdx then
              (proxy.slot node (proxy.pairs node).standbyIdx).beginSend proxy.race.requestLen
            else (swapOnError (breakage proxy node slot) node).slot other index := by
        intro other index
        have standby := swapped.kept node (proxy.pairs node).standbyIdx fun same =>
          different same.2
        rw [retrial, emit_slot, setPair_slot]
        by_cases same : other = node
        · subst same
          rw [if_pos rfl, sendActive, setSlot_slots, connPairGetActive, newActive]
          simp only [true_and]
          rw [← standby]
          rfl
        · simp [same]
      refine ⟨[.started node (proxy.pairs node).standbyIdx proxy.race.requestLen,
        .failed node slot, .transferred node slot [] []], ?_, by simp [isRequest], ?_⟩
      · rw [retrial, Proxy.emit_trace, newActive]
        rfl
      · intro other index
        rw [slots]
        by_cases isStandby : other = node ∧ index = (proxy.pairs node).standbyIdx
        · obtain ⟨rfl, rfl⟩ := isStandby
          have connected := ((retryable_breakage active).mp retryable).2.1
          have nonempty := ((retryable_breakage active).mp retryable).2.2
          have start : SlotMove env proxy (.conn other slot connEvent results) other _ _ _ :=
            .started proxy.race.requestLen nonempty connected
              (Or.inr ⟨⟨slot, ⟨⟨connEvent, results, rfl⟩, Or.inr upcall⟩, upcall⟩, racing,
                (retryable_breakage active).mp retryable, rfl⟩)
          simpa [slotTrace, slotEffect, different, Ne.symm different] using start
        · rw [if_neg isStandby]
          have notStarted : ¬ (node = other ∧ (proxy.pairs node).standbyIdx = index) :=
            fun same => isStandby ⟨same.1.symm, same.2.symm⟩
          have own : slotTrace other index
              [.started node (proxy.pairs node).standbyIdx proxy.race.requestLen,
                .failed node slot, .transferred node slot [] []] =
              slotTrace other index [.failed node slot, .transferred node slot [] []] := by
            simp [slotTrace, slotEffect, notStarted]
          rw [own, slotTrace_failed]
          split_ifs with same
          · obtain ⟨rfl, rfl⟩ := same
            exact .broken _ busy swapped.down
          · rw [swapped.kept other index same]
            exact .kept
  | twice already result failure =>
      refine FailureMove.explained failure broken out busy racing fun retryable => ?_
      have first := retryable.1
      rw [show proxy.race.nodeRetried node = true from already] at first
      contradiction
  | lost first final result failure =>
      exact FailureMove.explained failure swapped out busy racing
        fun retryable => final ((retryable_breakage active).mpr retryable)

/-! ### Requests and timers -/

/-- One send on an active connection. -/
theorem sendActive_slotMove {node : Fin n} {len : Nat} (nonempty : len ≠ 0)
    (available : connPairIsAvailable (proxy.pairs node) = true)
    (cause : StartCause env proxy event node len) (index : Fin 2) :
    SlotMove env proxy event node index
      (if index = (proxy.pairs node).activeIdx then [.started len] else [])
      ((sendActive (proxy.pairs node) len).slots index) := by
  rw [sendActive, setSlot_slots]
  split_ifs with active
  · have connected : (connPairGetActive (proxy.pairs node)).state = .connected := by
      simpa [connPairIsAvailable] using available
    subst active
    exact .started len nonempty connected cause
  · exact .kept

theorem Acceptance.explained {chunk method : Memory} {created : Bool} {result : Proxy n}
    (acceptance : Acceptance env (withChunk proxy chunk) method created result)
    (nonempty : (withChunk proxy chunk).client.recvLen ≠ 0)
    (bytes : storedChunk proxy event = some chunk)
    (accepted : acceptedMethod env proxy event = some method) :
    Explained env proxy event (clearRequest result) := by
  have request : acceptedRequest env proxy event =
      some (requestEffect (withChunk proxy chunk) method) := by
    simp [acceptedRequest, bytes, accepted]
  have cause : ∀ node, StartCause env proxy event node (withChunk proxy chunk).client.recvLen :=
    fun node => Or.inl ⟨chunk, bytes, by simp [accepted], rfl⟩
  simp only [Explained, request]
  cases acceptance with
  | fanout race begun state pending reachable =>
      refine ⟨timerEffects proxy env created ++
        startEffects proxy (fanoutTargets proxy) (withChunk proxy chunk).client.recvLen,
        ?_, ?_, ?_⟩
      · rw [clearRequest_trace, startRpcTimeout_trace]
        simp only [List.append_assoc]
        rfl
      · intro effect member
        rcases List.mem_append.mp member with inTimer | inStarts
        · exact isRequest_of_isSilent (isSilent_timerEffects _ _ _ effect inTimer)
        · simp only [startEffects, List.mem_reverse, List.mem_map] at inStarts
          obtain ⟨node, -, rfl⟩ := inStarts
          rfl
      · intro node slot
        have distinct : (fanoutTargets proxy).Nodup := (List.nodup_finRange n).filter _
        rw [slotTrace_append, slotTrace_timerEffects, List.nil_append,
          slotTrace_startEffects node slot proxy _ distinct]
        simp only [Proxy.slot, clearRequest_pairs, startRpcTimeout_pairs, fanoutPairs]
        have targets : node ∈ fanoutTargets proxy ↔
            connPairIsAvailable (proxy.pairs node) = true := by
          simp [fanoutTargets]
        change SlotMove env proxy event node slot _
          ((if connPairIsAvailable (proxy.pairs node) = true
            then sendActive (proxy.pairs node) (withChunk proxy chunk).client.recvLen
            else proxy.pairs node).slots slot)
        simp only [targets]
        split_ifs with both available available
        · rw [both.2]
          simpa using
            sendActive_slotMove nonempty available (cause node) (proxy.pairs node).activeIdx
        · exact absurd both.1 available
        · have other : slot ≠ (proxy.pairs node).activeIdx := fun active =>
            both ⟨available, active⟩
          simpa [other] using sendActive_slotMove nonempty available (cause node) slot
        · exact .kept
  | sticky race begun state pending single node stuck available =>
      refine ⟨timerEffects proxy env created ++
        [.stickySent node, .started node (proxy.pairs node).activeIdx
          (withChunk proxy chunk).client.recvLen], ?_, ?_, ?_⟩
      · rw [clearRequest_trace, startRpcTimeout_trace]
        simp only [List.append_assoc, List.cons_append, List.nil_append]
        rfl
      · intro effect member
        rcases List.mem_append.mp member with inTimer | inStarts
        · exact isRequest_of_isSilent (isSilent_timerEffects _ _ _ effect inTimer)
        · simp only [List.mem_cons, List.not_mem_nil, or_false] at inStarts
          rcases inStarts with rfl | rfl <;> rfl
      · intro other slot
        rw [slotTrace_append, slotTrace_timerEffects, List.nil_append]
        have slots := setPair_slot proxy node slot other
          (sendActive (proxy.pairs node) (withChunk proxy chunk).client.recvLen)
        simp only [Proxy.slot, clearRequest_pairs, startRpcTimeout_pairs]
        change SlotMove env proxy event other slot _ ((proxy.setPair node
          (sendActive (proxy.pairs node) (withChunk proxy chunk).client.recvLen)).slot other slot)
        rw [slots]
        by_cases same : other = node
        · subst same
          have reachable : connPairIsAvailable (proxy.pairs other) = true := available
          have start : SlotMove env proxy event other slot _ _ :=
            sendActive_slotMove nonempty reachable (cause other) slot
          have own : slotTrace other slot
              [.stickySent other, .started other (proxy.pairs other).activeIdx
                (withChunk proxy chunk).client.recvLen] =
              if slot = (proxy.pairs other).activeIdx then
                [.started (withChunk proxy chunk).client.recvLen] else [] := by
            by_cases isActive : slot = (proxy.pairs other).activeIdx
            · simp [slotTrace, slotEffect, List.filterMap_cons, isActive]
            · simp [slotTrace, slotEffect, List.filterMap_cons, isActive, Ne.symm isActive]
          rw [own, if_pos rfl]
          exact start
        · have silent : slotTrace other slot
              [.stickySent node, .started node (proxy.pairs node).activeIdx
                (withChunk proxy chunk).client.recvLen] = [] := by
            simp [slotTrace, slotEffect, List.filterMap_cons, Ne.symm same]
          rw [silent, if_neg same]
          exact .kept
  | refused race begun state =>
      exact ⟨[.closeClient (withChunk proxy chunk).client.target true], rfl,
        by simp [isRequest], fun node slot => .kept⟩

theorem TimeoutMove.explained {fd : Nat} {results : List SendResult} {result : Proxy n}
    (move : TimeoutMove proxy fd result) (registered : timerRegistered proxy fd = true) :
    Explained env proxy (.timeout fd results) result := by
  have completed : ∀ (judged : Proxy n) (extra : List (Effect n)),
      judged.pairs = proxy.pairs → judged.trace = extra ++ proxy.trace →
      (∀ effect ∈ extra, isSilent effect = true) →
      Explained env proxy (.timeout fd results) (raceComplete judged) := by
    intro judged extra pairs trace silent
    have slots : ∀ node slot, judged.slot node slot = proxy.slot node slot :=
      fun node slot => by rw [Proxy.slot, pairs]; rfl
    have silentAll := isSilent_raceComplete judged silent
    refine ⟨.raceCompleted :: cancelEffects judged ++ extra, ?_, fun effect member =>
      isRequest_of_isSilent (silentAll effect member), ?_⟩
    · rw [raceComplete_trace, trace, ← List.append_assoc]
      rfl
    · intro node slot
      rw [slotTrace_of_isSilent silentAll]
      rcases raceComplete_slot judged node slot with equal | equal
      · rw [equal, slots]
        exact .kept
      · rw [equal, slots]
        exact .swept registered (not_delivers_timeout fd results)
  cases move with
  | drained idle =>
      have silentAll : ∀ effect ∈ cancelEffects (unstuck (acknowledged proxy fd)) ++
          [.timerExpired fd proxy.now], isSilent effect = true := by
        simp only [List.mem_append, List.mem_singleton]
        rintro effect (inCancel | rfl)
        · exact isSilent_cancelEffects _ effect inCancel
        · rfl
      refine ⟨cancelEffects (unstuck (acknowledged proxy fd)) ++ [.timerExpired fd proxy.now],
        ?_, fun effect member => isRequest_of_isSilent (silentAll effect member), ?_⟩
      · rw [cancelRpcTimeout_trace, List.append_assoc]
        rfl
      · intro node slot
        rw [slotTrace_of_isSilent silentAll, Proxy.slot, cancelRpcTimeout_pairs]
        rcases unstuck_slot (acknowledged proxy fd) node slot with equal | equal
        · change SlotMove _ _ _ _ _ _ ((unstuck (acknowledged proxy fd)).slot node slot)
          rw [equal]
          exact .kept
        · change SlotMove _ _ _ _ _ _ ((unstuck (acknowledged proxy fd)).slot node slot)
          rw [equal]
          exact .swept registered (not_delivers_timeout fd results)
  | ended => exact completed _ [.timerExpired fd proxy.now] rfl rfl (by simp [isSilent])
  | closed =>
      exact completed _ [.closeClient _ true, .timerExpired fd proxy.now] rfl rfl
        (by simp [isSilent])

/-- The drain branch adds at most the close of the safety timer to the trace. -/
theorem drainSlot_trace (proxy : Proxy n) (node : Fin n) (slot : Fin 2) :
    (drainSlot proxy node slot).trace = proxy.trace ∨
      (drainSlot proxy node slot).trace = cancelEffects proxy ++ proxy.trace := by
  unfold drainSlot
  dsimp only
  split_ifs
  · exact Or.inl rfl
  · rw [cancelRpcTimeout_trace]
    exact Or.inr rfl

theorem drainSlot_trace_silent (proxy : Proxy n) (node : Fin n) (slot : Fin 2) :
    ∃ extra, (drainSlot proxy node slot).trace = extra ++ proxy.trace ∧
      ∀ effect ∈ extra, isSilent effect = true := by
  rcases drainSlot_trace proxy node slot with same | cancelled
  · exact ⟨[], same, by simp⟩
  · exact ⟨_, cancelled, isSilent_cancelEffects proxy⟩

theorem drainSlot_slot (proxy : Proxy n) (node other : Fin n) (slot index : Fin 2) :
    (drainSlot proxy node slot).slot other index =
      if other = node ∧ index = slot then rpcConnReset (proxy.slot node slot)
      else proxy.slot other index := by
  rw [Proxy.slot, drainSlot_pairs]
  exact setSlot_slot proxy node slot other index _

/-- The rotation timer acts on the standby of its node, if that can be refreshed. -/
theorem rotationEvent_explained (node : Fin n) (result : ConnectResult) :
    Explained env proxy (.rotation node result) (rotationEvent proxy node result) := by
  by_cases refreshable : (proxy.pairs node).standbyRefreshable = true
  · have trace : (rotationEvent proxy node result).trace =
        .refreshed node (proxy.pairs node).standbyIdx result :: proxy.trace := by
      simp only [rotationEvent, refreshable, if_true]
      rfl
    refine explained_of_single node (proxy.pairs node).standbyIdx []
      [.refreshed node (proxy.pairs node).standbyIdx result] trace (by simp)
      (by simp [isRequest]) (fun other index different => ?_) (fun other index different => ?_)
      ?_ rfl
    · have symmetric : ¬ (node = other ∧ (proxy.pairs node).standbyIdx = index) := fun same =>
        different ⟨same.1.symm, same.2.symm⟩
      simp [slotTrace, slotEffect, symmetric]
    · rw [rotationEvent_slot, if_neg fun same => different ⟨same.1, same.2.2⟩]
      exact Or.inl rfl
    · rw [rotationEvent_slot, if_pos ⟨rfl, refreshable, rfl⟩]
      simpa [slotTrace, slotEffect] using SlotMove.refreshed result proxy.nextFd rfl refreshable
  · have trace : (rotationEvent proxy node result).trace = proxy.trace := by
      simp only [rotationEvent, refreshable]
      rfl
    refine ⟨[], trace, by simp, fun other index => ?_⟩
    rw [rotationEvent_slot, if_neg fun same => refreshable same.2.1]
    exact .kept

/-- Every callback acts on every slot by one of the moves. -/
theorem ProxyMove.explained {result : Proxy n} (move : ProxyMove env proxy event result)
    (wellFormed : WellFormed proxy) :
    Explained env proxy event result := by
  cases move with
  | ignored event noBytes unheard =>
      exact explained_of_kept [] rfl (by simp) rfl (acceptedMethod_of_storedChunk noBytes)
  | elapsed => exact explained_of_kept [] rfl (by simp) rfl rfl
  | notified => exact explained_of_kept [.blockNotify] rfl (by simp [isSilent]) rfl rfl
  | replaced registered =>
      unfold listenerCb
      dsimp only
      split_ifs
      · exact explained_of_kept [.clientAccepted _, .closeClient _ false] rfl
          (by simp [isSilent]) rfl rfl
      · exact explained_of_kept [.clientAccepted _] rfl (by simp [isSilent]) rfl rfl
      · exact explained_of_kept [.closeClient _ false] rfl (by simp [isSilent]) rfl rfl
      · exact explained_of_kept [] rfl (by simp) rfl rfl
  | hungUp event connected noBytes =>
      exact explained_of_kept [.closeClient _ false] rfl (by simp [isSilent]) rfl
        (acceptedMethod_of_storedChunk noBytes)
  | stored event chunk bytes waiting => exact explained_of_kept [] rfl (by simp) rfl waiting
  | dropped event chunk bytes waiting => exact explained_of_kept [] rfl (by simp) rfl waiting
  | request event chunk method result bytes accepted idle nonempty acceptance =>
      exact Acceptance.explained acceptance nonempty bytes accepted
  | moved node slot connEvent results outcome out silent =>
      exact explained_of_transferred node slot [] rfl (by simp)
        (fun other index => setSlot_slot proxy node slot other index outcome.conn)
        (connOutcome_move out) (by simp [silent]) (by simp [silent]) rfl
  | connected node slot connEvent results outcome out upcall =>
      exact explained_of_transferred node slot [.established node slot] rfl
        (by simp [isSilent]) (established_slot proxy node slot outcome)
        (connOutcome_move out) (by simp [upcall]) (by simp [upcall]) rfl
  | lateResponse node slot connEvent results chunk nonempty out receiving complete idle =>
      obtain ⟨extra, trace, silent⟩ :=
        drainSlot_trace_silent (delivery proxy node slot chunk) node slot
      refine explained_of_delivered node slot chunk extra trace silent ?_ ?_ rfl
      · intro other index different
        rw [drainSlot_slot, if_neg different]
        refine Or.inl ?_
        simp [delivery, setSlot_slot, different]
      · rw [drainSlot_slot, if_pos ⟨rfl, rfl⟩]
        have own : (delivery proxy node slot chunk).slot node slot =
            (proxy.slot node slot).absorb chunk := by
          simp [delivery]
        rw [own]
        exact .answeredReset chunk ((proxy.slot node slot).absorb chunk).inIbd receiving
          nonempty complete
  | response node slot connEvent results chunk nonempty out receiving complete active result
      move =>
      exact ResponseMove.explained move out receiving nonempty complete active
  | lateError node slot connEvent results out busy idle =>
      obtain ⟨extra, trace, silent⟩ := drainSlot_trace_silent (breakage proxy node slot) node slot
      have broken := breakage_broken proxy node slot
      refine explained_of_failed node slot extra trace silent ?_ busy ?_ rfl
      · intro other index different
        rw [drainSlot_slot, if_neg different]
        exact Or.inl (broken.kept other index different)
      · rw [drainSlot_slot, if_pos ⟨rfl, rfl⟩]
        exact rpcConnReset_disconnected broken.down
  | error node slot connEvent results out busy racing result move =>
      exact ErrorMove.explained move out busy racing (wellFormed.eq_active busy)
  | rotated node result => exact rotationEvent_explained node result
  | expired fd results registered result move => exact TimeoutMove.explained move registered

end Explained

/-- At startup no slot has a request in flight. -/
theorem rpcProxyCreate_quiet (boot : Boot n) (node : Fin n) (slot : Fin 2) :
    ((rpcProxyCreate boot).slot node slot).inFlight = false :=
  connPairInit_quiet (boot.pair node) _ slot

theorem step_explained (env : Env) (proxy : Proxy n) (event : Event n)
    (wellFormed : WellFormed proxy) :
    Explained env proxy event (step env proxy event) :=
  ProxyMove.explained (step_move env proxy event wellFormed) wellFormed

end RpcRace.SlotMoves
