import RpcRace.Requests

/-!
# Late events and the next race

After a winner of a non-broadcast race the proxy is idle while other nodes
still work for the old request.  Their late answers must not touch the race
of a newer request.  The handlers tell a late event from a current one only
by `state`, so they keep late events apart while the proxy is idle, and not
when a newer request is raced: an event that reaches the handlers then always
changes that race.

The isolation therefore holds in every run in which a request is accepted
only once nothing is in flight any more.
-/

namespace RpcRace.DrainIsolation

open RpcRace.Library.Run
open RpcRace.RpcConn
open RpcRace.RpcProxy
open RpcRace.RaceMoves
open RpcRace.ProxyMoves
open RpcRace.SlotMoves
open RpcRace.Requests

variable {n : Nat}

/-! ## The property -/

/-- The slot is busy with an earlier request than the latest one. -/
def Draining (proxy : Proxy n) (node : Fin n) (slot : Fin 2) : Prop :=
  (proxy.slot node slot).inFlight = true ∧
    requestNo (startPast node slot proxy.trace) < requestNo proxy.trace

/-- `rpc_conn_send` was called with success. -/
def isStart : Effect n → Bool
  | .started _ _ _ => true
  | _ => false

/-- The race is the same, and nothing was sent to a node or to the client. -/
structure Untouched (before after : Proxy n) : Prop where
  state_eq : after.race.state = before.race.state
  pending_eq : after.race.responsesPending = before.race.responsesPending
  winner_eq : after.race.winnerIdx = before.race.winnerIdx
  lastError_eq : after.race.lastErrorIdx = before.race.lastErrorIdx
  retried_eq : after.race.nodeRetried = before.race.nodeRetried
  sticky_eq : after.race.stickyNodeIdx = before.race.stickyNodeIdx
  height_eq : after.race.lastBlockHeight = before.race.lastBlockHeight
  sends_eq : after.trace.countP isStart = before.trace.countP isStart
  forwards_eq : after.trace.countP isForward = before.trace.countP isForward

/-- A delivery on a draining slot leaves the race of a newer request untouched. -/
def Isolated (env : Env) (proxy : Proxy n) (event : Event n) : Prop :=
  ∀ node slot, Delivers proxy event node slot → Draining proxy node slot →
    proxy.race.state ≠ .idle → Untouched proxy (step env proxy event)

/-! ## Deliveries while idle -/

/-- Records that are neither sends nor forwards leave a race untouched. -/
theorem untouched_of_race_eq {before after : Proxy n} (race_eq : after.race = before.race)
    (added : List (Effect n)) (trace : after.trace = added ++ before.trace)
    (noSend : added.countP isStart = 0) (noForward : added.countP isForward = 0) :
    Untouched before after := by
  constructor <;> first | rw [race_eq] | rw [trace, List.countP_append]
  · rw [noSend, Nat.zero_add]
  · rw [noForward, Nat.zero_add]

theorem drainSlot_untouched {before proxy : Proxy n} (node : Fin n) (slot : Fin 2)
    (race_eq : proxy.race = before.race) (added : List (Effect n))
    (trace : proxy.trace = added ++ before.trace)
    (noSend : added.countP isStart = 0) (noForward : added.countP isForward = 0) :
    Untouched before (drainSlot proxy node slot) := by
  have same := (drainSlot_race proxy node slot).trans race_eq
  rcases drainSlot_trace proxy node slot with kept | cancelled
  · exact untouched_of_race_eq same added (kept.trans trace) noSend noForward
  · refine untouched_of_race_eq same (cancelEffects proxy ++ added) ?_ ?_ ?_
    · rw [cancelled, trace, List.append_assoc]
    · rw [List.countP_append, noSend]
      simp [cancelEffects, List.countP_map, Function.comp_def, isStart]
    · rw [List.countP_append, noForward]
      simp [cancelEffects, List.countP_map, Function.comp_def, isForward]

/-- While the proxy is idle the drain branches keep every delivery away from the race. -/
theorem untouched_of_idle (env : Env) {proxy : Proxy n} {event : Event n}
    (wellFormed : WellFormed proxy) {node : Fin n} {slot : Fin 2}
    (delivers : Delivers proxy event node slot) (idle : proxy.race.state = .idle) :
    Untouched proxy (step env proxy event) := by
  obtain ⟨⟨connEvent, results, rfl⟩, -⟩ := delivers
  have move := step_move env proxy (.conn node slot connEvent results) wellFormed
  generalize step env proxy (.conn node slot connEvent results) = result at move
  cases move with
  | ignored => exact untouched_of_race_eq rfl [] rfl rfl rfl
  | moved => exact untouched_of_race_eq rfl [_] rfl rfl rfl
  | connected => exact untouched_of_race_eq rfl [_, _] rfl rfl rfl
  | lateResponse _ _ _ _ chunk =>
      exact drainSlot_untouched node slot rfl [_, _] rfl rfl rfl
  | response _ _ _ _ _ _ _ _ _ active => exact absurd idle active
  | lateError => exact drainSlot_untouched node slot rfl [_, _] rfl rfl rfl
  | error _ _ _ _ _ _ active => exact absurd idle active

/-! ## Deliveries while a request is raced -/

theorem ResponseMove.touches {env : Env} {proxy : Proxy n} {node : Fin n} {slot : Fin 2}
    {chunk : RpcRace.Library.CString.Memory} {results : List SendResult} {result : Proxy n}
    (move : ResponseMove env proxy node slot chunk results result)
    (active : proxy.race.state ≠ .idle) :
    result.race.state ≠ proxy.race.state ∨
      result.race.responsesPending ≠ proxy.race.responsesPending := by
  cases move with
  | counted race inIbd counting =>
      refine Or.inr ?_
      rw [answered_race, counting.pending_eq]
      omega
  | broadcastWon race inIbd counting =>
      refine Or.inr ?_
      rw [sendUpstreamResponseToClient_race, answered_race, counting.pending_eq]
      omega
  | won => exact Or.inl active.symm
  | ended => exact Or.inl (by simpa [Race.complete] using active.symm)
  | settled => exact Or.inl (by simpa [Race.complete] using active.symm)

theorem FailureMove.touches {proxy result : Proxy n} {node : Fin n}
    (move : FailureMove proxy node result) (active : proxy.race.state ≠ .idle) :
    result.race.state ≠ proxy.race.state ∨
      result.race.responsesPending ≠ proxy.race.responsesPending := by
  cases move with
  | counted =>
      refine Or.inr ?_
      change proxy.race.responsesPending - 1 ≠ _
      omega
  | ended => exact Or.inl (by simpa [Race.complete] using active.symm)
  | closed => exact Or.inl (by simpa [Race.complete] using active.symm)

/-- A delivery while a request is raced changes its race, whatever it was sent for. -/
theorem not_untouched_of_active (env : Env) {proxy : Proxy n} {event : Event n}
    (wellFormed : WellFormed proxy) {node : Fin n} {slot : Fin 2}
    (delivers : Delivers proxy event node slot) (active : proxy.race.state ≠ .idle) :
    ¬ Untouched proxy (step env proxy event) := by
  obtain ⟨⟨connEvent, results, rfl⟩, upcall⟩ := delivers
  have move := step_move env proxy (.conn node slot connEvent results) wellFormed
  generalize step env proxy (.conn node slot connEvent results) = result at move
  intro untouched
  have unchanged : ¬ (result.race.state ≠ proxy.race.state ∨
      result.race.responsesPending ≠ proxy.race.responsesPending) := fun touched =>
    touched.elim (· untouched.state_eq) (· untouched.pending_eq)
  cases move with
  | ignored _ _ unheard => simp [unheard] at upcall
  | moved _ _ _ _ outcome out silent => simp [upcallOf, out, silent] at upcall
  | connected _ _ _ _ outcome out established => simp [upcallOf, out, established] at upcall
  | lateResponse _ _ _ _ _ _ _ _ _ idle => exact active idle
  | response _ _ _ _ chunk _ _ _ _ _ result move =>
      exact unchanged (ResponseMove.touches move active)
  | lateError _ _ _ _ _ _ idle => exact active idle
  | error _ _ _ _ _ _ _ result move =>
      cases move with
      | retried retryable =>
          have retried := congrFun untouched.retried_eq node
          have first : proxy.race.nodeRetried node = false := retryable.1
          simp [retrial, swapOnError, first] at retried
      | twice already result failure =>
          have touched := FailureMove.touches failure active
          exact unchanged touched
      | lost first final result failure =>
          have touched := FailureMove.touches failure active
          exact unchanged touched

/-- A step isolates a newer race exactly when it is no late delivery into it. -/
theorem isolated_iff (env : Env) {proxy : Proxy n} (event : Event n)
    (wellFormed : WellFormed proxy) :
    Isolated env proxy event ↔
      ∀ node slot, Delivers proxy event node slot → Draining proxy node slot →
        proxy.race.state = .idle := by
  constructor
  · intro isolated node slot delivers draining
    by_contra active
    exact not_untouched_of_active env wellFormed delivers active
      (isolated node slot delivers draining active)
  · intro noLate node slot delivers draining active
    exact absurd (noLate node slot delivers draining) active

/-! ## Runs -/

/-- A request is passed to dispatch only when no slot has a request in flight. -/
def QuietAcceptance (env : Env) (proxy : Proxy n) (event : Event n) : Prop :=
  acceptedMethod env proxy event ≠ none →
    ∀ node slot, (proxy.slot node slot).inFlight = false

instance (env : Env) (proxy : Proxy n) (event : Event n) :
    Decidable (QuietAcceptance env proxy event) :=
  inferInstanceAs (Decidable (_ → _))

/-- Every busy slot works for the latest request. -/
structure Undivided (proxy : Proxy n) : Prop extends WellFormed proxy where
  current : ∀ node slot, (proxy.slot node slot).inFlight = true → Current proxy node slot

theorem step_undivided (env : Env) (proxy : Proxy n) (event : Event n)
    (undivided : Undivided proxy) (quiet : QuietAcceptance env proxy event) :
    Undivided (step env proxy event) where
  toWellFormed := step_wellFormed env proxy event undivided.toWellFormed
  current node slot busy := by
    rcases step_busy_cases env event undivided.toWellFormed busy with current | ⟨wasBusy, kept⟩
    · exact current
    · -- a slot that stays busy across an acceptance would have been seen busy by the guard
      have waiting : acceptedMethod env proxy event = none := by
        by_contra accepted
        rw [quiet accepted node slot] at wasBusy
        contradiction
      rw [Current, kept, step_requestPast env event undivided.toWellFormed waiting]
      exact undivided.current node slot wasBusy

theorem Undivided.not_draining {proxy : Proxy n} (undivided : Undivided proxy)
    (node : Fin n) (slot : Fin 2) :
    ¬ Draining proxy node slot := by
  rintro ⟨busy, earlier⟩
  have current := undivided.current node slot busy
  rw [← requestNo_requestPast, current, requestNo_requestPast] at earlier
  exact lt_irrefl _ earlier

theorem rpcProxyCreate_undivided (boot : Boot n) : Undivided (rpcProxyCreate boot) where
  toWellFormed := rpcProxyCreate_wellFormed boot
  current node slot busy := by
    rw [rpcProxyCreate_quiet] at busy
    contradiction

/--
If requests are accepted only once nothing is in flight, no late delivery
reaches the race of a newer request: each one either works for the request
that is raced, or finds the proxy idle and leaves everything as it is.
-/
theorem isolated_of_quietAcceptance (env : Env) (boot : Boot n) (events : List (Event n))
    (guarded : Along (step env) (QuietAcceptance env) (rpcProxyCreate boot) events) :
    Along (step env)
      (fun proxy event =>
        Isolated env proxy event ∧
          ∀ node slot, Delivers proxy event node slot →
            proxy.race.state ≠ .idle ∧
                requestNo (startPast node slot proxy.trace) = requestNo proxy.trace ∨
              proxy.race.state = .idle ∧ Untouched proxy (step env proxy event))
      (rpcProxyCreate boot) events := by
  refine along_of_along (step_undivided env) ?_ (rpcProxyCreate_undivided boot) guarded
  intro proxy event undivided _
  refine ⟨fun node slot _ draining => absurd draining (undivided.not_draining node slot), ?_⟩
  intro node slot delivers
  by_cases idle : proxy.race.state = .idle
  · exact Or.inr ⟨idle, untouched_of_idle env undivided.toWellFormed delivers idle⟩
  · refine Or.inl ⟨idle, ?_⟩
    have current := undivided.current node slot delivers.busy
    rw [← requestNo_requestPast, current, requestNo_requestPast]

/-- A first race whose loser answers before the second request comes in. -/
def separateRaces : List (Event 2) :=
  [clientConnects, clientSends addressRequest,
    slotWrites 0 0 1000, slotWrites 1 0 1000,
    slotReads 0 0 doneResponse [.accepted 1000],
    slotReads 1 0 doneResponse [.accepted 1000],
    clientSends gbtRequest,
    slotWrites 0 0 1000, slotReads 0 0 (templateResponse "1") [.accepted 1000]]

theorem isolated_of_quietAcceptance_separateRaces :
    Along (step exampleEnv) (QuietAcceptance exampleEnv) (rpcProxyCreate (exampleBoot 2))
        separateRaces ∧
      Along (step exampleEnv)
        (fun proxy event =>
          Isolated exampleEnv proxy event ∧
            ∀ node slot, Delivers proxy event node slot →
              proxy.race.state ≠ .idle ∧
                  requestNo (startPast node slot proxy.trace) = requestNo proxy.trace ∨
                proxy.race.state = .idle ∧ Untouched proxy (step exampleEnv proxy event))
        (rpcProxyCreate (exampleBoot 2)) separateRaces :=
  have guarded : Along (step exampleEnv) (QuietAcceptance exampleEnv)
      (rpcProxyCreate (exampleBoot 2)) separateRaces := by
    decide +kernel
  ⟨guarded, isolated_of_quietAcceptance exampleEnv (exampleBoot 2) separateRaces guarded⟩

/-! ## Two overlapping races -/

/--
Two nodes race for a first request.  Node zero wins, and node one still owes
its answer when a second request is accepted.
-/
def overlappingRaces : List (Event 2) :=
  [clientConnects, clientSends addressRequest,
    slotWrites 0 0 1000, slotWrites 1 0 1000,
    slotReads 0 0 doneResponse [.accepted 1000],
    clientSends gbtRequest]

/-- The late answer of node one to the first request. -/
def lateAnswer : Event 2 :=
  slotReads 1 0 doneResponse [.accepted 1000]

/-- The late answer is counted as an answer to the second request and ends its race. -/
theorem lateAnswer_not_isolated :
    ¬ Along (step exampleEnv) (Isolated exampleEnv) (rpcProxyCreate (exampleBoot 2))
      (overlappingRaces ++ [lateAnswer]) := by
  intro isolated
  have facts :
      upcallOf (exampleRun 2 overlappingRaces) lateAnswer = some .response ∧
        ((exampleRun 2 overlappingRaces).slot 1 0).inFlight = true ∧
        requestNo (startPast 1 0 (exampleRun 2 overlappingRaces).trace) <
          requestNo (exampleRun 2 overlappingRaces).trace ∧
        (exampleRun 2 overlappingRaces).race.state ≠ .idle ∧
        (step exampleEnv (exampleRun 2 overlappingRaces) lateAnswer).race.state ≠
          (exampleRun 2 overlappingRaces).race.state := by
    decide +kernel
  obtain ⟨response, busy, earlier, active, ended⟩ := facts
  have late : Isolated exampleEnv (exampleRun 2 overlappingRaces) lateAnswer :=
    along_iff.mp isolated overlappingRaces lateAnswer [] rfl
  have delivers : Delivers (exampleRun 2 overlappingRaces) lateAnswer 1 0 :=
    ⟨⟨_, _, rfl⟩, Or.inl response⟩
  exact ended (late 1 0 delivers ⟨busy, earlier⟩ active).state_eq

end RpcRace.DrainIsolation
