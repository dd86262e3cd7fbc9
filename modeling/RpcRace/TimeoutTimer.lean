import RpcRace.Outcomes

/-!
# The timeout timer

After an early transition to idle the timer of the finished race stays, as a
safety net for the connections that still drain.  If the next request comes
before they are drained, `start_rpc_timeout` overwrites `rpc_timeout_timer_fd`
and the old timer is forgotten, still registered.  It then fires into a race
that it was not started for.

A timer can also be called before its time.  If it gets the number of a
descriptor that was closed in the same batch of events, an event that was meant
for that descriptor reaches it.  `ownTimer_of_freeTimer` says that a free timer
field at every acceptance is enough to exclude the first, and with it that every
call is made for a timer that has expired is enough to exclude both.
-/

namespace RpcRace.TimeoutTimer

open RpcRace.Library.CString
open RpcRace.Library.Run
open RpcRace.RpcConn
open RpcRace.JsonResponse
open RpcRace.RpcProxy
open RpcRace.Dispatch
open RpcRace.RaceMoves
open RpcRace.ProxyMoves
open RpcRace.SlotMoves
open RpcRace.Requests
open RpcRace.ClientMoves
open RpcRace.Outcomes

variable {n : Nat}

/-! ## Histories -/

/-- This timer was started. -/
def startsTimer (fd : Nat) : Effect n → Bool
  | .timerStarted other => other = fd
  | _ => false

/-- The history before a timer was started. -/
def timerPast (fd : Nat) : List (Effect n) → List (Effect n)
  | [] => []
  | effect :: past => if startsTimer fd effect then past else timerPast fd past

/-- When the latest request was accepted. -/
def requestTime (trace : List (Effect n)) : Nat :=
  match requestPast trace with
  | .requestAccepted _ _ _ time :: _ => time
  | _ => 0

/-- At most one timer is registered, and it is the one the proxy knows. -/
structure OwnTimer (proxy : Proxy n) : Prop where
  single : proxy.timers.length ≤ 1
  known : ∀ timer ∈ proxy.timers, proxy.rpcTimeoutTimerFd = some timer.fd

/-- The timer for which the event loop calls `rpc_timeout_cb`. -/
def calledTimer (proxy : Proxy n) : Event n → Option Nat
  | .timeout fd _ => if timerRegistered proxy fd then some fd else none
  | _ => none

/--
`rpc_timeout_cb` is called during a race only for the timer that was started for
its request, and not before `rpc_timeout_ms` have elapsed since the request was
accepted.
-/
def OwnExpiry (env : Env) (proxy : Proxy n) (event : Event n) : Prop :=
  proxy.race.state ≠ .idle → ∀ fd ∈ calledTimer proxy event,
    requestPast (timerPast fd proxy.trace) = requestPast proxy.trace ∧
      requestTime proxy.trace + env.rpcTimeoutMs ≤ proxy.now

/-- The effects that the histories above look at. -/
def isClockMark : Effect n → Bool
  | .requestAccepted _ _ _ _ => true
  | .timerStarted _ => true
  | _ => false

section Unmarked

variable {added : List (Effect n)} (unmarked : ∀ effect ∈ added, isClockMark effect = false)

include unmarked

theorem requestPast_unmarked (trace : List (Effect n)) :
    requestPast (added ++ trace) = requestPast trace := by
  apply requestPast_append
  intro effect member
  have other := unmarked effect member
  cases effect with
  | requestAccepted => simp [isClockMark] at other
  | _ => rfl

theorem timerPast_unmarked (fd : Nat) (trace : List (Effect n)) :
    timerPast fd (added ++ trace) = timerPast fd trace := by
  induction added with
  | nil => rfl
  | cons effect rest induction =>
      have first := unmarked effect List.mem_cons_self
      have other : startsTimer fd effect = false := by
        cases effect with
        | timerStarted => simp [isClockMark] at first
        | _ => rfl
      rw [List.cons_append, timerPast, other]
      exact induction fun later member => unmarked later (List.mem_cons_of_mem _ member)

end Unmarked

/-! ## What one callback does to the timers -/

/-- The callbacks as seen by the timers. -/
inductive TimerMove (env : Env) (proxy : Proxy n) (event : Event n) (result : Proxy n) :
    Prop where
  | kept (added : List (Effect n)) (trace : result.trace = added ++ proxy.trace)
      (unmarked : ∀ effect ∈ added, isClockMark effect = false)
      (timers_eq : result.timers = proxy.timers)
      (fd_eq : result.rpcTimeoutTimerFd = proxy.rpcTimeoutTimerFd)
  | cancelled (rest : ∀ timer ∈ result.timers, ∃ old ∈ proxy.timers,
        old.fd = timer.fd ∧ proxy.rpcTimeoutTimerFd ≠ some old.fd)
      (fd_eq : result.rpcTimeoutTimerFd = none)
  | unstarted (accepted : acceptedMethod env proxy event ≠ none)
      (timers_eq : result.timers = proxy.timers)
      (fd_eq : result.rpcTimeoutTimerFd = proxy.rpcTimeoutTimerFd)
  | started (accepted : acceptedMethod env proxy event ≠ none) (earlier : List (Effect n))
      (chunk method : Memory)
      (trace : result.trace = .timerStarted proxy.nextFd ::
        (earlier ++ requestEffect (withChunk proxy chunk) method :: proxy.trace))
      (unmarked : ∀ effect ∈ earlier, isClockMark effect = false)
      (timers_eq : result.timers =
        ⟨proxy.nextFd, proxy.now + env.rpcTimeoutMs, true⟩ :: proxy.timers)
      (fd_eq : result.rpcTimeoutTimerFd = some proxy.nextFd)

theorem cancelRpcTimeout_fd (proxy : Proxy n) :
    (cancelRpcTimeout proxy).rpcTimeoutTimerFd = none := by
  cases fd : proxy.rpcTimeoutTimerFd <;> simp [cancelRpcTimeout, fd]

theorem mem_cancelRpcTimeout {proxy : Proxy n} {timer : Timer}
    (member : timer ∈ (cancelRpcTimeout proxy).timers) :
    timer ∈ proxy.timers ∧ proxy.rpcTimeoutTimerFd ≠ some timer.fd := by
  cases fd : proxy.rpcTimeoutTimerFd with
  | none =>
      simp only [cancelRpcTimeout, fd] at member
      exact ⟨member, by simp⟩
  | some known =>
      simp only [cancelRpcTimeout, fd, List.mem_filter, ne_eq, decide_not, Bool.not_eq_true',
        decide_eq_false_iff_not] at member
      refine ⟨member.1, ?_⟩
      intro same
      exact member.2 (Option.some.inj same).symm

/-- After a cancellation only timers are left that the proxy did not know. -/
theorem TimerMove.of_cancel {env : Env} {proxy base result : Proxy n} {event : Event n}
    (timers_eq : result.timers = (cancelRpcTimeout base).timers)
    (fd_eq : result.rpcTimeoutTimerFd = (cancelRpcTimeout base).rpcTimeoutTimerFd)
    (old : ∀ timer ∈ base.timers, ∃ old ∈ proxy.timers, old.fd = timer.fd)
    (known_eq : base.rpcTimeoutTimerFd = proxy.rpcTimeoutTimerFd) :
    TimerMove env proxy event result := by
  refine .cancelled ?_ (fd_eq.trans (cancelRpcTimeout_fd base))
  intro timer member
  rw [timers_eq] at member
  rcases mem_cancelRpcTimeout member with ⟨inBase, unknown⟩
  rcases old timer inBase with ⟨before, inProxy, same⟩
  exact ⟨before, inProxy, same, by rw [same, ← known_eq]; exact unknown⟩

theorem mem_acknowledgeTimer {timers : List Timer} {fd now : Nat} {timer : Timer}
    (member : timer ∈ acknowledgeTimer timers fd now) :
    ∃ old ∈ timers, old.fd = timer.fd := by
  rcases List.mem_map.mp member with ⟨old, inTimers, rfl⟩
  refine ⟨old, inTimers, ?_⟩
  split_ifs <;> rfl

theorem stick_timers (proxy : Proxy n) (node : Fin n) (stuck : Bool) :
    (stick proxy node stuck).timers = proxy.timers ∧
      (stick proxy node stuck).rpcTimeoutTimerFd = proxy.rpcTimeoutTimerFd := by
  cases stuck <;> exact ⟨rfl, rfl⟩

theorem ResponseMove.timer {env : Env} {proxy : Proxy n} {event : Event n} {node : Fin n}
    {slot : Fin 2} {chunk : Memory} {results : List SendResult} {result : Proxy n}
    (move : ResponseMove env proxy node slot chunk results result) :
    TimerMove env proxy event result := by
  have forwarded : ∀ inIbd stuck, ∀ effect ∈
      forwardEffect proxy node slot chunk inIbd results ::
        deliveryEffects proxy node slot chunk stuck, isClockMark effect = false := by
    intro inIbd stuck
    cases stuck <;> simp [forwardEffect, deliveryEffects, stickEffects, isClockMark]
  cases move with
  | counted race inIbd counting more unsent =>
      exact .kept (deliveryEffects proxy node slot chunk false) rfl
        (by simp [deliveryEffects, stickEffects, isClockMark]) rfl rfl
  | broadcastWon race inIbd counting more all first valid =>
      exact .kept (forwardEffect proxy node slot chunk inIbd results ::
          deliveryEffects proxy node slot chunk false)
        (forwarded_trace_eq proxy node slot chunk race inIbd false results)
        (forwarded inIbd false) rfl rfl
  | won race inIbd stuck counting more single first valid =>
      have same := stick_timers (answered proxy node slot chunk race inIbd) node stuck
      exact .kept (forwardEffect proxy node slot chunk inIbd results ::
          deliveryEffects proxy node slot chunk stuck)
        (forwarded_trace_eq proxy node slot chunk race inIbd stuck results)
        (forwarded inIbd stuck) same.1 same.2
  | ended race inIbd counting last won =>
      exact .of_cancel rfl rfl (fun timer member => ⟨timer, member, rfl⟩) rfl
  | settled race inIbd stuck counting last first =>
      have same := stick_timers (answered proxy node slot chunk race inIbd) node stuck
      refine .of_cancel rfl rfl (fun timer member => ⟨timer, ?_, rfl⟩) same.2
      rw [sendUpstreamResponseToClient_timers, same.1] at member
      exact member

theorem FailureMove.timer {env : Env} {proxy base result : Proxy n} {event : Event n}
    {node : Fin n} {earlier : List (Effect n)} (move : FailureMove base node result)
    (trace : base.trace = earlier ++ proxy.trace)
    (unmarked : ∀ effect ∈ earlier, isClockMark effect = false)
    (timers_eq : base.timers = proxy.timers)
    (fd_eq : base.rpcTimeoutTimerFd = proxy.rpcTimeoutTimerFd) :
    TimerMove env proxy event result := by
  have old : ∀ timer ∈ base.timers, ∃ old ∈ proxy.timers, old.fd = timer.fd :=
    fun timer member => ⟨timer, timers_eq ▸ member, rfl⟩
  cases move with
  | counted more =>
      refine .kept (.gaveUp node :: earlier) ?_ (List.forall_mem_cons.mpr ⟨rfl, unmarked⟩)
        timers_eq fd_eq
      rw [List.cons_append, ← trace]
      rfl
  | ended last won => exact .of_cancel rfl rfl old fd_eq
  | closed last unwon => exact .of_cancel rfl rfl old fd_eq

theorem ErrorMove.timer {env : Env} {proxy result : Proxy n} {event : Event n} {node : Fin n}
    {slot : Fin 2} (move : ErrorMove (breakage proxy node slot) node result) :
    TimerMove env proxy event result := by
  have unmarked : ∀ effect ∈ [Effect.failed node slot, .transferred node slot [] []],
      isClockMark effect = false := by
    simp [isClockMark]
  cases move with
  | retried retryable =>
      refine .kept [_, .failed node slot, .transferred node slot [] []] rfl ?_ rfl rfl
      simp [isClockMark]
  | twice already result failure => exact FailureMove.timer failure rfl unmarked rfl rfl
  | lost first final result failure => exact FailureMove.timer failure rfl unmarked rfl rfl

theorem TimeoutMove.timer {env : Env} {proxy result : Proxy n} {event : Event n} {fd : Nat}
    (move : TimeoutMove proxy fd result) :
    TimerMove env proxy event result := by
  cases move with
  | drained idle => exact .of_cancel rfl rfl (fun timer => mem_acknowledgeTimer) rfl
  | ended active won => exact .of_cancel rfl rfl (fun timer => mem_acknowledgeTimer) rfl
  | closed active unwon => exact .of_cancel rfl rfl (fun timer => mem_acknowledgeTimer) rfl

/-- Starting the timer, from the state that a dispatch leaves. -/
theorem startRpcTimeout_timer {env : Env} {proxy base : Proxy n} {event : Event n}
    {created : Bool} {chunk method : Memory} {earlier : List (Effect n)}
    (accepted : acceptedMethod env proxy event ≠ none)
    (trace : base.trace =
      earlier ++ requestEffect (withChunk proxy chunk) method :: proxy.trace)
    (unmarked : ∀ effect ∈ earlier, isClockMark effect = false)
    (timers_eq : base.timers = proxy.timers)
    (fd_eq : base.rpcTimeoutTimerFd = proxy.rpcTimeoutTimerFd)
    (next_eq : base.nextFd = proxy.nextFd) (now_eq : base.now = proxy.now) :
    TimerMove env proxy event (clearRequest (startRpcTimeout env base created)) := by
  simp only [startRpcTimeout]
  split_ifs
  · exact .unstarted accepted timers_eq fd_eq
  · refine .started accepted earlier chunk method ?_ unmarked ?_ ?_
    · change .timerStarted base.nextFd :: base.trace = _
      rw [trace, next_eq]
    · change ⟨base.nextFd, base.now + env.rpcTimeoutMs, true⟩ :: base.timers = _
      rw [next_eq, now_eq, timers_eq]
    · change some base.nextFd = _
      rw [next_eq]

theorem Acceptance.timer {env : Env} {proxy result : Proxy n} {event : Event n}
    {chunk method : Memory} {created : Bool}
    (acceptance : Acceptance env (withChunk proxy chunk) method created result)
    (accepted : acceptedMethod env proxy event ≠ none) :
    TimerMove env proxy event (clearRequest result) := by
  cases acceptance with
  | fanout race begun state pending reachable =>
      refine startRpcTimeout_timer accepted rfl ?_ rfl rfl rfl rfl
      intro effect member
      simp only [startEffects, List.mem_reverse, List.mem_map] at member
      rcases member with ⟨node, -, rfl⟩
      rfl
  | sticky race begun state pending single node stuck available =>
      refine startRpcTimeout_timer accepted
        (show _ = [.stickySent node, .started node (proxy.pairs node).activeIdx
          (withChunk proxy chunk).client.recvLen] ++ _ from rfl) ?_ rfl rfl rfl rfl
      simp [isClockMark]
  | refused race begun state => exact .unstarted accepted rfl rfl

theorem isClockMark_of_isHousekeeping {effect : Effect n}
    (quiet : isHousekeeping effect = true) :
    isClockMark effect = false := by
  cases effect with
  | requestAccepted => simp [isHousekeeping] at quiet
  | timerStarted => simp [isHousekeeping] at quiet
  | _ => rfl

/-- The drain branches leave the timers alone or cancel. -/
theorem drainSlot_timer {env : Env} {proxy base : Proxy n} {event : Event n} {node : Fin n}
    {slot : Fin 2} {earlier : List (Effect n)} (trace : base.trace = earlier ++ proxy.trace)
    (unmarked : ∀ effect ∈ earlier, isClockMark effect = false)
    (timers_eq : base.timers = proxy.timers)
    (fd_eq : base.rpcTimeoutTimerFd = proxy.rpcTimeoutTimerFd) :
    TimerMove env proxy event (drainSlot base node slot) := by
  simp only [drainSlot]
  split_ifs
  · exact .kept earlier trace unmarked timers_eq fd_eq
  · exact .of_cancel rfl rfl (fun timer member => ⟨timer, timers_eq ▸ member, rfl⟩) fd_eq

/-- Every callback acts on the timers in one of these ways. -/
theorem step_timer (env : Env) (proxy : Proxy n) (event : Event n)
    (wellFormed : WellFormed proxy) :
    TimerMove env proxy event (step env proxy event) := by
  have move := step_move env proxy event wellFormed
  generalize step env proxy event = result at move
  cases move with
  | ignored event noBytes unheard => exact .kept [] rfl (by simp) rfl rfl
  | elapsed duration => exact .kept [] rfl (by simp) rfl rfl
  | notified => exact .kept [.blockNotify] rfl (by simp [isClockMark]) rfl rfl
  | replaced registered =>
      rcases listenerCb_trace proxy registered with ⟨added, trace, aside⟩
      refine .kept added trace
        (fun effect member => isClockMark_of_isHousekeeping (aside effect member)) ?_ ?_
      · simp only [listenerCb]
        split_ifs <;> rfl
      · simp only [listenerCb]
        split_ifs <;> rfl
  | hungUp event connected noBytes =>
      exact .kept [.closeClient proxy.client.target false] rfl (by simp [isClockMark]) rfl rfl
  | stored event chunk bytes waiting => exact .kept [] rfl (by simp) rfl rfl
  | dropped event chunk bytes waiting => exact .kept [] rfl (by simp) rfl rfl
  | request event chunk method result bytes accepted idle nonempty acceptance =>
      exact Acceptance.timer acceptance (by simp [accepted])
  | moved node slot event results outcome out silent =>
      exact .kept [.transferred node slot outcome.written outcome.received] rfl
        (by simp [isClockMark]) rfl rfl
  | connected node slot event results outcome out upcall =>
      exact .kept
        [.established node slot, .transferred node slot outcome.written outcome.received] rfl
        (by simp [isClockMark]) rfl rfl
  | lateResponse node slot event results chunk nonempty out receiving complete idle =>
      exact drainSlot_timer
        (show (delivery proxy node slot chunk).trace =
          deliveryEffects proxy node slot chunk false ++ proxy.trace from rfl)
        (by simp [deliveryEffects, stickEffects, isClockMark]) rfl rfl
  | response node slot event results chunk nonempty out receiving complete active result move =>
      exact ResponseMove.timer move
  | lateError node slot event results out busy idle =>
      exact drainSlot_timer
        (show (breakage proxy node slot).trace =
          [.failed node slot, .transferred node slot [] []] ++ proxy.trace from rfl)
        (by simp [isClockMark]) rfl rfl
  | error node slot event results out busy active result move => exact ErrorMove.timer move
  | rotated node result =>
      rcases rotationEvent_trace proxy node result with ⟨added, trace, aside⟩
      refine .kept added trace
        (fun effect member => isClockMark_of_isHousekeeping (aside effect member)) ?_ ?_
      · simp only [rotationEvent]
        split_ifs <;> rfl
      · simp only [rotationEvent]
        split_ifs <;> rfl
  | expired fd results registered result move => exact TimeoutMove.timer move

/-! ## The invariant -/

/-- A request is accepted only when no timer is left from an earlier one. -/
def FreeTimer (env : Env) (proxy : Proxy n) (event : Event n) : Prop :=
  acceptedMethod env proxy event ≠ none → proxy.rpcTimeoutTimerFd = none

instance (env : Env) (proxy : Proxy n) (event : Event n) :
    Decidable (FreeTimer env proxy event) :=
  inferInstanceAs (Decidable (_ → _))

/-- `rpc_timeout_cb` ran for this timer at this time. -/
def expiredAt (fd time : Nat) : Effect n → Bool
  | .timerExpired other moment => other = fd && moment = time
  | _ => false

/-- `rpc_timeout_cb` is called only for a timer that has expired. -/
def GenuineExpiry (proxy : Proxy n) (event : Event n) : Prop :=
  ∀ fd ∈ calledTimer proxy event, timerDue proxy fd = true

instance (proxy : Proxy n) (event : Event n) : Decidable (GenuineExpiry proxy event) :=
  inferInstanceAs (Decidable (∀ fd ∈ calledTimer proxy event, _))

/-- Every registered timer is known and belongs to the latest request. -/
structure Clocked (env : Env) (proxy : Proxy n) : Prop where
  wellFormed : WellFormed proxy
  single : proxy.timers.length ≤ 1
  known : ∀ timer ∈ proxy.timers, proxy.rpcTimeoutTimerFd = some timer.fd
  own : ∀ timer ∈ proxy.timers,
    requestPast (timerPast timer.fd proxy.trace) = requestPast proxy.trace ∧
      requestTime proxy.trace + env.rpcTimeoutMs ≤ timer.deadline

theorem Clocked.ownTimer {env : Env} {proxy : Proxy n} (clocked : Clocked env proxy) :
    OwnTimer proxy :=
  ⟨clocked.single, clocked.known⟩

/-- A timer that has expired was started for the latest request, long enough ago. -/
theorem Clocked.ownExpiry {env : Env} {proxy : Proxy n} {event : Event n}
    (clocked : Clocked env proxy) (genuine : GenuineExpiry proxy event) :
    OwnExpiry env proxy event := by
  intro _ fd called
  have due := genuine fd called
  simp only [timerDue, List.any_eq_true, Bool.and_eq_true, decide_eq_true_eq] at due
  rcases due with ⟨timer, member, ⟨same, -⟩, passed⟩
  have own := clocked.own timer member
  rw [same] at own
  exact ⟨own.1, own.2.trans passed⟩

theorem Clocked.timers_eq_nil {env : Env} {proxy : Proxy n} (clocked : Clocked env proxy)
    (free : proxy.rpcTimeoutTimerFd = none) :
    proxy.timers = [] := by
  apply List.eq_nil_iff_forall_not_mem.mpr
  intro timer member
  have known := clocked.known timer member
  rw [free] at known
  contradiction

/-- Without timers there is nothing to say about them. -/
theorem clocked_of_nil {env : Env} {proxy : Proxy n} (wellFormed : WellFormed proxy)
    (empty : proxy.timers = []) :
    Clocked env proxy := by
  refine ⟨wellFormed, ?_, ?_, ?_⟩ <;> simp [empty]

theorem requestTime_eq {first second : List (Effect n)}
    (same : requestPast first = requestPast second) :
    requestTime first = requestTime second := by
  rw [requestTime, requestTime, same]

theorem step_clocked (env : Env) (proxy : Proxy n) (event : Event n)
    (clocked : Clocked env proxy) (guarded : FreeTimer env proxy event) :
    Clocked env (step env proxy event) := by
  have wellFormed := step_wellFormed env proxy event clocked.wellFormed
  have move := step_timer env proxy event clocked.wellFormed
  generalize step env proxy event = result at move wellFormed
  cases move with
  | kept added trace unmarked timers_eq fd_eq =>
      have past_eq : requestPast result.trace = requestPast proxy.trace := by
        rw [trace, requestPast_unmarked unmarked]
      refine ⟨wellFormed, ?_, ?_, ?_⟩
      · rw [timers_eq]
        exact clocked.single
      · rw [timers_eq, fd_eq]
        exact clocked.known
      · rw [timers_eq, past_eq, requestTime_eq past_eq]
        intro timer member
        rw [trace, timerPast_unmarked unmarked]
        exact clocked.own timer member
  | cancelled rest fd_eq =>
      apply clocked_of_nil wellFormed
      apply List.eq_nil_iff_forall_not_mem.mpr
      intro timer member
      rcases rest timer member with ⟨old, inProxy, -, unknown⟩
      exact unknown (clocked.known old inProxy)
  | unstarted accepted timers_eq fd_eq =>
      apply clocked_of_nil wellFormed
      rw [timers_eq]
      exact clocked.timers_eq_nil (guarded accepted)
  | started accepted earlier chunk method trace unmarked timers_eq fd_eq =>
      have empty := clocked.timers_eq_nil (guarded accepted)
      rw [empty] at timers_eq
      have past_eq : requestPast result.trace =
          requestEffect (withChunk proxy chunk) method :: proxy.trace := by
        rw [trace]
        exact requestPast_unmarked unmarked _
      refine ⟨wellFormed, ?_, ?_, ?_⟩
      · rw [timers_eq]
        exact le_rfl
      · rw [timers_eq, fd_eq]
        simp
      · rw [timers_eq]
        intro timer member
        rcases List.mem_singleton.mp member with rfl
        constructor
        · rw [trace, timerPast, if_pos (by simp [startsTimer]), ← trace, past_eq]
          exact requestPast_unmarked unmarked _
        · rw [requestTime, past_eq]
          exact le_rfl

theorem rpcProxyCreate_clocked (env : Env) (boot : Boot n) : Clocked env (rpcProxyCreate boot) :=
  clocked_of_nil (rpcProxyCreate_wellFormed boot) rfl

/-! ## Runs -/

/--
If the timer of each request is gone before the next one is accepted, and
`rpc_timeout_cb` is called only for a timer that has expired, then there is
never more than one timer, and no race is timed out by another timer than its
own or before its time.
-/
theorem ownTimer_of_freeTimer (env : Env) (boot : Boot n) (events : List (Event n))
    (free : Along (step env) (FreeTimer env) (rpcProxyCreate boot) events)
    (genuine : Along (step env) GenuineExpiry (rpcProxyCreate boot) events) :
    Throughout (step env) OwnTimer (rpcProxyCreate boot) events ∧
      Along (step env) (OwnExpiry env) (rpcProxyCreate boot) events := by
  have start := rpcProxyCreate_clocked env boot
  constructor
  · apply Throughout.mono fun proxy (clocked : Clocked env proxy) => clocked.ownTimer
    exact throughout_of_along (step_clocked env) start free
  · exact along_of_along
      (fun proxy event clocked guarded => step_clocked env proxy event clocked guarded.1)
      (fun proxy event (clocked : Clocked env proxy) guarded => clocked.ownExpiry guarded.2)
      start (free.and genuine)

/--
A first race is drained by a late answer before the next request is accepted;
the second race runs into its own timeout.
-/
def drainedThenTimedOut : List (Event 2) :=
  [clientConnects, clientSends addressRequest,
    slotWrites 0 0 1000, slotWrites 1 0 1000,
    slotReads 0 0 doneResponse [.accepted 1000],
    .elapse 20000,
    slotReads 1 0 doneResponse [.accepted 1000],
    clientSends addressRequest,
    .elapse 30000, .timeout 6 []]

theorem ownTimer_of_freeTimer_drainedThenTimedOut :
    Along (step exampleEnv) (FreeTimer exampleEnv) (rpcProxyCreate (exampleBoot 2))
        drainedThenTimedOut ∧
      Along (step exampleEnv) GenuineExpiry (rpcProxyCreate (exampleBoot 2))
        drainedThenTimedOut ∧
      (exampleRun 2 drainedThenTimedOut).trace.any (expiredAt 6 50000) = true ∧
      Throughout (step exampleEnv) OwnTimer (rpcProxyCreate (exampleBoot 2))
        drainedThenTimedOut ∧
      Along (step exampleEnv) (OwnExpiry exampleEnv) (rpcProxyCreate (exampleBoot 2))
        drainedThenTimedOut := by
  have facts :
      Along (step exampleEnv) (FreeTimer exampleEnv) (rpcProxyCreate (exampleBoot 2))
          drainedThenTimedOut ∧
        Along (step exampleEnv) GenuineExpiry (rpcProxyCreate (exampleBoot 2))
          drainedThenTimedOut ∧
        (exampleRun 2 drainedThenTimedOut).trace.any (expiredAt 6 50000) = true := by
    decide +kernel
  exact ⟨facts.1, facts.2.1, facts.2.2, ownTimer_of_freeTimer exampleEnv (exampleBoot 2)
    drainedThenTimedOut facts.1 facts.2.1⟩

/--
The first timer expires, and its event is collected together with the late
answer that closes it and the next request.  The next timer gets its number.
-/
def staleExpiry : List (Event 2) :=
  [clientConnects, clientSends addressRequest,
    slotWrites 0 0 1000, slotWrites 1 0 1000,
    slotReads 0 0 doneResponse [.accepted 1000],
    .elapse 30000,
    slotReads 1 0 doneResponse [.accepted 1000],
    clientSends addressRequest]

-- The second race is timed out in the moment in which it begins.
example :
    Along (step exampleEnv) (FreeTimer exampleEnv) (rpcProxyCreate (exampleBoot 2))
        (staleExpiry ++ [.timeout 6 []]) ∧
      (exampleRun 2 staleExpiry).race.state = .fanout ∧
      requestTime (exampleRun 2 staleExpiry).trace = (exampleRun 2 staleExpiry).now ∧
      (exampleRun 2 (staleExpiry ++ [.timeout 6 []])).race.state = .idle := by
  decide +kernel

/-! ## A forgotten timer -/

/--
The client is answered by the first node, and the timer stays for the second.
After 20 seconds the client asks again, and 10 seconds later the first timer
expires.
-/
def forgottenTimer : List (Event 2) :=
  [clientConnects, clientSends addressRequest,
    slotWrites 0 0 1000, slotWrites 1 0 1000,
    slotReads 0 0 doneResponse [.accepted 1000],
    .elapse 20000,
    clientSends addressRequest,
    .elapse 10000]

theorem not_ownTimer_of_unknown {proxy : Proxy n} (unknown : proxy.rpcTimeoutTimerFd = none)
    (left : proxy.timers ≠ []) :
    ¬ OwnTimer proxy := by
  intro own
  rcases List.exists_mem_of_ne_nil _ left with ⟨timer, member⟩
  have known := own.known timer member
  rw [unknown] at known
  contradiction

/-- A race that is timed out too early. -/
theorem not_ownExpiry_of_early {env : Env} {proxy : Proxy n} {event : Event n} {fd : Nat}
    (active : proxy.race.state ≠ .idle) (called : calledTimer proxy event = some fd)
    (early : proxy.now < requestTime proxy.trace + env.rpcTimeoutMs) :
    ¬ OwnExpiry env proxy event := by
  intro own
  have passed := (own active fd called).2
  omega

/--
Two timers are registered, and the race of the second request is timed out
after a third of its time, by a timer that has expired.
-/
theorem forgottenTimer_not_ownTimer :
    Along (step exampleEnv) GenuineExpiry (rpcProxyCreate (exampleBoot 2))
        (forgottenTimer ++ [.timeout 5 []]) ∧
      ¬ Throughout (step exampleEnv) OwnTimer (rpcProxyCreate (exampleBoot 2))
        (forgottenTimer ++ [.timeout 5 []]) ∧
      ¬ Along (step exampleEnv) (OwnExpiry exampleEnv) (rpcProxyCreate (exampleBoot 2))
        (forgottenTimer ++ [.timeout 5 []]) := by
  have facts :
      Along (step exampleEnv) GenuineExpiry (rpcProxyCreate (exampleBoot 2))
          (forgottenTimer ++ [.timeout 5 []]) ∧
        (exampleRun 2 (forgottenTimer ++ [.timeout 5 []])).rpcTimeoutTimerFd = none ∧
        (exampleRun 2 (forgottenTimer ++ [.timeout 5 []])).timers ≠ [] ∧
        (exampleRun 2 forgottenTimer).race.state ≠ .idle ∧
        calledTimer (exampleRun 2 forgottenTimer) (.timeout 5 []) = some 5 ∧
        (exampleRun 2 forgottenTimer).now <
          requestTime (exampleRun 2 forgottenTimer).trace + exampleEnv.rpcTimeoutMs := by
    decide +kernel
  rcases facts with ⟨genuine, unknown, left, active, called, early⟩
  constructor
  · exact genuine
  constructor
  · intro own
    have last : OwnTimer (exampleRun 2 (forgottenTimer ++ [.timeout 5 []])) := throughout_end own
    exact not_ownTimer_of_unknown unknown left last
  · intro own
    have expiry : OwnExpiry exampleEnv (exampleRun 2 forgottenTimer) (.timeout 5 []) :=
      along_iff.mp own forgottenTimer (.timeout 5 []) [] rfl
    exact not_ownExpiry_of_early active called early expiry

end RpcRace.TimeoutTimer
