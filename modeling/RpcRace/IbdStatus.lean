import RpcRace.Requests
import RpcRace.SlotSwaps

/-!
# The initial block download of a node

A node that answers a `getblocktemplate` race with error -10 is still
downloading blocks, and one that answers with a template is not.  The proxy
keeps the last such answer in the slot that delivered it, and reads it from
the slot that is active later.

`WatchedProxy` puts the answers of each node beside the proxy.  The flag that
`rpc_proxy_is_node_ibd` reads is the last answer, exactly if the standby holds
the last answer, too, whenever a callback makes it active
(`truthful_iff_flagsAgree`).
-/

namespace RpcRace.IbdStatus

open RpcRace.Library.CString
open RpcRace.Library.Run
open RpcRace.RpcConn
open RpcRace.ConnectionPair
open RpcRace.JsonResponse
open RpcRace.PairMoves
open RpcRace.RpcProxy
open RpcRace.Dispatch
open RpcRace.RaceMoves
open RpcRace.ProxyMoves
open RpcRace.SlotMoves
open RpcRace.Requests
open RpcRace.SlotSwaps

variable {n : Nat}

/-! ## Answers -/

/-- `rpc_proxy_is_node_ibd`. -/
def rpcProxyIsNodeIbd (proxy : Proxy n) (node : Fin n) : Bool :=
  (proxy.active node).inIbd

/-- What a response to the race says about the node: error -10, success, or neither. -/
def verdict (env : Env) (race : Race n) (conn : UpstreamConn) : Option Bool :=
  if race.isGbtRace then
    if responseIsError env.yyjsonRead conn then
      if parseRpcErrorCode env.yyjsonRead conn = -10 then some true else none
    else some false
  else none

/-- The answer of a node that a callback processes, if it processes one. -/
def report (env : Env) (proxy : Proxy n) (event : Event n) (node : Fin n) : Option Bool :=
  match event with
  | .conn other slot connEvent _ =>
      if other = node ∧ proxy.race.state ≠ .idle then
        (connOutcome proxy other slot connEvent).bind fun outcome =>
          if outcome.upcall = some .response then verdict env proxy.race outcome.conn else none
      else none
  | _ => none

/-- The proxy and, for each node, its answers so far, newest first. -/
structure WatchedProxy (n : Nat) where
  proxy : Proxy n
  reports : Fin n → List Bool

/-- One callback, with the answer it processes. -/
def watchedStep (env : Env) (watched : WatchedProxy n) (event : Event n) : WatchedProxy n where
  proxy := step env watched.proxy event
  reports node := (report env watched.proxy event node).toList ++ watched.reports node

/-- A new proxy, which has heard of no node. -/
def watchedCreate (boot : Boot n) : WatchedProxy n :=
  ⟨rpcProxyCreate boot, fun _ => []⟩

/-- The answers are only watched: the proxy does what it does without them. -/
theorem run_watchedStep_proxy (env : Env) (watched : WatchedProxy n) (events : List (Event n)) :
    (run (watchedStep env) watched events).proxy = run (step env) watched.proxy events := by
  induction events generalizing watched with
  | nil => rfl
  | cons event rest induction => exact induction (watchedStep env watched event)

/-- A node counts as downloading exactly if it has answered and its last answer said so. -/
def Truthful (watched : WatchedProxy n) : Prop :=
  ∀ node, rpcProxyIsNodeIbd watched.proxy node = true ↔
    (watched.reports node).head? = some true

instance (watched : WatchedProxy n) : Decidable (Truthful watched) :=
  inferInstanceAs (Decidable (∀ _, _))

/--
Before a callback that swaps the slots of a node, the standby has the flag of
the answer that the callback processes, or else the flag of the active slot.
-/
def FlagsAgree (env : Env) (watched : WatchedProxy n) (event : Event n) : Prop :=
  ∀ node, Swaps watched.proxy event node →
    (watched.proxy.slot node (watched.proxy.pairs node).standbyIdx).inIbd =
      (report env watched.proxy event node).getD (rpcProxyIsNodeIbd watched.proxy node)

/-! ## Flags -/

@[simp]
theorem rpcConnReset_inIbd (conn : UpstreamConn) : (rpcConnReset conn).inIbd = conn.inIbd := by
  unfold rpcConnReset
  split_ifs <;> rfl

/-- `conn_epoll_cb` leaves the flag alone. -/
theorem ConnMove.inIbd_eq {shared : Memory} {conn : UpstreamConn} {outcome : ConnOutcome}
    (move : ConnMove shared conn outcome) :
    outcome.conn.inIbd = conn.inIbd := by
  cases move with
  | read => exact absorb_inIbd conn _
  | readAll => exact absorb_inIbd conn _
  | _ => rfl

theorem refreshed_inIbd {pair : ConnPair} (refreshable : pair.standbyRefreshable = true)
    (result : ConnectResult) (fd : Nat) :
    (rpcConnConnect pair.closedStandby result fd).1.inIbd =
      (pair.slots pair.standbyIdx).inIbd := by
  have closed : pair.closedStandby.inIbd = (pair.slots pair.standbyIdx).inIbd := by
    unfold ConnPair.closedStandby
    dsimp only
    split_ifs <;> rfl
  rw [refreshed_eq refreshable]
  cases result <;> exact closed

/-- The flags of all slots. -/
def flags (proxy : Proxy n) (node : Fin n) (slot : Fin 2) : Bool :=
  (proxy.slot node slot).inIbd

/-- A slot that changes but keeps its flag. -/
theorem flags_setSlot {proxy : Proxy n} {node : Fin n} {slot : Fin 2} {conn : UpstreamConn}
    (same : conn.inIbd = (proxy.slot node slot).inIbd) :
    flags (proxy.setSlot node slot conn) = flags proxy := by
  ext other index
  unfold flags
  rw [setSlot_slot]
  split_ifs with equal
  · rw [same, equal.1, equal.2]
  · rfl

theorem flags_setPair {proxy : Proxy n} {node : Fin n} {pair : ConnPair}
    (same : ∀ slot, (pair.slots slot).inIbd = (proxy.slot node slot).inIbd) :
    flags (proxy.setPair node pair) = flags proxy := by
  ext other slot
  unfold flags
  rw [setPair_slot]
  split_ifs with equal
  · rw [same, equal]
  · rfl

theorem flags_raceComplete (proxy : Proxy n) : flags (raceComplete proxy) = flags proxy := by
  ext node slot
  unfold flags
  rcases raceComplete_slot proxy node slot with same | reset
  · rw [same]
  · rw [reset, rpcConnReset_inIbd]

theorem flags_drainSlot (proxy : Proxy n) (node : Fin n) (slot : Fin 2) :
    flags (drainSlot proxy node slot) = flags proxy := by
  have same := flags_setSlot (rpcConnReset_inIbd (proxy.slot node slot))
  ext other index
  rw [← same]
  unfold flags Proxy.slot
  rw [drainSlot_pairs]
  rfl

theorem flags_resetInFlight (proxy : Proxy n) (node : Fin n) (slot : Fin 2) :
    flags (resetInFlight proxy node slot) = flags proxy := by
  unfold resetInFlight
  split_ifs
  · exact flags_setSlot (rpcConnReset_inIbd _)
  · rfl

theorem flags_earlyIdle (proxy : Proxy n) (winner node : Fin n) (slot : Fin 2) :
    flags (earlyIdle proxy winner node slot) = flags proxy := by
  unfold earlyIdle
  dsimp only
  split_ifs
  · rw [flags_resetInFlight, flags_resetInFlight]
    rfl
  · rw [flags_resetInFlight]
    rfl

theorem flags_settleWithoutWinner (proxy : Proxy n) (isGbtRace : Bool)
    (results : List SendResult) :
    flags (settleWithoutWinner proxy isGbtRace results) = flags proxy := by
  unfold settleWithoutWinner
  split
  · split_ifs <;> rfl
  · split
    · rfl
    · split_ifs <;> rfl

/-- The end of `on_upstream_response` leaves all flags alone. -/
theorem flags_finishResponse (proxy : Proxy n) (node : Fin n) (slot : Fin 2) (isGbtRace : Bool)
    (results : List SendResult) :
    flags (finishResponse proxy node slot isGbtRace results) = flags proxy := by
  unfold finishResponse
  split_ifs
  · rw [flags_raceComplete, flags_settleWithoutWinner]
  · exact flags_raceComplete proxy
  · split
    · exact flags_earlyIdle proxy _ node slot
    · rfl

/-- A judgement notes the verdict of the response in its slot, if it has one. -/
theorem judgeResponse_inIbd (env : Env) (race : Race n) (conn : UpstreamConn) (node : Fin n) :
    (judgeResponse env race.countDown conn node).inIbd =
      (verdict env race conn).getD conn.inIbd := by
  have gbt_eq : race.countDown.isGbtRace = race.isGbtRace := rfl
  unfold judgeResponse verdict
  rw [gbt_eq]
  cases error : responseIsError env.yyjsonRead conn with
  | true =>
      simp only [if_true, judgeError, gbt_eq]
      cases gbt : race.isGbtRace with
      | false => simp
      | true =>
          by_cases code : parseRpcErrorCode env.yyjsonRead conn = -10
          · simp [code]
          · simp [code]
  | false =>
      cases gbt : race.isGbtRace with
      | false =>
          simp only [Bool.false_eq_true, if_false, judgeGeneric]
          split_ifs <;> rfl
      | true =>
          simp only [Bool.false_eq_true, if_false, if_true, judgeGbt]
          split_ifs <;> rfl

theorem flags_applyJudgement (proxy : Proxy n) (node : Fin n) (slot : Fin 2)
    (judgement : Judgement n) (results : List SendResult) (other : Fin n) (index : Fin 2) :
    flags (applyJudgement proxy node slot judgement results) other index =
      if other = node ∧ index = slot then judgement.inIbd else flags proxy other index := by
  have marked : flags (applyJudgement proxy node slot judgement results) other index =
      (((({ proxy with race := judgement.race } : Proxy n).setSlot node slot
        { proxy.slot node slot with inIbd := judgement.inIbd })).slot other index).inIbd := by
    unfold applyJudgement
    cases judgement.sticky <;> cases judgement.forward <;> rfl
  rw [marked, setSlot_slot]
  split_ifs <;> rfl

theorem flags_delivery (proxy : Proxy n) (node : Fin n) (slot : Fin 2) (chunk : Memory) :
    flags (delivery proxy node slot chunk) = flags proxy :=
  flags_setSlot (absorb_inIbd _ chunk)

theorem flags_breakage (proxy : Proxy n) (node : Fin n) (slot : Fin 2) :
    flags (breakage proxy node slot) = flags proxy :=
  flags_setSlot rfl

theorem flags_sendActive {pair : ConnPair} {len : Nat} (slot : Fin 2) :
    ((sendActive pair len).slots slot).inIbd = (pair.slots slot).inIbd := by
  rw [sendActive, setSlot_slots]
  split_ifs with active
  · rw [active]
    rfl
  · rfl

theorem flags_swapOnError (proxy : Proxy n) (node : Fin n) :
    flags (swapOnError proxy node) = flags proxy := by
  ext other slot
  unfold flags
  rw [swapOnError_slot]
  split_ifs with active
  · rw [active.1, active.2]
    rfl
  · rfl

theorem flags_failure {proxy result : Proxy n} {node : Fin n}
    (move : FailureMove proxy node result) :
    flags result = flags proxy := by
  cases move with
  | counted => rfl
  | ended => exact flags_raceComplete _
  | closed => exact flags_raceComplete _

theorem flags_error {proxy result : Proxy n} {node : Fin n} (move : ErrorMove proxy node result) :
    flags result = flags proxy := by
  cases move with
  | retried =>
      rw [← flags_swapOnError proxy node]
      exact flags_setPair fun slot => flags_sendActive slot
  | twice already result failure => exact flags_failure failure
  | lost first final result failure => rw [flags_failure failure, flags_swapOnError]

theorem flags_acceptance {env : Env} {proxy result : Proxy n} {method : Memory} {created : Bool}
    (acceptance : Acceptance env proxy method created result) :
    flags result = flags proxy := by
  cases acceptance with
  | fanout =>
      ext node slot
      simp only [flags, Proxy.slot, startRpcTimeout_pairs, fanoutPairs]
      split_ifs
      · exact flags_sendActive slot
      · rfl
  | sticky race begun state pending single node =>
      have sent : flags (proxy.setPair node
          (sendActive (proxy.pairs node) proxy.client.recvLen)) = flags proxy :=
        flags_setPair fun slot => flags_sendActive slot
      ext other slot
      rw [← sent]
      simp only [flags, Proxy.slot, startRpcTimeout_pairs]
      rfl
  | refused => rfl

theorem flags_timeout {proxy result : Proxy n} {fd : Nat} (move : TimeoutMove proxy fd result) :
    flags result = flags proxy := by
  cases move with
  | drained =>
      ext node slot
      unfold flags
      rw [Proxy.slot, cancelRpcTimeout_pairs]
      rcases unstuck_slot (acknowledged proxy fd) node slot with same | reset
      · exact congrArg UpstreamConn.inIbd same
      · exact (congrArg UpstreamConn.inIbd reset).trans (rpcConnReset_inIbd _)
  | ended => exact flags_raceComplete _
  | closed => exact flags_raceComplete _

/-! ## Callbacks -/

/-- Only a response that arrives in a race is an answer. -/
theorem report_eq_none {env : Env} {proxy : Proxy n} {event : Event n}
    (other : proxy.race.state = .idle ∨ upcallOf proxy event ≠ some .response) (node : Fin n) :
    report env proxy event node = none := by
  cases event with
  | conn target slot connEvent results =>
      simp only [report]
      rcases other with idle | silent
      · rw [if_neg fun racing => racing.2 idle]
      · split_ifs
        · cases out : connOutcome proxy target slot connEvent with
          | none => rfl
          | some outcome =>
              rw [upcallOf, out, Option.bind_some] at silent
              rw [Option.bind_some, if_neg silent]
        · rfl
  | _ => rfl

theorem report_of_response {env : Env} {proxy : Proxy n} {node : Fin n} {slot : Fin 2}
    {connEvent : ConnEvent} {results : List SendResult} {outcome : ConnOutcome}
    (out : connOutcome proxy node slot connEvent = some outcome)
    (response : outcome.upcall = some .response) (active : proxy.race.state ≠ .idle)
    (other : Fin n) :
    report env proxy (.conn node slot connEvent results) other =
      if node = other then verdict env proxy.race outcome.conn else none := by
  simp only [report, out, Option.bind_some, response, if_true]
  by_cases same : node = other
  · rw [if_pos ⟨same, active⟩, if_pos same]
  · rw [if_neg fun both => same both.1, if_neg same]

/-- A callback notes the answer it processes in the active slot of the node, and nothing else. -/
theorem step_flags (env : Env) (proxy : Proxy n) (event : Event n) (wellFormed : WellFormed proxy)
    (node : Fin n) (slot : Fin 2) :
    flags (step env proxy event) node slot =
      if slot = (proxy.pairs node).activeIdx then
        (report env proxy event node).getD (flags proxy node slot)
      else flags proxy node slot := by
  have unheard : proxy.race.state = .idle ∨ upcallOf proxy event ≠ some .response →
      ∀ result : Proxy n, flags result = flags proxy →
      flags result node slot =
        if slot = (proxy.pairs node).activeIdx then
          (report env proxy event node).getD (flags proxy node slot)
        else flags proxy node slot := by
    intro other result same
    rw [report_eq_none other, same, Option.getD_none, ite_self]
  have move := step_move env proxy event wellFormed
  generalize result_eq : step env proxy event = result at move
  cases move with
  | ignored event noBytes silent => exact unheard (Or.inr (by simp [silent])) _ rfl
  | elapsed => exact unheard (Or.inr (by simp [upcallOf])) _ rfl
  | notified => exact unheard (Or.inr (by simp [upcallOf])) _ rfl
  | replaced registered =>
      refine unheard (Or.inr (by simp [upcallOf])) _ ?_
      ext other index
      rw [flags, Proxy.slot, listenerCb_pairs]
      rfl
  | hungUp => exact unheard (Or.inr (by simp [upcallOf])) _ rfl
  | stored => exact unheard (Or.inr (by simp [upcallOf])) _ rfl
  | dropped => exact unheard (Or.inr (by simp [upcallOf])) _ rfl
  | request event chunk method result bytes accepted idle nonempty acceptance =>
      have same := flags_acceptance acceptance
      exact unheard (Or.inl idle) _ same
  | moved target index connEvent results outcome out silent =>
      refine unheard (Or.inr (by simp [upcallOf, out, silent])) _ ?_
      exact flags_setSlot (ConnMove.inIbd_eq (connOutcome_move out))
  | connected target index connEvent results outcome out upcall =>
      refine unheard (Or.inr (by simp [upcallOf, out, upcall])) _ ?_
      ext other position
      rw [flags, established_slot]
      split_ifs with same
      · rw [ConnMove.inIbd_eq (connOutcome_move out), same.1, same.2]
        rfl
      · rfl
  | lateResponse target index connEvent results chunk nonempty out receiving complete idle =>
      refine unheard (Or.inl idle) _ ?_
      rw [flags_drainSlot, flags_delivery]
  | response target index connEvent results chunk nonempty out receiving complete active result
      move =>
      have step_eq : step env proxy (.conn target index connEvent results) = _ :=
        connEvent_of_response env results out active
      rw [← result_eq, step_eq, flags_finishResponse, flags_applyJudgement, judgeResponse_inIbd,
        flags_delivery, absorb_inIbd, report_of_response out rfl active]
      have position : index = (proxy.pairs target).activeIdx :=
        wellFormed.eq_active (by simp [UpstreamConn.inFlight, receiving])
      by_cases same : node = target
      · subst same
        rw [position, if_pos rfl]
        simp only [true_and]
        split_ifs with here
        · rw [here]
          rfl
        · rfl
      · rw [if_neg fun both => same both.1, if_neg (Ne.symm same), Option.getD_none, ite_self]
  | lateError target index connEvent results out busy idle =>
      refine unheard (Or.inl idle) _ ?_
      rw [flags_drainSlot, flags_breakage]
  | error target index connEvent results out busy active result move =>
      refine unheard (Or.inr (by simp [upcallOf, out, ConnOutcome.quiet])) _ ?_
      rw [flags_error move, flags_breakage]
  | rotated target connect =>
      refine unheard (Or.inr (by simp [upcallOf])) _ ?_
      ext other index
      rw [flags, rotationEvent_slot]
      split_ifs with refreshed
      · rw [refreshed_inIbd refreshed.2.1, refreshed.1, refreshed.2.2]
        rfl
      · rfl
  | expired fd results registered result move =>
      exact unheard (Or.inr (by simp [upcallOf])) _ (flags_timeout move)

/-- The flag that is read after a callback. -/
theorem step_rpcProxyIsNodeIbd (env : Env) (proxy : Proxy n) (event : Event n)
    (wellFormed : WellFormed proxy) (node : Fin n) [Decidable (Swaps proxy event node)] :
    rpcProxyIsNodeIbd (step env proxy event) node =
      if Swaps proxy event node then (proxy.slot node (proxy.pairs node).standbyIdx).inIbd
      else (report env proxy event node).getD (rpcProxyIsNodeIbd proxy node) := by
  have swaps_iff := step_activeIdx_iff env proxy event wellFormed node
  have noted := step_flags env proxy event wellFormed node
  change flags (step env proxy event) node ((step env proxy event).pairs node).activeIdx = _
  split_ifs with swaps
  · have position : ((step env proxy event).pairs node).activeIdx =
        (proxy.pairs node).standbyIdx :=
      eq_standby_of_ne_active _ _ (swaps_iff.mpr swaps)
    rw [position, noted, if_neg (standbyIdx_ne _)]
    rfl
  · have position : ((step env proxy event).pairs node).activeIdx =
        (proxy.pairs node).activeIdx :=
      not_not.mp (mt swaps_iff.mp swaps)
    rw [position, noted, if_pos rfl]
    rfl

/-- A step keeps the flags truthful exactly if it swaps only slots with the same flag. -/
theorem watchedStep_truthful_iff (env : Env) (watched : WatchedProxy n) (event : Event n)
    (wellFormed : WellFormed watched.proxy) (before : Truthful watched) :
    Truthful (watchedStep env watched event) ↔ FlagsAgree env watched event := by
  classical
  refine forall_congr' fun node => ?_
  have last : (report env watched.proxy event node).getD
        (rpcProxyIsNodeIbd watched.proxy node) = true ↔
      ((watchedStep env watched event).reports node).head? = some true := by
    change _ ↔ ((report env watched.proxy event node).toList ++ watched.reports node).head? = _
    cases report env watched.proxy event node with
    | none => exact before node
    | some flag => simp
  rw [← last, Bool.coe_iff_coe]
  change rpcProxyIsNodeIbd (step env watched.proxy event) node = _ ↔ _
  rw [step_rpcProxyIsNodeIbd env watched.proxy event wellFormed]
  split_ifs with swaps
  · exact ⟨fun same _ => same, fun agree => agree swaps⟩
  · exact iff_of_true rfl fun swapped => absurd swapped swaps

theorem connPairInit_inIbd (boot : PairBoot) (fd : Fin 2 → Nat) (slot : Fin 2) :
    ((connPairInit boot fd).slots slot).inIbd = false := by
  apply connPairInit_slots fun conn => conn.inIbd = false
  intro slot callback
  unfold rpcConnConnect
  cases boot.connect slot <;> rfl

theorem watchedCreate_truthful (boot : Boot n) : Truthful (watchedCreate boot) := by
  intro node
  have cleared : rpcProxyIsNodeIbd (watchedCreate boot).proxy node = false :=
    connPairInit_inIbd (boot.pair node) _ _
  rw [cleared]
  simp [watchedCreate]

/--
`rpc_proxy_is_node_ibd` is the last answer of the node in every state of a
run, exactly if every callback that swaps finds the last answer in the standby.
-/
theorem truthful_iff_flagsAgree (env : Env) (boot : Boot n) (events : List (Event n)) :
    Throughout (watchedStep env) Truthful (watchedCreate boot) events ↔
      Along (watchedStep env) (FlagsAgree env) (watchedCreate boot) events := by
  have keep : ∀ (watched : WatchedProxy n) event,
      WellFormed watched.proxy ∧ Truthful watched → FlagsAgree env watched event →
      WellFormed (watchedStep env watched event).proxy ∧
        Truthful (watchedStep env watched event) := by
    rintro watched event ⟨wellFormed, before⟩ agree
    exact ⟨step_wellFormed env watched.proxy event wellFormed,
      (watchedStep_truthful_iff env watched event wellFormed before).mpr agree⟩
  apply throughout_iff_along keep
  · rintro watched ⟨-, before⟩
    exact before
  · rintro watched event ⟨wellFormed, before⟩ after
    exact (watchedStep_truthful_iff env watched event wellFormed before).mp after
  · exact ⟨rpcProxyCreate_wellFormed boot, watchedCreate_truthful boot⟩

/-- The JSON text of a node that is downloading blocks. -/
def downloadingText : Memory :=
  ascii "\x7b\"result\":null,\"error\":\x7b\"code\":-10\x7d\x7d"

/-- A parser that is right about this text, too. -/
def downloadingEnv : Env where
  rpcTimeoutMs := 30000
  yyjsonRead text :=
    if text = downloadingText then
      some (.obj [(ascii "result", .null), (ascii "error", .obj [(ascii "code", .sint (-10))])])
    else exampleRead text

/-- A node answers that it is downloading blocks, and then its connections are rotated. -/
def rotatedDownload : List (Event 1) :=
  [clientConnects, clientSends gbtRequest, slotWrites 0 0 1000,
    slotReads 0 0 (httpMessage "HTTP/1.1 500 Internal Server Error" "36" downloadingText) [],
    rotates 0 .immediate]

/-- The node no longer counts as downloading, although it has not answered again. -/
theorem rotatedDownload_not_truthful :
    ¬ Throughout (watchedStep downloadingEnv) Truthful (watchedCreate (exampleBoot 1))
      rotatedDownload := by
  have wrong : ¬ Truthful (run (watchedStep downloadingEnv) (watchedCreate (exampleBoot 1))
      rotatedDownload) := by
    decide +kernel
  intro everywhere
  exact wrong (throughout_end everywhere)

end RpcRace.IbdStatus
