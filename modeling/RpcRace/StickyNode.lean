import RpcRace.Outcomes

/-!
# How old the sticky node is

A block notify forgets the sticky node and asks for a race, but a race that
is already running can set the node again, from a template of the old block.
The flag is used up by the next race, so if that race fails, the old node is
sticky again.  `stickyRecent_of_noLateWin` says that this is the only way: if no
template race is won after a notify came in, a `getblocktemplate` goes to a
single node only when that node won a race of the current block.
-/

namespace RpcRace.StickyNode

open RpcRace.Library.CString
open RpcRace.Library.Run
open RpcRace.RpcConn
open RpcRace.JsonResponse
open RpcRace.RpcProxy
open RpcRace.Dispatch
open RpcRace.RaceMoves
open RpcRace.ProxyMoves
open RpcRace.SlotMoves
open RpcRace.Requests
open RpcRace.ClientMoves
open RpcRace.Outcomes

variable {n : Nat}

/-! ## Histories -/

/-- The method of the latest request. -/
def latestMethod : List (Effect n) → Option Memory
  | [] => none
  | .requestAccepted _ _ method _ :: _ => some method
  | _ :: past => latestMethod past

/-- The method of the latest request, if no block notify came after it. -/
def askedSinceNotify : List (Effect n) → Option Memory
  | [] => none
  | .requestAccepted _ _ method _ :: _ => some method
  | .blockNotify :: _ => none
  | _ :: past => askedSinceNotify past

/-- The two spellings of a `getblocktemplate` call agree as C strings. -/
def isTemplateCall (method : Option Memory) : Bool :=
  method.map cString = some methodGbt

/--
The node that became sticky last, if it did so in a `getblocktemplate` race
whose request was accepted after the latest block notify.
-/
def freshWinner : List (Effect n) → Option (Fin n)
  | [] => none
  | .stickySet node :: past =>
      if isTemplateCall (askedSinceNotify past) then some node else none
  | .blockNotify :: _ => none
  | _ :: past => freshWinner past

/-- A `getblocktemplate` that is sent to one node alone goes to a fresh winner. -/
def Recent (effect : Effect n) (past : List (Effect n)) : Prop :=
  match effect with
  | .stickySent node => isTemplateCall (latestMethod past) = true → freshWinner past = some node
  | _ => True

instance (effect : Effect n) (past : List (Effect n)) : Decidable (Recent effect past) :=
  match effect with
  | .stickySent _ => inferInstanceAs (Decidable (_ → _))
  | .forwarded _ _ _ _ _ | .closeClient _ _ | .clientAccepted _ | .requestAccepted _ _ _ _
  | .started _ _ _ | .transferred _ _ _ _ | .refreshed _ _ _ | .established _ _
  | .delivered _ _ _ | .failed _ _ | .gaveUp _ | .stickySet _ | .blockNotify | .raceCompleted
  | .timerStarted _ | .timerClosed _ | .timerExpired _ _ => .isTrue trivial

/-- Every sticky dispatch of the past was recent when it was made. -/
structure StickyRecent (proxy : Proxy n) : Prop where
  dispatches : AtEach Recent proxy.trace

instance (proxy : Proxy n) : Decidable (StickyRecent proxy) :=
  decidable_of_iff (AtEach Recent proxy.trace) ⟨StickyRecent.mk, StickyRecent.dispatches⟩

/-- The effects that the histories above look at. -/
def isMark : Effect n → Bool
  | .requestAccepted _ _ _ _ => true
  | .blockNotify => true
  | .stickySet _ => true
  | .stickySent _ => true
  | _ => false

section Unmarked

variable {added : List (Effect n)} (unmarked : ∀ effect ∈ added, isMark effect = false)

include unmarked

theorem askedSinceNotify_append (trace : List (Effect n)) :
    askedSinceNotify (added ++ trace) = askedSinceNotify trace := by
  induction added with
  | nil => rfl
  | cons effect rest induction =>
      have first := unmarked effect List.mem_cons_self
      rw [← induction fun other member => unmarked other (List.mem_cons_of_mem _ member)]
      cases effect with
      | requestAccepted => simp [isMark] at first
      | blockNotify => simp [isMark] at first
      | _ => rfl

theorem freshWinner_append (trace : List (Effect n)) :
    freshWinner (added ++ trace) = freshWinner trace := by
  induction added with
  | nil => rfl
  | cons effect rest induction =>
      have first := unmarked effect List.mem_cons_self
      rw [← induction fun other member => unmarked other (List.mem_cons_of_mem _ member)]
      cases effect with
      | stickySet => simp [isMark] at first
      | blockNotify => simp [isMark] at first
      | _ => rfl

theorem recent_append {trace : List (Effect n)} (history : AtEach Recent trace) :
    AtEach Recent (added ++ trace) := by
  refine atEach_append ?_ history
  intro effect member past
  have first := unmarked effect member
  cases effect with
  | stickySent => simp [isMark] at first
  | _ => trivial

end Unmarked

/-! ## What one callback does to the sticky node -/

/-- The event delivers the response that wins a `getblocktemplate` fan-out race. -/
def winsTemplateRace (env : Env) (proxy : Proxy n) (event : Event n) : Bool :=
  match event with
  | .conn node slot connEvent _ =>
      (connOutcome proxy node slot connEvent).any fun outcome =>
        outcome.upcall = some .response && proxy.race.isGbtRace &&
          !responseIsError env.yyjsonRead outcome.conn
  | _ => false

/-- The callbacks as seen by the sticky node. -/
inductive StickyMove (env : Env) (proxy : Proxy n) (event : Event n) (result : Proxy n) :
    Prop where
  | kept (added : List (Effect n)) (trace : result.trace = added ++ proxy.trace)
      (unmarked : ∀ effect ∈ added, isMark effect = false)
      (sticky_eq : result.race.stickyNodeIdx = proxy.race.stickyNodeIdx)
      (notify_eq : result.race.notifyPending = proxy.race.notifyPending)
      (race_eq : result.race.isGbtRace = true → proxy.race.isGbtRace = true)
  | notified (trace : result.trace = .blockNotify :: proxy.trace)
      (sticky_eq : result.race.stickyNodeIdx = none)
      (notify_eq : result.race.notifyPending = true)
  | accepted (added : List (Effect n)) (node : Option (Fin n)) (chunk method : Memory)
      (earlier : List (Effect n))
      (trace : result.trace =
        added ++ (node.toList.map .stickySent ++
          (earlier ++ requestEffect (withChunk proxy chunk) method :: proxy.trace)))
      (unmarked : ∀ effect ∈ added, isMark effect = false)
      (unmarkedEarlier : ∀ effect ∈ earlier, isMark effect = false)
      (stuck : ∀ sent ∈ node, result.race.stickyNodeIdx = some sent)
      (sticky_eq : result.race.stickyNodeIdx = proxy.race.stickyNodeIdx)
      (method_eq : result.race.method = method)
  | crowned (later earlier : List (Effect n)) (node : Fin n)
      (trace : result.trace = later ++ .stickySet node :: (earlier ++ proxy.trace))
      (unmarkedLater : ∀ effect ∈ later, isMark effect = false)
      (unmarkedEarlier : ∀ effect ∈ earlier, isMark effect = false)
      (sticky_eq : result.race.stickyNodeIdx = some node)
      (finished : result.race.state = .idle)
      (wins : winsTemplateRace env proxy event = true)

theorem isMark_raceComplete (proxy : Proxy n) :
    ∀ effect ∈ Effect.raceCompleted :: cancelEffects proxy, isMark effect = false :=
  forall_raceComplete proxy rfl fun _ => rfl

theorem isMark_timerEffects (env : Env) (proxy : Proxy n) (created : Bool) :
    ∀ effect ∈ timerEffects proxy env created, isMark effect = false :=
  forall_timerEffects proxy env created fun _ => rfl

theorem isGbtRace_complete (race : Race n) : race.complete.isGbtRace = false := by
  simp [Race.isGbtRace, Race.complete]

/-- `race_complete` after something that left the sticky node alone. -/
theorem StickyMove.completed {env : Env} {proxy base : Proxy n} {event : Event n}
    {earlier : List (Effect n)} (trace : base.trace = earlier ++ proxy.trace)
    (unmarked : ∀ effect ∈ earlier, isMark effect = false)
    (sticky_eq : base.race.stickyNodeIdx = proxy.race.stickyNodeIdx)
    (notify_eq : base.race.notifyPending = proxy.race.notifyPending) :
    StickyMove env proxy event (raceComplete base) := by
  refine .kept (.raceCompleted :: cancelEffects base ++ earlier) ?_ ?_ ?_ ?_ ?_
  · rw [raceComplete_trace, trace, List.append_assoc]
  · exact List.forall_mem_append.mpr ⟨isMark_raceComplete base, unmarked⟩
  · rw [raceComplete_race]
    exact sticky_eq
  · rw [raceComplete_race]
    exact notify_eq
  · rw [raceComplete_race, isGbtRace_complete]
    simp

theorem Counted.isGbtRace_eq {env : Env} {before after : Race n} {conn : UpstreamConn}
    {node : Fin n} {stuck : Bool} (counting : Counted env before conn node stuck after) :
    after.isGbtRace = before.isGbtRace := by
  simp only [Race.isGbtRace, Race.methodIs, counting.method_eq, counting.state_eq]

/-- A node becomes sticky in a template race only. -/
theorem Counted.wins {env : Env} {proxy : Proxy n} {node : Fin n} {slot : Fin 2}
    {chunk : Memory} {connEvent : ConnEvent} {after : Race n}
    (counting : Counted env proxy.race ((proxy.slot node slot).absorb chunk) node true after)
    (out : connOutcome proxy node slot connEvent =
      some ⟨(proxy.slot node slot).absorb chunk, some .response, [], chunk⟩)
    (results : List SendResult) :
    winsTemplateRace env proxy (.conn node slot connEvent results) = true := by
  have stuck := counting.stuck_eq
  simp only [winsTemplateRace, out, Option.any_some, decide_true, Bool.true_and]
  exact stuck.symm

theorem ResponseMove.sticky {env : Env} {proxy : Proxy n} {node : Fin n} {slot : Fin 2}
    {chunk : Memory} {connEvent : ConnEvent} {results : List SendResult} {result : Proxy n}
    (move : ResponseMove env proxy node slot chunk results result)
    (out : connOutcome proxy node slot connEvent =
      some ⟨(proxy.slot node slot).absorb chunk, some .response, [], chunk⟩) :
    StickyMove env proxy (.conn node slot connEvent results) result := by
  have delivered : ∀ effect ∈ deliveryEffects proxy node slot chunk false,
      isMark effect = false := by
    simp [deliveryEffects, stickEffects, isMark]
  have forwarded : ∀ inIbd, ∀ effect ∈ forwardEffect proxy node slot chunk inIbd results ::
      deliveryEffects proxy node slot chunk false, isMark effect = false :=
    fun inIbd => List.forall_mem_cons.mpr ⟨rfl, delivered⟩
  cases move with
  | counted race inIbd counting more unsent =>
      refine .kept (deliveryEffects proxy node slot chunk false) rfl delivered
        counting.sticky_eq counting.notify_eq ?_
      exact fun race_eq => (Counted.isGbtRace_eq counting).symm.trans race_eq
  | broadcastWon race inIbd counting more all first valid =>
      refine .kept (forwardEffect proxy node slot chunk inIbd results ::
        deliveryEffects proxy node slot chunk false)
        (forwarded_trace_eq proxy node slot chunk race inIbd false results) (forwarded inIbd)
        counting.sticky_eq counting.notify_eq ?_
      exact fun race_eq => (Counted.isGbtRace_eq counting).symm.trans race_eq
  | won race inIbd stuck counting more single first valid =>
      have trace := forwarded_trace_eq proxy node slot chunk race inIbd stuck results
      cases stuck with
      | false =>
          refine .kept (forwardEffect proxy node slot chunk inIbd results ::
            deliveryEffects proxy node slot chunk false) trace (forwarded inIbd)
            counting.sticky_eq counting.notify_eq ?_
          intro race_eq
          simp [released, Race.isGbtRace] at race_eq
      | true =>
          exact .crowned [forwardEffect proxy node slot chunk inIbd results]
            (deliveryEffects proxy node slot chunk false) node trace
            (by simp [forwardEffect, isMark])
            delivered counting.sticky_eq rfl (Counted.wins counting out results)
  | ended race inIbd counting last won =>
      have trace : (answered proxy node slot chunk race inIbd).trace =
          deliveryEffects proxy node slot chunk false ++ proxy.trace := rfl
      exact .completed trace delivered counting.sticky_eq counting.notify_eq
  | settled race inIbd stuck counting last first =>
      have trace := forwarded_trace_eq proxy node slot chunk race inIbd stuck results
      let sent := sendUpstreamResponseToClient
        (stick (answered proxy node slot chunk race inIbd) node stuck) node slot results
      cases stuck with
      | false => exact .completed trace (forwarded inIbd) counting.sticky_eq counting.notify_eq
      | true =>
          refine .crowned (.raceCompleted :: cancelEffects sent ++
            [forwardEffect proxy node slot chunk inIbd results])
            (deliveryEffects proxy node slot chunk false) node ?_ ?_ delivered ?_ ?_
            (Counted.wins counting out results)
          · rw [raceComplete_trace, trace, List.append_assoc]
            rfl
          · exact List.forall_mem_append.mpr ⟨isMark_raceComplete sent,
              by simp [forwardEffect, isMark]⟩
          · rw [raceComplete_race]
            exact counting.sticky_eq
          · simp [Race.complete]

theorem FailureMove.sticky {env : Env} {proxy base result : Proxy n} {event : Event n}
    {node : Fin n} {earlier : List (Effect n)} (move : FailureMove base node result)
    (trace : base.trace = earlier ++ proxy.trace)
    (unmarked : ∀ effect ∈ earlier, isMark effect = false)
    (sticky_eq : base.race.stickyNodeIdx = proxy.race.stickyNodeIdx)
    (notify_eq : base.race.notifyPending = proxy.race.notifyPending)
    (race_eq : base.race.isGbtRace = proxy.race.isGbtRace) :
    StickyMove env proxy event result := by
  have lost_trace : (lost base node).trace = .gaveUp node :: earlier ++ proxy.trace := by
    rw [List.cons_append, ← trace]
    rfl
  have gaveUp : ∀ effect ∈ Effect.gaveUp node :: earlier, isMark effect = false :=
    List.forall_mem_cons.mpr ⟨rfl, unmarked⟩
  cases move with
  | counted more =>
      exact .kept _ lost_trace gaveUp sticky_eq notify_eq fun gbt => race_eq.symm.trans gbt
  | ended last won => exact .completed lost_trace gaveUp sticky_eq notify_eq
  | closed last unwon =>
      have closed_trace : (closeClient (lost base node) true).trace =
          .closeClient (lost base node).client.target true :: .gaveUp node :: earlier ++
            proxy.trace := by
        rw [closeClient_trace, lost_trace]
        rfl
      exact .completed closed_trace (List.forall_mem_cons.mpr ⟨rfl, gaveUp⟩) sticky_eq notify_eq

theorem ErrorMove.sticky {env : Env} {proxy result : Proxy n} {event : Event n}
    {node : Fin n} {slot : Fin 2} (move : ErrorMove (breakage proxy node slot) node result) :
    StickyMove env proxy event result := by
  have unmarked : ∀ effect ∈ [Effect.failed node slot, .transferred node slot [] []],
      isMark effect = false := by
    simp [isMark]
  cases move with
  | retried retryable =>
      refine .kept [_, .failed node slot, .transferred node slot [] []] rfl ?_ rfl rfl id
      simp [isMark]
  | twice already result failure =>
      exact FailureMove.sticky failure rfl unmarked rfl rfl rfl
  | lost first final result failure =>
      exact FailureMove.sticky failure rfl unmarked rfl rfl rfl

theorem TimeoutMove.sticky {env : Env} {proxy result : Proxy n} {event : Event n} {fd : Nat}
    (move : TimeoutMove proxy fd result) :
    StickyMove env proxy event result := by
  have expired : ∀ effect ∈ [Effect.timerExpired (n := n) fd proxy.now],
      isMark effect = false := by
    simp [isMark]
  cases move with
  | drained idle =>
      refine .kept (cancelEffects (unstuck (acknowledged proxy fd)) ++
        [.timerExpired fd proxy.now]) ?_ ?_ ?_ ?_ ?_
      · rw [cancelRpcTimeout_trace, List.append_assoc]
        rfl
      · refine List.forall_mem_append.mpr ⟨?_, expired⟩
        simp [cancelEffects, isMark]
      · rw [cancelRpcTimeout_race]
        rfl
      · rw [cancelRpcTimeout_race]
        rfl
      · rw [cancelRpcTimeout_race]
        exact id
  | ended active won =>
      have trace : (uncounted (acknowledged proxy fd)).trace =
          [.timerExpired fd proxy.now] ++ proxy.trace := rfl
      exact .completed trace expired rfl rfl
  | closed active unwon =>
      have trace : (closeClient (uncounted (acknowledged proxy fd)) true).trace =
          [.closeClient proxy.client.target true, .timerExpired fd proxy.now] ++ proxy.trace := rfl
      exact .completed trace (List.forall_mem_cons.mpr ⟨rfl, expired⟩) rfl rfl

theorem Acceptance.sticky {env : Env} {proxy result : Proxy n} {event : Event n}
    {chunk method : Memory} {created : Bool}
    (acceptance : Acceptance env (withChunk proxy chunk) method created result) :
    StickyMove env proxy event (clearRequest result) := by
  cases acceptance with
  | fanout race begun state pending reachable =>
      refine .accepted (timerEffects proxy env created) none chunk method
        (startEffects proxy (fanoutTargets proxy) (withChunk proxy chunk).client.recvLen) ?_
        (isMark_timerEffects env proxy created) ?_ (by simp) ?_ ?_
      · rw [clearRequest_trace, startRpcTimeout_trace]
        rfl
      · intro effect member
        simp only [startEffects, List.mem_reverse, List.mem_map] at member
        rcases member with ⟨node, -, rfl⟩
        rfl
      · rw [clearRequest_race, startRpcTimeout_race]
        exact begun.sticky_eq
      · rw [clearRequest_race, startRpcTimeout_race]
        exact begun.method_eq
  | sticky race begun state pending single node stuck available =>
      refine .accepted (timerEffects proxy env created) (some node) chunk method
        [.started node (proxy.pairs node).activeIdx (withChunk proxy chunk).client.recvLen] ?_
        (isMark_timerEffects env proxy created) (by simp [isMark]) ?_ ?_ ?_
      · rw [clearRequest_trace, startRpcTimeout_trace]
        rfl
      · intro sent sent_eq
        rw [clearRequest_race, startRpcTimeout_race]
        simp only [Option.mem_def, Option.some.injEq] at sent_eq
        rw [← sent_eq]
        exact stuck
      · rw [clearRequest_race, startRpcTimeout_race]
        exact begun.sticky_eq
      · rw [clearRequest_race, startRpcTimeout_race]
        exact begun.method_eq
  | refused race begun state =>
      exact .accepted [] none chunk method [.closeClient proxy.client.target true] rfl (by simp)
        (by simp [isMark]) (by simp) begun.sticky_eq begun.method_eq

theorem isMark_of_isAside {effect : Effect n} (quiet : isAside effect = true) :
    isMark effect = false := by
  cases effect with
  | requestAccepted => simp [isAside, isHousekeeping] at quiet
  | blockNotify => simp [isAside, isHousekeeping] at quiet
  | stickySet => simp [isAside, isHousekeeping] at quiet
  | stickySent => simp [isAside, isHousekeeping] at quiet
  | _ => rfl

/-- Every callback acts on the sticky node in one of these ways. -/
theorem step_sticky (env : Env) (proxy : Proxy n) (event : Event n)
    (wellFormed : WellFormed proxy) :
    StickyMove env proxy event (step env proxy event) := by
  have move := step_raceStep env proxy event wellFormed
  generalize step env proxy event = result at move
  have kept : ∀ (result : Proxy n) (added : List (Effect n)),
      result.trace = added ++ proxy.trace → (∀ effect ∈ added, isMark effect = false) →
      result.race = proxy.race → StickyMove env proxy event result := by
    intro result added trace unmarked race_eq
    exact .kept added trace unmarked (by rw [race_eq]) (by rw [race_eq]) (by rw [race_eq]; exact id)
  cases move with
  | aside event result added trace quiet race_eq waiting =>
      exact kept result added trace
        (fun effect member => isMark_of_isAside (quiet effect member)) race_eq
  | notified => exact .notified rfl rfl rfl
  | request event chunk method result bytes accepted idle acceptance =>
      exact Acceptance.sticky acceptance
  | lateResponse node slot event results chunk result added out idle trace quiet race_eq =>
      refine kept result (added ++
        [.delivered node slot ((proxy.slot node slot).absorb chunk),
          .transferred node slot [] chunk]) ?_ ?_ race_eq
      · rw [trace, List.append_assoc]
        rfl
      · refine List.forall_mem_append.mpr
          ⟨fun effect member => isMark_of_isAside (quiet effect member), ?_⟩
        simp [isMark]
  | response node slot event results chunk result out complete active move =>
      exact ResponseMove.sticky move out
  | lateError node slot event results result added idle trace quiet race_eq =>
      refine kept result (added ++ [.failed node slot, .transferred node slot [] []]) ?_ ?_
        race_eq
      · rw [trace, List.append_assoc]
        rfl
      · refine List.forall_mem_append.mpr
          ⟨fun effect member => isMark_of_isAside (quiet effect member), ?_⟩
        simp [isMark]
  | error node slot event results result out active move => exact ErrorMove.sticky move
  | expired fd results result registered move => exact TimeoutMove.sticky move

/-! ## The invariant -/

/-- No `getblocktemplate` race is won while a block notify waits for its own race. -/
def NoLateWin (env : Env) (proxy : Proxy n) (event : Event n) : Prop :=
  winsTemplateRace env proxy event = true → proxy.race.notifyPending = false

instance (env : Env) (proxy : Proxy n) (event : Event n) :
    Decidable (NoLateWin env proxy event) :=
  inferInstanceAs (Decidable (_ → _))

/-- What the race fields say about the history. -/
structure Dated (proxy : Proxy n) : Prop where
  wellFormed : WellFormed proxy
  history : AtEach Recent proxy.trace
  sticky : ∀ node, proxy.race.stickyNodeIdx = some node → freshWinner proxy.trace = some node
  asked : proxy.race.isGbtRace = true → proxy.race.notifyPending = false →
    isTemplateCall (askedSinceNotify proxy.trace) = true

theorem freshWinner_request (proxy : Proxy n) (method : Memory) (trace : List (Effect n)) :
    freshWinner (requestEffect proxy method :: trace) = freshWinner trace :=
  rfl

theorem freshWinner_sent (node : Option (Fin n)) (trace : List (Effect n)) :
    freshWinner (node.toList.map .stickySent ++ trace) = freshWinner trace := by
  cases node <;> rfl

theorem askedSinceNotify_sent (node : Option (Fin n)) (trace : List (Effect n)) :
    askedSinceNotify (node.toList.map .stickySent ++ trace) = askedSinceNotify trace := by
  cases node <;> rfl

theorem step_dated (env : Env) (proxy : Proxy n) (event : Event n) (dated : Dated proxy)
    (guarded : NoLateWin env proxy event) :
    Dated (step env proxy event) := by
  have wellFormed := step_wellFormed env proxy event dated.wellFormed
  have move := step_sticky env proxy event dated.wellFormed
  generalize step env proxy event = result at move wellFormed
  cases move with
  | kept added trace unmarked sticky_eq notify_eq race_eq =>
      refine ⟨wellFormed, ?_, ?_, ?_⟩
      · rw [trace]
        exact recent_append unmarked dated.history
      · rw [trace, sticky_eq, freshWinner_append unmarked]
        exact dated.sticky
      · rw [trace, notify_eq, askedSinceNotify_append unmarked]
        exact fun gbt => dated.asked (race_eq gbt)
  | notified trace sticky_eq notify_eq =>
      refine ⟨wellFormed, ?_, ?_, ?_⟩
      · rw [trace]
        exact ⟨trivial, dated.history⟩
      · simp [sticky_eq]
      · simp [notify_eq]
  | accepted added node chunk method earlier trace unmarked unmarkedEarlier stuck sticky_eq
      method_eq =>
      have fresh_eq : freshWinner
          (earlier ++ requestEffect (withChunk proxy chunk) method :: proxy.trace) =
            freshWinner proxy.trace := by
        rw [freshWinner_append unmarkedEarlier, freshWinner_request]
      have opened := recent_append unmarkedEarlier
        (show AtEach Recent (requestEffect (withChunk proxy chunk) method :: proxy.trace) from
          ⟨trivial, dated.history⟩)
      refine ⟨wellFormed, ?_, ?_, ?_⟩
      · rw [trace]
        apply recent_append unmarked
        cases node with
        | none => exact opened
        | some sent =>
            have winner := dated.sticky sent (sticky_eq ▸ stuck sent rfl)
            exact ⟨fun _ => fresh_eq.trans winner, opened⟩
      · rw [trace, freshWinner_append unmarked, freshWinner_sent, fresh_eq, sticky_eq]
        exact dated.sticky
      · intro gbt _
        rw [trace, askedSinceNotify_append unmarked, askedSinceNotify_sent,
          askedSinceNotify_append unmarkedEarlier]
        simp only [Race.isGbtRace, Race.methodIs, method_eq, Bool.and_eq_true,
          decide_eq_true_eq] at gbt
        simp [askedSinceNotify, requestEffect, isTemplateCall, gbt.1]
  | crowned later earlier node trace unmarkedLater unmarkedEarlier sticky_eq finished wins =>
      have settled := guarded wins
      have race : proxy.race.isGbtRace = true := by
        cases event with
        | conn other slot connEvent results =>
            cases out : connOutcome proxy other slot connEvent with
            | none => simp [winsTemplateRace, out] at wins
            | some outcome =>
                simp only [winsTemplateRace, out, Option.any_some, Bool.and_eq_true] at wins
                exact wins.1.2
        | _ => simp [winsTemplateRace] at wins
      have asked := dated.asked race settled
      refine ⟨wellFormed, ?_, ?_, ?_⟩
      · rw [trace]
        exact recent_append unmarkedLater
          ⟨trivial, recent_append unmarkedEarlier dated.history⟩
      · intro winner winner_eq
        rw [sticky_eq] at winner_eq
        rw [trace, freshWinner_append unmarkedLater, freshWinner,
          askedSinceNotify_append unmarkedEarlier, if_pos asked]
        exact winner_eq
      · intro gbt
        simp [Race.isGbtRace, finished] at gbt

theorem rpcProxyCreate_dated (boot : Boot n) : Dated (rpcProxyCreate boot) where
  wellFormed := rpcProxyCreate_wellFormed boot
  history := trivial
  sticky node stuck := by simp [rpcProxyCreate] at stuck
  asked gbt := by simp [rpcProxyCreate, Race.isGbtRace] at gbt

/-! ## Runs -/

/--
If no template race is won after a block notify arrived during it, the
sticky node is never older than the last block.
-/
theorem stickyRecent_of_noLateWin (env : Env) (boot : Boot n) (events : List (Event n))
    (guarded : Along (step env) (NoLateWin env) (rpcProxyCreate boot) events) :
    Throughout (step env) StickyRecent (rpcProxyCreate boot) events := by
  apply Throughout.mono fun proxy (dated : Dated proxy) => ⟨dated.history⟩
  exact throughout_of_along (step_dated env) (rpcProxyCreate_dated boot) guarded

/-- A notify between two races, and a sticky dispatch after each of them. -/
def racesPerBlock : List (Event 1) :=
  [clientConnects, clientSends gbtRequest,
    slotWrites 0 0 1000, slotReads 0 0 (templateResponse "1") [.accepted 1000],
    clientSends gbtRequest,
    slotWrites 0 0 1000, slotReads 0 0 (templateResponse "1") [.accepted 1000],
    .blockNotify,
    clientSends gbtRequest,
    slotWrites 0 0 1000, slotReads 0 0 (templateResponse "2") [.accepted 1000],
    clientSends gbtRequest]

theorem stickyRecent_of_noLateWin_racesPerBlock :
    Along (step exampleEnv) (NoLateWin exampleEnv) (rpcProxyCreate (exampleBoot 1))
        racesPerBlock ∧
      Throughout (step exampleEnv) StickyRecent (rpcProxyCreate (exampleBoot 1))
        racesPerBlock ∧
      (exampleRun 1 racesPerBlock).race.state = .sticky := by
  have facts :
      Along (step exampleEnv) (NoLateWin exampleEnv) (rpcProxyCreate (exampleBoot 1))
          racesPerBlock ∧
        (exampleRun 1 racesPerBlock).race.state = .sticky := by
    decide +kernel
  exact ⟨facts.1, stickyRecent_of_noLateWin exampleEnv (exampleBoot 1) racesPerBlock facts.1,
    facts.2⟩

/-! ## A notify during a race -/

/--
A notify arrives while a template race is running, and the race is won with
a template of the old block.  The next race, which the notify asked for, gets
an error only.
-/
def notifyDuringRace : List (Event 1) :=
  [clientConnects, clientSends gbtRequest,
    slotWrites 0 0 1000,
    .blockNotify,
    slotReads 0 0 (templateResponse "1") [.accepted 1000],
    clientSends gbtRequest,
    slotWrites 0 0 1000, slotReads 0 0 errorResponse [.accepted 1000],
    clientSends gbtRequest]

/-- The last request goes to the node that won before the notify. -/
theorem notifyDuringRace_not_stickyRecent :
    ¬ Throughout (step exampleEnv) StickyRecent (rpcProxyCreate (exampleBoot 1))
      notifyDuringRace := by
  intro recent
  have stale : ¬ StickyRecent (exampleRun 1 notifyDuringRace) := by
    decide +kernel
  exact stale (throughout_end recent)

end RpcRace.StickyNode
