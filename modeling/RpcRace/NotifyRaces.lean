import RpcRace.Measurements

/-!
# The race that a block notify asks for

A block notify forgets the sticky node and sets a flag, and the next
`getblocktemplate` clears the flag and is raced.  Between the two, a race that
was already running may end and make its winner sticky; the flag keeps that
winner from being asked alone.  `run_firstRaced` says that this works out in
every run: a `getblocktemplate` goes to one node alone only if another one was
dispatched before it, after the latest notify.

How old the node is that is asked then is another matter (`StickyNode`).
-/

namespace RpcRace.NotifyRaces

open RpcRace.Library.CString
open RpcRace.Library.Run
open RpcRace.RpcConn
open RpcRace.JsonResponse
open RpcRace.RpcProxy
open RpcRace.Dispatch
open RpcRace.RaceMoves
open RpcRace.ProxyMoves
open RpcRace.SlotMoves
open RpcRace.Requests
open RpcRace.StickyNode
open RpcRace.Measurements

variable {n : Nat}

/-! ## Histories -/

/-- How many `getblocktemplate` requests were dispatched since the latest block notify. -/
def templatesSinceNotify : List (Effect n) → Nat
  | [] => 0
  | .blockNotify :: _ => 0
  | .requestAccepted _ _ method _ :: past =>
      templatesSinceNotify past + if cString method = methodGbt then 1 else 0
  | _ :: past => templatesSinceNotify past

/-- A `getblocktemplate` that goes to one node alone is not the first one since the notify. -/
def NotFirst (effect : Effect n) (past : List (Effect n)) : Prop :=
  match effect with
  | .stickySent _ => isTemplateCall (latestMethod past) = true → 2 ≤ templatesSinceNotify past
  | _ => True

/-- The first `getblocktemplate` after a block notify was always raced. -/
structure FirstRaced (proxy : Proxy n) : Prop where
  dispatches : AtEach NotFirst proxy.trace

section Unmarked

variable {added : List (Effect n)} (unmarked : ∀ effect ∈ added, isMark effect = false)

include unmarked

theorem templatesSinceNotify_append (trace : List (Effect n)) :
    templatesSinceNotify (added ++ trace) = templatesSinceNotify trace := by
  induction added with
  | nil => rfl
  | cons effect rest induction =>
      have first := unmarked effect List.mem_cons_self
      rw [← induction fun other member => unmarked other (List.mem_cons_of_mem _ member)]
      cases effect with
      | requestAccepted => simp [isMark] at first
      | blockNotify => simp [isMark] at first
      | _ => rfl

theorem latestMethod_append (trace : List (Effect n)) :
    latestMethod (added ++ trace) = latestMethod trace := by
  induction added with
  | nil => rfl
  | cons effect rest induction =>
      have first := unmarked effect List.mem_cons_self
      rw [← induction fun other member => unmarked other (List.mem_cons_of_mem _ member)]
      cases effect with
      | requestAccepted => simp [isMark] at first
      | _ => rfl

theorem notFirst_append {trace : List (Effect n)} (history : AtEach NotFirst trace) :
    AtEach NotFirst (added ++ trace) := by
  refine atEach_append ?_ history
  intro effect member past
  have first := unmarked effect member
  cases effect with
  | stickySent => simp [isMark] at first
  | _ => trivial

end Unmarked

theorem templatesSinceNotify_request (proxy : Proxy n) (method : Memory)
    (trace : List (Effect n)) :
    templatesSinceNotify (requestEffect proxy method :: trace) =
      templatesSinceNotify trace + if cString method = methodGbt then 1 else 0 :=
  rfl

/-! ## The route of a template request -/

/-- A `getblocktemplate` is raced while a notify is pending or no node is sticky. -/
theorem acceptRequest_state_ne_sticky (env : Env) (proxy : Proxy n) {method : Memory}
    (created : Bool) (nonempty : proxy.client.recvLen ≠ 0)
    (template : cString method = methodGbt)
    (racing : proxy.race.notifyPending = true ∨ proxy.race.stickyNodeIdx = none) :
    (acceptRequest env proxy method created).race.state ≠ .sticky := by
  have route : (classifyMethod { proxy.race with method := method }).1 = .race := by
    simp [classifyMethod, Race.methodIs, template, racing]
  unfold acceptRequest
  dsimp only
  rw [route, dispatchRoute, fanoutOrClose, dispatchFanout_eq _ (by exact nonempty)]
  dsimp only
  split_ifs with unreachable sent
  · simp at sent
  · simp
  · simp [Race.begin]
  · simp

/-- The callback that accepts a request ends with its dispatch. -/
theorem step_eq_acceptRequest (env : Env) (proxy : Proxy n) (event : Event n)
    {method : Memory} (accepted : acceptedMethod env proxy event = some method) :
    ∃ chunk created, storedChunk proxy event = some chunk ∧
      (withChunk proxy chunk).client.recvLen ≠ 0 ∧
      step env proxy event =
        clearRequest (acceptRequest env (withChunk proxy chunk) method created) := by
  rcases Option.bind_eq_some_iff.mp accepted with ⟨chunk, stored, parsed⟩
  split_ifs at parsed with ready
  refine ⟨chunk, ?_⟩
  cases event with
  | client clientEvent =>
      refine ⟨clientEvent.timerCreated, stored, recvLen_ne_zero_of_parseHttpRequest ready.1, ?_⟩
      simp only [storedChunk] at stored
      split_ifs at stored with open_
      split at stored
      · rename_i bytes received
        split_ifs at stored with empty
        obtain rfl := Option.some.inj stored
        have connected : proxy.client.connected = true := open_.1
        have complete : parseHttpRequest (proxy.client.store
          (bytes.take (socketBufSize - proxy.client.recvLen))) = true := ready.1
        simp only [step, connected, if_true, clientCb, open_.2.1, open_.2.2.1, open_.2.2.2,
          received, empty, Bool.false_eq_true, if_false, onClientData, complete, ready.2,
          ne_eq, not_true_eq_false, parsed]
        rfl
      · contradiction
  | _ => simp [storedChunk] at stored

/-! ## The invariant -/

/-- The flag is clear and a node is sticky, or soon to be, only after a template request. -/
structure Following (proxy : Proxy n) : Prop where
  wellFormed : WellFormed proxy
  history : AtEach NotFirst proxy.trace
  sticky : proxy.race.notifyPending = false → proxy.race.stickyNodeIdx ≠ none →
    1 ≤ templatesSinceNotify proxy.trace
  running : proxy.race.isGbtRace = true → proxy.race.notifyPending = false →
    1 ≤ templatesSinceNotify proxy.trace

theorem rpcProxyCreate_following (boot : Boot n) : Following (rpcProxyCreate boot) where
  wellFormed := rpcProxyCreate_wellFormed boot
  history := trivial
  sticky _ stuck := absurd rfl stuck
  running gbt := by simp [rpcProxyCreate, Race.isGbtRace] at gbt

/-- The response that wins a template race leaves the flag. -/
theorem step_notifyPending_of_wins (env : Env) (proxy : Proxy n) (event : Event n)
    (wellFormed : WellFormed proxy) (wins : winsTemplateRace env proxy event = true) :
    (step env proxy event).race.notifyPending = proxy.race.notifyPending := by
  rcases step_of_wins env proxy event wellFormed wins with
    ⟨node, slot, connEvent, results, chunk, rfl, -, -, move⟩
  generalize step env proxy (.conn node slot connEvent results) = result at move
  cases move with
  | counted race inIbd counting => exact counting.notify_eq
  | broadcastWon race inIbd counting => exact counting.notify_eq
  | won race inIbd stuck counting =>
      rw [released, setSlot_race, sendUpstreamResponseToClient_race, stick_race]
      exact counting.notify_eq
  | ended race inIbd counting =>
      rw [raceComplete_race]
      exact counting.notify_eq
  | settled race inIbd stuck counting =>
      rw [raceComplete_race, sendUpstreamResponseToClient_race, stick_race]
      exact counting.notify_eq

/-- What dispatch leaves of the flag and the sticky node. -/
theorem Begun.following {before race : Race n} {method : Memory} {len : Nat}
    (begun : Begun before method len race) {trace : List (Effect n)}
    (sticky : before.notifyPending = false → before.stickyNodeIdx ≠ none →
      1 ≤ templatesSinceNotify trace) (proxy : Proxy n) :
    (race.notifyPending = false → race.stickyNodeIdx ≠ none →
        1 ≤ templatesSinceNotify (requestEffect proxy method :: trace)) ∧
      (race.isGbtRace = true →
        1 ≤ templatesSinceNotify (requestEffect proxy method :: trace)) := by
  rw [templatesSinceNotify_request]
  by_cases template : cString method = methodGbt
  · rw [if_pos template]
    exact ⟨fun _ _ => Nat.le_add_left _ _, fun _ => Nat.le_add_left _ _⟩
  · have other : race.methodIs methodGbt = false := by
      simpa [Race.methodIs, begun.method_eq] using template
    rw [if_neg template, Nat.add_zero]
    refine ⟨?_, fun gbt => by simp [Race.isGbtRace, other] at gbt⟩
    rw [begun.notify_eq, begun.sticky_eq, other]
    simpa using sticky

theorem templatesSinceNotify_sent (node : Option (Fin n)) (trace : List (Effect n)) :
    templatesSinceNotify (node.toList.map .stickySent ++ trace) = templatesSinceNotify trace := by
  cases node <;> rfl

/-- A dispatched request keeps the invariant, if it is raced when it has to be. -/
theorem Following.dispatched {proxy result : Proxy n} (following : Following proxy)
    (wellFormed : WellFormed result) (chunk : Memory) {method : Memory} {len : Nat} {race : Race n}
    (begun : Begun proxy.race method len race) (race_eq : result.race = race)
    (node : Option (Fin n)) (added earlier : List (Effect n))
    (trace : result.trace = added ++ (node.toList.map .stickySent ++
      (earlier ++ requestEffect (withChunk proxy chunk) method :: proxy.trace)))
    (unmarked : ∀ effect ∈ added, isMark effect = false)
    (unmarkedEarlier : ∀ effect ∈ earlier, isMark effect = false)
    (unraced : node ≠ none → cString method = methodGbt →
      proxy.race.notifyPending = false ∧ proxy.race.stickyNodeIdx ≠ none) :
    Following result := by
  have request : AtEach NotFirst
      (requestEffect (withChunk proxy chunk) method :: proxy.trace) :=
    ⟨trivial, following.history⟩
  have opened := notFirst_append unmarkedEarlier request
  have count : templatesSinceNotify result.trace =
      templatesSinceNotify (requestEffect (withChunk proxy chunk) method :: proxy.trace) := by
    rw [trace, templatesSinceNotify_append unmarked, templatesSinceNotify_sent,
      templatesSinceNotify_append unmarkedEarlier]
  rcases Begun.following begun following.sticky (withChunk proxy chunk) with ⟨sticky, running⟩
  rw [← count, ← race_eq] at sticky running
  refine ⟨wellFormed, ?_, sticky, fun gbt _ => running gbt⟩
  rw [trace]
  apply notFirst_append unmarked
  cases node with
  | none => exact opened
  | some sent =>
      refine ⟨fun template => ?_, opened⟩
      change isTemplateCall (latestMethod (earlier ++ _)) = true at template
      change 2 ≤ templatesSinceNotify (earlier ++ _)
      rw [latestMethod_append unmarkedEarlier] at template
      have isTemplate : cString method = methodGbt := by
        simpa [isTemplateCall, latestMethod, requestEffect] using template
      rcases unraced (by simp) isTemplate with ⟨clear, stuck⟩
      rw [templatesSinceNotify_append unmarkedEarlier, templatesSinceNotify_request,
        if_pos isTemplate]
      exact Nat.succ_le_succ (following.sticky clear stuck)

/-- A request that is passed to dispatch keeps the invariant. -/
theorem step_following_of_accepted (env : Env) (proxy : Proxy n) (event : Event n)
    (following : Following proxy) {method : Memory}
    (accepted : acceptedMethod env proxy event = some method) :
    Following (step env proxy event) := by
  have wellFormed := step_wellFormed env proxy event following.wellFormed
  rcases step_eq_acceptRequest env proxy event accepted with
    ⟨chunk, created, -, nonempty, equal⟩
  have raced : cString method = methodGbt →
      proxy.race.notifyPending = true ∨ proxy.race.stickyNodeIdx = none →
      (acceptRequest env (withChunk proxy chunk) method created).race.state ≠ .sticky :=
    acceptRequest_state_ne_sticky env (withChunk proxy chunk) created nonempty
  have acceptance := acceptRequest_acceptance env (withChunk proxy chunk) method created nonempty
  rw [equal] at wellFormed ⊢
  generalize acceptRequest env (withChunk proxy chunk) method created = result
    at acceptance raced wellFormed
  have timer := isMark_timerEffects env proxy created
  cases acceptance with
  | fanout race begun state pending reachable =>
      refine following.dispatched wellFormed chunk begun ?_ none
        (timerEffects proxy env created)
        (startEffects proxy (fanoutTargets proxy) (withChunk proxy chunk).client.recvLen) ?_ timer
        ?_ (by simp)
      · rw [clearRequest_race, startRpcTimeout_race]
      · rw [clearRequest_trace, startRpcTimeout_trace]
        rfl
      · intro effect member
        simp only [startEffects, List.mem_reverse, List.mem_map] at member
        rcases member with ⟨node, -, rfl⟩
        rfl
  | sticky race begun state pending single node stuck available =>
      refine following.dispatched wellFormed chunk begun ?_ (some node)
        (timerEffects proxy env created)
        [.started node (proxy.pairs node).activeIdx (withChunk proxy chunk).client.recvLen] ?_
        timer (by simp [isMark]) ?_
      · rw [clearRequest_race, startRpcTimeout_race]
      · rw [clearRequest_trace, startRpcTimeout_trace]
        rfl
      · intro _ template
        -- Had the flag been set or no node been sticky, the request would have been raced.
        have unraced : ¬ (proxy.race.notifyPending = true ∨ proxy.race.stickyNodeIdx = none) := by
          intro racing
          apply raced template racing
          rw [startRpcTimeout_race]
          exact state
        rw [not_or, Bool.not_eq_true] at unraced
        exact unraced
  | refused race begun state =>
      exact following.dispatched wellFormed chunk begun rfl none []
        [.closeClient proxy.client.target true] rfl (by simp) (by simp [isMark]) (by simp)

theorem step_following (env : Env) (proxy : Proxy n) (event : Event n)
    (following : Following proxy) :
    Following (step env proxy event) := by
  cases accepted : acceptedMethod env proxy event with
  | some method => exact step_following_of_accepted env proxy event following accepted
  | none =>
      have wellFormed := step_wellFormed env proxy event following.wellFormed
      have requests : ∀ added, (step env proxy event).trace = added ++ proxy.trace →
          added.countP isRequest = 0 := by
        intro added trace
        rw [step_requests env proxy event following.wellFormed trace, accepted]
        rfl
      have notify := step_notifyPending_of_wins env proxy event following.wellFormed
      have move := step_sticky env proxy event following.wellFormed
      have won := step_of_wins env proxy event following.wellFormed
      generalize step env proxy event = result at move wellFormed requests notify won
      cases move with
      | kept added trace unmarked sticky_eq notify_eq race_eq =>
          refine ⟨wellFormed, ?_, ?_, ?_⟩
          · rw [trace]
            exact notFirst_append unmarked following.history
          · rw [trace, templatesSinceNotify_append unmarked, sticky_eq, notify_eq]
            exact following.sticky
          · rw [trace, templatesSinceNotify_append unmarked, notify_eq]
            exact fun gbt => following.running (race_eq gbt)
      | notified trace sticky_eq notify_eq =>
          refine ⟨wellFormed, ?_, ?_, ?_⟩
          · rw [trace]
            exact ⟨trivial, following.history⟩
          · simp [notify_eq]
          · simp [notify_eq]
      | accepted added node chunk method earlier trace =>
          have none_ := requests (added ++ (node.toList.map .stickySent ++
            (earlier ++ [requestEffect (withChunk proxy chunk) method]))) (by simp [trace])
          simp [requestEffect, isRequest] at none_
      | crowned later earlier node trace unmarkedLater unmarkedEarlier sticky_eq finished wins =>
          have count : templatesSinceNotify result.trace = templatesSinceNotify proxy.trace := by
            rw [trace, templatesSinceNotify_append unmarkedLater]
            exact templatesSinceNotify_append unmarkedEarlier proxy.trace
          rcases won wins with ⟨-, -, -, -, -, -, gbt, -, -⟩
          refine ⟨wellFormed, ?_, ?_, ?_⟩
          · rw [trace]
            exact notFirst_append unmarkedLater
              ⟨trivial, notFirst_append unmarkedEarlier following.history⟩
          · rw [count, notify wins]
            exact fun clear _ => following.running gbt clear
          · intro running
            simp [Race.isGbtRace, finished] at running

end RpcRace.NotifyRaces
