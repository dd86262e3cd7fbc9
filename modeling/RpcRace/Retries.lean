import RpcRace.TemplateWinner

/-!
# One retry for each node

`on_upstream_error` sends the request again on the other connection of a node
unless `node_retried` is set, and sets it.  The flag is cleared by the next
dispatch only.  So a request is sent to a node at most twice: by the dispatch
and by one retry, which is made in the callback of an error of that node, be
it of this request or of an earlier one (`boundedSends`).
-/

namespace RpcRace.Retries

open RpcRace.Library.CString
open RpcRace.Library.Run
open RpcRace.RpcConn
open RpcRace.JsonResponse
open RpcRace.RpcProxy
open RpcRace.Dispatch
open RpcRace.RaceMoves
open RpcRace.ProxyMoves
open RpcRace.SlotMoves
open RpcRace.Requests
open RpcRace.ClientMoves
open RpcRace.Outcomes
open RpcRace.Broadcast
open RpcRace.TemplateWinner

variable {n : Nat}

/-! ## Counting sends -/

/-- How often a request was sent to a node, on either of its slots. -/
def sendsTo (node : Fin n) (trace : List (Effect n)) : Nat :=
  trace.countP (startsNode node)

theorem sendsTo_append {node : Fin n} {added : List (Effect n)}
    (silent : ∀ effect ∈ added, startsNode node effect = false) (trace : List (Effect n)) :
    sendsTo node (added ++ trace) = sendsTo node trace := by
  have none : added.countP (startsNode node) = 0 := by
    rw [List.countP_eq_zero]
    intro effect member
    simp [silent effect member]
  rw [sendsTo, List.countP_append, none, Nat.zero_add]
  rfl

theorem sendsTo_raceComplete (node : Fin n) (proxy : Proxy n) :
    sendsTo node (raceComplete proxy).trace = sendsTo node proxy.trace := by
  rw [raceComplete_trace]
  apply sendsTo_append
  exact forall_raceComplete proxy rfl fun _ => rfl

theorem startsNode_of_isAside {node : Fin n} {effect : Effect n} (quiet : isAside effect = true) :
    startsNode node effect = false := by
  cases effect with
  | started => simp [isAside, isHousekeeping] at quiet
  | _ => rfl

/-- What a callback that accepts no request sends to a node, and what it notes of it. -/
inductive SendMove (proxy : Proxy n) (event : Event n) (node : Fin n) (result : Proxy n) :
    Prop where
  | none (same : sendsTo node result.trace = sendsTo node proxy.trace)
      (kept : proxy.race.nodeRetried node = true → result.race.nodeRetried node = true)
  /-- `on_upstream_error` retries the node for the first time. -/
  | retried (slot : Fin 2) (connEvent : ConnEvent) (results : List SendResult)
      (event_eq : event = .conn node slot connEvent results)
      (error : upcallOf proxy event = some .error)
      (first : proxy.race.nodeRetried node = false)
      (noted : result.race.nodeRetried node = true)
      (one : sendsTo node result.trace = sendsTo node proxy.trace + 1)

theorem ResponseMove.sends {env : Env} {proxy result : Proxy n} {node : Fin n} {slot : Fin 2}
    {event : Event n} {chunk : Memory} {results : List SendResult}
    (move : ResponseMove env proxy node slot chunk results result) (other : Fin n) :
    SendMove proxy event other result := by
  have forwarded : ∀ race inIbd stuck,
      sendsTo other (sendUpstreamResponseToClient
        (stick (answered proxy node slot chunk race inIbd) node stuck) node slot results).trace =
      sendsTo other proxy.trace := by
    intro race inIbd stuck
    rw [forwarded_trace_eq]
    cases stuck <;> rfl
  have kept : ∀ {stuck race},
      Counted env proxy.race ((proxy.slot node slot).absorb chunk) node stuck race →
      proxy.race.nodeRetried other = true → race.nodeRetried other = true := by
    intro stuck race counting retried
    rw [counting.retried_eq]
    exact retried
  cases move with
  | counted race inIbd counting => exact .none rfl (kept counting)
  | broadcastWon race inIbd counting => exact .none (forwarded race inIbd false) (kept counting)
  | won race inIbd stuck counting =>
      refine .none (forwarded race inIbd stuck) fun retried => ?_
      have noted := kept counting retried
      simpa [released] using noted
  | ended race inIbd counting =>
      refine .none (sendsTo_raceComplete other _) fun retried => ?_
      have noted := kept counting retried
      rw [raceComplete_race]
      exact noted
  | settled race inIbd stuck counting =>
      refine .none ?_ fun retried => ?_
      · rw [sendsTo_raceComplete, forwarded]
      · have noted := kept counting retried
        rw [raceComplete_race, sendUpstreamResponseToClient_race, stick_race]
        exact noted

/-- A node that is counted as failed is not sent to. -/
theorem FailureMove.sends {base result : Proxy n} {node : Fin n}
    (move : FailureMove base node result) (other : Fin n) :
    sendsTo other result.trace = sendsTo other base.trace ∧
      result.race.nodeRetried = base.race.nodeRetried := by
  cases move with
  | counted => exact ⟨rfl, rfl⟩
  | ended => exact ⟨sendsTo_raceComplete other _, by rw [raceComplete_race]; rfl⟩
  | closed => exact ⟨sendsTo_raceComplete other _, by rw [raceComplete_race]; rfl⟩

theorem ErrorMove.sends {proxy result : Proxy n} {node : Fin n} {slot : Fin 2}
    {connEvent : ConnEvent} {results : List SendResult}
    (move : ErrorMove (breakage proxy node slot) node result)
    (error : upcallOf proxy (.conn node slot connEvent results) = some .error) (other : Fin n) :
    SendMove proxy (.conn node slot connEvent results) other result := by
  have marked : proxy.race.nodeRetried other = true →
      Function.update proxy.race.nodeRetried node true other = true := by
    intro retried
    rw [Function.update_apply, retried, ite_self]
  cases move with
  | retried retryable =>
      by_cases same : other = node
      · subst same
        refine .retried slot connEvent results rfl error retryable.1 ?_ ?_
        · exact Function.update_self other true proxy.race.nodeRetried
        · change List.countP _ (_ :: .failed other slot :: .transferred other slot [] [] ::
            proxy.trace) = _
          simp [sendsTo, startsNode]
      · refine .none ?_ marked
        change List.countP _ (_ :: .failed node slot :: .transferred node slot [] [] ::
          proxy.trace) = _
        simp [sendsTo, startsNode, Ne.symm same]
  | twice already result failure =>
      rcases FailureMove.sends failure other with ⟨same, retried_eq⟩
      refine .none same fun retried => ?_
      rw [retried_eq]
      exact retried
  | lost first final result failure =>
      rcases FailureMove.sends failure other with ⟨same, retried_eq⟩
      refine .none same fun retried => ?_
      rw [retried_eq]
      exact marked retried

theorem TimeoutMove.sends {proxy result : Proxy n} {event : Event n} {fd : Nat}
    (move : TimeoutMove proxy fd result) (other : Fin n) :
    SendMove proxy event other result := by
  cases move with
  | drained =>
      refine .none ?_ fun retried => ?_
      · rw [cancelRpcTimeout_trace]
        exact sendsTo_append (forall_cancelEffects _ fun _ => rfl) _
      · rw [cancelRpcTimeout_race]
        exact retried
  | ended =>
      refine .none (sendsTo_raceComplete other _) fun retried => ?_
      rw [raceComplete_race]
      exact retried
  | closed =>
      refine .none (sendsTo_raceComplete other _) fun retried => ?_
      rw [raceComplete_race]
      exact retried

/-- Every callback that accepts no request sends at most one retry to a node. -/
theorem step_sends (env : Env) (proxy : Proxy n) (event : Event n) (wellFormed : WellFormed proxy)
    (waiting : NoRequest env proxy event) (node : Fin n) :
    SendMove proxy event node (step env proxy event) := by
  have quiet : ∀ {added : List (Effect n)}, (∀ effect ∈ added, isAside effect = true) →
      ∀ trace, sendsTo node (added ++ trace) = sendsTo node trace := by
    intro added aside trace
    exact sendsTo_append (fun effect member => startsNode_of_isAside (aside effect member)) trace
  have move := step_raceStep env proxy event wellFormed
  generalize step env proxy event = result at move
  cases move with
  | aside event result added trace aside race_eq =>
      refine .none ?_ fun retried => ?_
      · rw [trace, quiet aside]
      · rwa [race_eq]
  | notified => exact .none rfl id
  | request event chunk method result bytes accepted =>
      rw [NoRequest, accepted] at waiting
      contradiction
  | lateResponse target slot event results chunk result added out idle trace aside race_eq =>
      refine .none ?_ fun retried => ?_
      · rw [trace, quiet aside]
        rfl
      · rwa [race_eq]
  | response target slot event results chunk result out complete active move =>
      exact ResponseMove.sends move node
  | lateError target slot event results result added idle trace aside race_eq =>
      refine .none ?_ fun retried => ?_
      · rw [trace, quiet aside]
        rfl
      · rwa [race_eq]
  | error target slot event results result out active move =>
      exact ErrorMove.sends move (by simp [upcallOf, out, ConnOutcome.quiet]) node
  | expired fd results result registered move => exact TimeoutMove.sends move node

/-! ## Dispatch -/

/-- A fan-out sends at most once to a node. -/
theorem sendsTo_startEffects (proxy : Proxy n) (nodes : List (Fin n)) (distinct : nodes.Nodup)
    (len : Nat) (node : Fin n) :
    sendsTo node (startEffects proxy nodes len) ≤ 1 := by
  have count_eq : sendsTo node (startEffects proxy nodes len) = nodes.count node := by
    rw [sendsTo, startEffects, List.countP_reverse, List.countP_map, List.count]
    rfl
  rw [count_eq]
  exact List.nodup_iff_count_le_one.mp distinct node

theorem Acceptance.sends {env : Env} {proxy result : Proxy n} {method : Memory} {created : Bool}
    (acceptance : Acceptance env proxy method created result) (node : Fin n) :
    sendsTo node result.trace ≤ sendsTo node proxy.trace + 1 := by
  have timed : ∀ base : Proxy n, sendsTo node (startRpcTimeout env base created).trace =
      sendsTo node base.trace := by
    intro base
    rw [startRpcTimeout_trace]
    exact sendsTo_append (forall_timerEffects base env created fun _ => rfl) _
  cases acceptance with
  | fanout =>
      have once := sendsTo_startEffects proxy (fanoutTargets proxy)
        ((List.nodup_finRange n).filter _) proxy.client.recvLen node
      rw [timed, sendsTo, List.countP_append]
      change sendsTo node (startEffects _ _ _) + sendsTo node proxy.trace ≤ _
      omega
  | sticky race begun state pending single target =>
      rw [timed]
      change List.countP (startsNode node) (.started target _ _ :: proxy.trace) ≤ _
      rw [List.countP_cons]
      split_ifs
      · exact le_rfl
      · exact Nat.le_succ _
  | refused => exact Nat.le_succ _

/-! ## Runs -/

/--
The sends to a node for one request: by the callback that accepts it, and by
the callbacks `during` it, until the next request is accepted.
-/
structure BoundedSends (env : Env) (start : Proxy n) (event : Event n) (during : List (Event n))
    (node : Fin n) : Prop where
  /-- `dispatch_fanout` and `dispatch_sticky`, with its fall backs. -/
  dispatch : sendsTo node (step env start event).trace ≤ sendsTo node start.trace + 1
  /-- `on_upstream_error`. -/
  retry : sendsTo node (run (step env) (step env start event) during).trace ≤
    sendsTo node (step env start event).trace + 1
  total : sendsTo node (run (step env) (step env start event) during).trace ≤
    sendsTo node start.trace + 2
  /-- The callback that retries reports an error of a slot of the node. -/
  cause : Along (step env)
    (fun proxy event => sendsTo node (step env proxy event).trace ≠ sendsTo node proxy.trace →
      ∃ slot connEvent results, event = .conn node slot connEvent results ∧
        upcallOf proxy event = some .error)
    (step env start event) during

/-- The sends since the request was accepted, bounded by the flag. -/
def Spent (node : Fin n) (count : Nat) (proxy : Proxy n) : Prop :=
  sendsTo node proxy.trace ≤ count + if proxy.race.nodeRetried node then 1 else 0

theorem SendMove.spent {proxy result : Proxy n} {event : Event n} {node : Fin n} {count : Nat}
    (move : SendMove proxy event node result) (spent : Spent node count proxy) :
    Spent node count result := by
  unfold Spent at spent ⊢
  cases move with
  | none same kept =>
      rw [same]
      refine spent.trans (Nat.add_le_add_left ?_ count)
      split_ifs with before after
      · exact le_rfl
      · exact absurd (kept before) after
      · exact Nat.zero_le _
      · exact le_rfl
  | retried slot connEvent results event_eq error first noted one =>
      rw [first] at spent
      rw [noted, one]
      exact Nat.add_le_add_right spent 1

/--
At most one send of a request to a node comes from the dispatch and at most
one from `on_upstream_error`, after an error of that node.
-/
theorem boundedSends (env : Env) (boot : Boot n) (before : List (Event n)) (event : Event n)
    (during : List (Event n)) (method : Memory)
    (accepted :
      acceptedMethod env (run (step env) (rpcProxyCreate boot) before) event = some method)
    (waiting : Along (step env) (NoRequest env)
      (step env (run (step env) (rpcProxyCreate boot) before) event) during)
    (node : Fin n) :
    BoundedSends env (run (step env) (rpcProxyCreate boot) before) event during node := by
  have wellFormed := run_wellFormed env boot before
  generalize run (step env) (rpcProxyCreate boot) before = start at wellFormed accepted waiting
  have dispatch : sendsTo node (step env start event).trace ≤ sendsTo node start.trace + 1 := by
    rcases step_of_accepted env start event wellFormed accepted with
      ⟨chunk, created, result, -, -, -, acceptance, step_eq⟩
    rw [step_eq]
    exact Acceptance.sends acceptance node
  have keep : ∀ count (proxy : Proxy n) event,
      WellFormed proxy ∧ Spent node count proxy → NoRequest env proxy event →
      WellFormed (step env proxy event) ∧ Spent node count (step env proxy event) := by
    rintro count proxy event ⟨wellFormed, spent⟩ waiting
    exact ⟨step_wellFormed env proxy event wellFormed,
      (step_sends env proxy event wellFormed waiting node).spent spent⟩
  have first : WellFormed (step env start event) ∧
      Spent node (sendsTo node (step env start event).trace) (step env start event) :=
    ⟨step_wellFormed env start event wellFormed, Nat.le_add_right _ _⟩
  have last := (throughout_end (throughout_of_along (keep _) first waiting)).2
  have retry : sendsTo node (run (step env) (step env start event) during).trace ≤
      sendsTo node (step env start event).trace + 1 := by
    refine last.trans (Nat.add_le_add_left ?_ _)
    split_ifs
    · exact le_rfl
    · exact Nat.zero_le _
  refine ⟨dispatch, retry, by omega, ?_⟩
  refine along_of_along (keep _) ?_ first waiting
  rintro proxy event ⟨wellFormed, -⟩ waiting sends
  cases step_sends env proxy event wellFormed waiting node with
  | none same => exact absurd same sends
  | retried slot connEvent results event_eq error =>
      exact ⟨slot, connEvent, results, event_eq, error⟩

/-- A request is sent, its connection breaks, and it is sent again on the other one. -/
theorem boundedSends_brokenOnce :
    sendsTo 0 (exampleRun 1 [clientConnects]).trace = 0 ∧
      sendsTo 0 (exampleRun 1 [clientConnects, clientSends addressRequest, slotFails 0 0]).trace =
        2 ∧
      BoundedSends exampleEnv (exampleRun 1 [clientConnects]) (clientSends addressRequest)
        [slotFails 0 0] 0 := by
  have facts :
      acceptedMethod exampleEnv (exampleRun 1 [clientConnects]) (clientSends addressRequest) =
          some (ascii "validateaddress") ∧
        Along (step exampleEnv) (NoRequest exampleEnv)
          (step exampleEnv (exampleRun 1 [clientConnects]) (clientSends addressRequest))
          [slotFails 0 0] ∧
        sendsTo 0 (exampleRun 1 [clientConnects]).trace = 0 ∧
        sendsTo 0
          (exampleRun 1 [clientConnects, clientSends addressRequest, slotFails 0 0]).trace = 2 := by
    decide +kernel
  rcases facts with ⟨accepted, waiting, none, both⟩
  exact ⟨none, both, boundedSends exampleEnv (exampleBoot 1) [clientConnects]
    (clientSends addressRequest) [slotFails 0 0] (ascii "validateaddress") accepted waiting 0⟩

end RpcRace.Retries
