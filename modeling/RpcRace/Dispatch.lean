import RpcRace.RpcProxy
import RpcRace.PairMoves

/-!
# What accepting a request does

`dispatch_fanout` is a loop over the nodes.  Its effect is stated here in
closed form: every available pair starts to send, and nothing else changes.
From it follows `acceptRequest_acceptance`, which says once what `client_cb`
can do with a request it passes to dispatch: fan it out, send it to the
sticky node alone, or close the client.
-/

namespace RpcRace.Dispatch

open RpcRace.Library.CString
open RpcRace.RpcConn
open RpcRace.ConnectionPair
open RpcRace.PairMoves
open RpcRace.RpcProxy

variable {n : Nat}

/-! ## The fan-out loop -/

/-- The pair after `rpc_conn_send` on its active connection. -/
def sendActive (pair : ConnPair) (len : Nat) : ConnPair :=
  pair.setSlot pair.activeIdx ((connPairGetActive pair).beginSend len)

/-- The nodes `dispatch_fanout` sends to, in order. -/
def fanoutTargets (proxy : Proxy n) : List (Fin n) :=
  (List.finRange n).filter fun node => connPairIsAvailable (proxy.pairs node)

/-- The pairs `dispatch_fanout` leaves. -/
def fanoutPairs (proxy : Proxy n) (len : Nat) (node : Fin n) : ConnPair :=
  if connPairIsAvailable (proxy.pairs node) then sendActive (proxy.pairs node) len
  else proxy.pairs node

/-- The sends that a list of nodes receives, newest first. -/
def startEffects (proxy : Proxy n) (nodes : List (Fin n)) (len : Nat) : List (Effect n) :=
  (nodes.map fun node => Effect.started node (proxy.pairs node).activeIdx len).reverse

/-- The record of a request that is passed to dispatch. -/
def requestEffect (proxy : Proxy n) (method : Memory) : Effect n :=
  .requestAccepted proxy.client.target
    (proxy.client.recvBuf.take proxy.client.recvLen) method proxy.now

theorem sendOnActive_eq (proxy : Proxy n) (node : Fin n) {len : Nat}
    (nonempty : len ≠ 0) (available : connPairIsAvailable (proxy.pairs node) = true) :
    sendOnActive proxy node len =
      some
        ((proxy.setPair node (sendActive (proxy.pairs node) len)).emit
          (.started node (proxy.pairs node).activeIdx len)) := by
  have connected : (connPairGetActive (proxy.pairs node)).state = .connected := by
    simpa [connPairIsAvailable] using available
  have sent :
      rpcConnSend (proxy.active node) len = some ((proxy.active node).beginSend len) :=
    rpcConnSend_eq_some.mpr ⟨nonempty, connected, rfl⟩
  rw [sendOnActive, sent]
  rfl

/-- The loop over any duplicate-free list of nodes. -/
theorem foldl_fanoutStep (nodes : List (Fin n)) (distinct : nodes.Nodup)
    (proxy : Proxy n) (sent : Nat) (nonempty : proxy.client.recvLen ≠ 0) :
    nodes.foldl fanoutStep (proxy, sent) =
      ({ proxy with
          pairs := fun node =>
            if node ∈ nodes then fanoutPairs proxy proxy.client.recvLen node
            else proxy.pairs node
          trace :=
            startEffects proxy
              (nodes.filter fun node => connPairIsAvailable (proxy.pairs node))
              proxy.client.recvLen ++ proxy.trace },
        sent + (nodes.filter fun node => connPairIsAvailable (proxy.pairs node)).length) := by
  induction nodes generalizing proxy sent with
  | nil => simp [startEffects]
  | cons head rest induction =>
      obtain ⟨fresh, distinctRest⟩ := List.nodup_cons.mp distinct
      rw [List.foldl_cons, fanoutStep]
      cases available : connPairIsAvailable (proxy.pairs head) with
      | false =>
          rw [if_neg (by simp), induction distinctRest proxy sent nonempty]
          simp only [List.filter_cons, available, Bool.false_eq_true, if_false]
          congr 2
          funext node
          by_cases same : node = head
          · subst same
            simp [fresh, fanoutPairs, available]
          · simp [same]
      | true =>
          rw [if_pos rfl, sendOnActive_eq proxy head nonempty available]
          dsimp only
          rw [induction distinctRest _ _ (by simpa using nonempty)]
          -- the head is not in the rest, so the send on it changes nothing there
          have keepPair : ∀ node ∈ rest,
              ((proxy.setPair head (sendActive (proxy.pairs head) proxy.client.recvLen)).emit
                (.started head (proxy.pairs head).activeIdx proxy.client.recvLen)).pairs node =
                  proxy.pairs node := by
            intro node member
            have different : node ≠ head := fun equal => fresh (equal ▸ member)
            simp [Function.update_of_ne different]
          have keepTargets :
              (rest.filter fun node =>
                connPairIsAvailable
                  (((proxy.setPair head
                      (sendActive (proxy.pairs head) proxy.client.recvLen)).emit
                    (.started head (proxy.pairs head).activeIdx proxy.client.recvLen)).pairs
                      node)) =
                rest.filter fun node => connPairIsAvailable (proxy.pairs node) :=
            List.filter_congr fun node member => by rw [keepPair node member]
          rw [keepTargets]
          simp only [List.filter_cons, available, if_true, List.length_cons]
          refine Prod.ext ?_ (by simp; omega)
          dsimp only
          congr 1
          · funext node
            by_cases same : node = head
            · subst same
              simp [fresh, fanoutPairs, available]
            · by_cases member : node ∈ rest
              · simp [member, fanoutPairs, Function.update_of_ne same]
              · simp [member, same]
          · have keepStarts :
                startEffects
                    ((proxy.setPair head
                        (sendActive (proxy.pairs head) proxy.client.recvLen)).emit
                      (.started head (proxy.pairs head).activeIdx proxy.client.recvLen))
                    (rest.filter fun node => connPairIsAvailable (proxy.pairs node))
                    proxy.client.recvLen =
                  startEffects proxy
                    (rest.filter fun node => connPairIsAvailable (proxy.pairs node))
                    proxy.client.recvLen := by
              unfold startEffects
              congr 1
              refine List.map_congr_left fun node member => ?_
              rw [keepPair node (List.mem_of_mem_filter member)]
            simp only [Proxy.emit_client, Proxy.setPair_client, Proxy.emit_trace,
              Proxy.setPair_trace]
            rw [keepStarts]
            simp [startEffects]

/-- `dispatch_fanout` in closed form. -/
theorem dispatchFanout_eq (proxy : Proxy n) (nonempty : proxy.client.recvLen ≠ 0) :
    dispatchFanout proxy =
      ({ proxy with
          race := { proxy.race with
            nodeRetried := fun _ => false
            requestLen := proxy.client.recvLen
            responsesPending := (fanoutTargets proxy).length }
          pairs := fanoutPairs proxy proxy.client.recvLen
          trace :=
            startEffects proxy (fanoutTargets proxy) proxy.client.recvLen ++ proxy.trace },
        (fanoutTargets proxy).length) := by
  unfold dispatchFanout
  rw [foldl_fanoutStep _ (List.nodup_finRange n) _ _ (by simpa [prepareDispatch] using nonempty)]
  simp only [prepareDispatch, List.mem_finRange, if_true, Nat.zero_add]
  rfl

/-! ## Acceptance -/

/-- The method is one that goes to all nodes and waits for all of them. -/
def isBroadcast (method : Memory) : Bool :=
  cString method = methodSubmitblock || cString method = methodSendrawtx

/-- The race fields of a request that has just been passed to dispatch. -/
structure Begun (before : Race n) (method : Memory) (len : Nat) (race : Race n) : Prop where
  method_eq : race.method = method
  winner_eq : race.winnerIdx = none
  lastError_eq : race.lastErrorIdx = none
  bestNode_eq : race.bestGbtNodeIdx = none
  bestHeight_eq : race.bestGbtHeight = -1
  matched_eq : race.gbtHeightMatched = false
  retried_eq : ∀ node, race.nodeRetried node = false
  requestLen_eq : race.requestLen = len
  sticky_eq : race.stickyNodeIdx = before.stickyNodeIdx
  height_eq : race.lastBlockHeight = before.lastBlockHeight
  notify_eq : race.notifyPending = (before.notifyPending && !race.methodIs methodGbt)
  all_eq : race.allMustComplete = isBroadcast method

/-- What `client_cb` can do with a request that it passes to dispatch. -/
inductive Acceptance (env : Env) (proxy : Proxy n) (method : Memory) (created : Bool) :
    Proxy n → Prop where
  | fanout (race : Race n) (begun : Begun proxy.race method proxy.client.recvLen race)
      (state : race.state = .fanout)
      (pending : race.responsesPending = (fanoutTargets proxy).length)
      (reachable : fanoutTargets proxy ≠ []) :
      Acceptance env proxy method created
        (startRpcTimeout env
          { proxy with
            race := race
            pairs := fanoutPairs proxy proxy.client.recvLen
            trace :=
              startEffects proxy (fanoutTargets proxy) proxy.client.recvLen ++
                requestEffect proxy method :: proxy.trace }
          created)
  | sticky (race : Race n) (begun : Begun proxy.race method proxy.client.recvLen race)
      (state : race.state = .sticky) (pending : race.responsesPending = 1)
      (single : race.allMustComplete = false)
      (node : Fin n) (stuck : race.stickyNodeIdx = some node)
      (available : connPairIsAvailable (proxy.pairs node) = true) :
      Acceptance env proxy method created
        (startRpcTimeout env
          { proxy with
            race := race
            pairs :=
              Function.update proxy.pairs node
                (sendActive (proxy.pairs node) proxy.client.recvLen)
            trace :=
              .stickySent node ::
                .started node (proxy.pairs node).activeIdx proxy.client.recvLen ::
                  requestEffect proxy method :: proxy.trace }
          created)
  | refused (race : Race n) (begun : Begun proxy.race method proxy.client.recvLen race)
      (state : race.state = .idle)
      (unreachable : isBroadcast method = true → fanoutTargets proxy = []) :
      Acceptance env proxy method created
        (closeClient
          { proxy with
            race := race
            trace := requestEffect proxy method :: proxy.trace }
          true)

/-- `classify_method` only stores the method and consumes the notify flag. -/
theorem classifyMethod_race (race : Race n) :
    (classifyMethod race).2 =
      { race with notifyPending := race.notifyPending && !race.methodIs methodGbt } := by
  unfold classifyMethod
  split_ifs with gbt racing
  · simp [gbt]
  · rw [not_or] at racing
    simp [gbt, Bool.eq_false_iff.mpr racing.1]
    rw [← Bool.eq_false_iff.mpr racing.1]
  all_goals simp [gbt]

/-- A template call is no broadcast. -/
theorem methodIs_gbt_of_isBroadcast {race : Race n} (broadcast : isBroadcast race.method = true) :
    race.methodIs methodGbt = false := by
  simp only [isBroadcast, Bool.or_eq_true, decide_eq_true_eq] at broadcast
  rcases broadcast with submit | send
  · rw [Race.methodIs, submit]
    decide
  · rw [Race.methodIs, send]
    decide

/-- Exactly the broadcast methods take the broadcast route. -/
theorem classifyMethod_broadcast (race : Race n) :
    (classifyMethod race).1 = .broadcast ↔ isBroadcast race.method = true := by
  constructor
  · intro broadcast
    simp only [classifyMethod] at broadcast
    split_ifs at broadcast with gbt racing submit send precious
    · simp only [Race.methodIs] at submit
      simp [isBroadcast, submit]
    · simp only [Race.methodIs] at send
      simp [isBroadcast, send]
  · intro broadcast
    have other := methodIs_gbt_of_isBroadcast broadcast
    rw [isBroadcast, Bool.or_eq_true] at broadcast
    simp only [classifyMethod, other, Bool.false_eq_true, if_false]
    rcases broadcast with submit | send
    · rw [if_pos (by exact submit)]
    · rw [if_pos (show race.methodIs methodSendrawtx = true from send)]
      split_ifs <;> rfl

/-- A race as both dispatch functions leave it. -/
def preparedRace (race : Race n) (len : Nat) (pending : Int) : Race n :=
  { race with
    nodeRetried := fun _ => false
    requestLen := len
    responsesPending := pending }

/-- The race of a request right before its dispatch. -/
def openedRace (before : Race n) (method : Memory) (state : RaceState) (all : Bool) : Race n :=
  (classifyMethod { before with method := method }).2.begin state all

/-- A race that was opened for a request keeps the facts of `Begun` through dispatch. -/
theorem begun_preparedRace (before : Race n) (method : Memory) (len : Nat) (pending : Int)
    (state final : RaceState) (all : Bool)
    (all_eq : all = isBroadcast method) :
    Begun before method len
      { preparedRace (openedRace before method state all) len pending with state := final } := by
  unfold openedRace
  rw [classifyMethod_race]
  exact
    { method_eq := rfl
      winner_eq := rfl
      lastError_eq := rfl
      bestNode_eq := rfl
      bestHeight_eq := rfl
      matched_eq := rfl
      retried_eq := fun _ => rfl
      requestLen_eq := rfl
      sticky_eq := rfl
      height_eq := rfl
      notify_eq := rfl
      all_eq := all_eq }

/-- `client_cb` after the dispatch function returned. -/
def finishDispatch (env : Env) (dispatched : Proxy n × Bool) (created : Bool) : Proxy n :=
  if dispatched.2 then startRpcTimeout env dispatched.1 created
  else { dispatched.1 with race := { dispatched.1.race with state := .idle } }

/-- A fan-out dispatch either starts a race or closes the client. -/
theorem fanoutOrClose_acceptance (env : Env) (proxy : Proxy n) (method : Memory)
    (created all : Bool) (opened : RaceState) (nonempty : proxy.client.recvLen ≠ 0)
    (all_eq : all = isBroadcast method)
    (race : Race n)
    (race_eq : race =
      { openedRace proxy.race method opened all with state := .fanout }) :
    Acceptance env proxy method created
      (finishDispatch env
        (fanoutOrClose
          { proxy with race := race, trace := requestEffect proxy method :: proxy.trace })
        created) := by
  subst race_eq
  unfold fanoutOrClose
  rw [dispatchFanout_eq _ (by exact nonempty)]
  dsimp only
  split_ifs with unreachable
  · have noTargets : fanoutTargets proxy = [] := List.length_eq_zero_iff.mp unreachable
    have keepPairs : fanoutPairs proxy proxy.client.recvLen = proxy.pairs := by
      funext node
      have unavailable : connPairIsAvailable (proxy.pairs node) = false := by
        by_contra available
        have member : node ∈ fanoutTargets proxy :=
          List.mem_filter.mpr ⟨List.mem_finRange node, by simpa using available⟩
        simp [noTargets] at member
      simp [fanoutPairs, unavailable]
    have refused : Acceptance env proxy method created _ := .refused _
      (begun_preparedRace proxy.race method proxy.client.recvLen
        (fanoutTargets proxy).length opened .idle all all_eq) rfl (fun _ => noTargets)
    convert refused using 1
    simp only [finishDispatch, closeClient, Bool.false_eq_true, if_false]
    congr 1
    change _ :: (startEffects proxy (fanoutTargets proxy) _ ++ _) = _
    rw [noTargets]
    rfl
  · have reachable : fanoutTargets proxy ≠ [] := fun none =>
      unreachable (List.length_eq_zero_iff.mpr none)
    exact Acceptance.fanout _
      (begun_preparedRace proxy.race method proxy.client.recvLen
        (fanoutTargets proxy).length opened .fanout all all_eq) rfl rfl reachable

/-- A sticky request that cannot go to its node closes the client or fans out. -/
theorem stickyUnavailable_acceptance (env : Env) (proxy : Proxy n) (method : Memory)
    (created : Bool) (nonempty : proxy.client.recvLen ≠ 0)
    (single : false = isBroadcast method) :
    Acceptance env proxy method created
      (finishDispatch env
        (stickyUnavailable
          (prepareDispatch
            { proxy with
              race := openedRace proxy.race method .sticky false
              trace := requestEffect proxy method :: proxy.trace }))
        created) := by
  unfold stickyUnavailable
  split_ifs with precious
  · exact Acceptance.refused _
      (begun_preparedRace proxy.race method proxy.client.recvLen _ .sticky .idle false
        single) rfl (by simp [← single])
  · have fanned := fanoutOrClose_acceptance env proxy method created false .sticky nonempty
      single _ rfl
    convert fanned using 2
    simp only [fallBackToFanout, prepareDispatch]
    unfold fanoutOrClose
    rw [dispatchFanout_eq _ (by exact nonempty), dispatchFanout_eq _ (by exact nonempty)]
    rfl

/-- `dispatch_sticky` as an acceptance. -/
theorem dispatchSticky_acceptance (env : Env) (proxy : Proxy n) (method : Memory)
    (created : Bool) (nonempty : proxy.client.recvLen ≠ 0)
    (single : false = isBroadcast method) :
    Acceptance env proxy method created
      (finishDispatch env
        (dispatchSticky
          { proxy with
            race := openedRace proxy.race method .sticky false
            trace := requestEffect proxy method :: proxy.trace })
        created) := by
  have unavailable := stickyUnavailable_acceptance env proxy method created nonempty single
  unfold dispatchSticky
  dsimp only
  split
  · exact unavailable
  · rename_i node stuck
    split_ifs with available
    · rw [sendOnActive_eq _ _ (by simpa [prepareDispatch] using nonempty) available]
      exact Acceptance.sticky _
        (begun_preparedRace proxy.race method proxy.client.recvLen 1 .sticky .sticky false
          single) rfl rfl rfl node stuck available
    · exact unavailable

/-- Every accepted request is fanned out, sent to the sticky node, or refused. -/
theorem acceptRequest_acceptance (env : Env) (proxy : Proxy n) (method : Memory)
    (created : Bool) (nonempty : proxy.client.recvLen ≠ 0) :
    Acceptance env proxy method created (acceptRequest env proxy method created) := by
  change Acceptance env proxy method created (finishDispatch env (dispatchRoute _ _) created)
  have broadcast_iff := classifyMethod_broadcast ({ proxy.race with method := method } : Race n)
  cases route : (classifyMethod { proxy.race with method := method }).1 with
  | race =>
      rw [route] at broadcast_iff
      exact fanoutOrClose_acceptance env proxy method created false .fanout nonempty
        (by simpa using broadcast_iff) _ rfl
  | broadcast =>
      exact fanoutOrClose_acceptance env proxy method created true .fanout nonempty
        (broadcast_iff.mp route).symm _ rfl
  | sticky =>
      rw [route] at broadcast_iff
      exact dispatchSticky_acceptance env proxy method created nonempty
        (by simpa using broadcast_iff)

end RpcRace.Dispatch
