import RpcRace.Broadcast
import RpcRace.StickyNode

/-!
# Which template wins

The tests describe the choice among several block templates by a function
`select_gbt_winner` over all the responses of a race.  The handler does not
wait for all of them: the first response that is no error is forwarded, its
node becomes sticky and the race is over, and what comes later is drained.
`matchesReference_of_firstIsBest` says when both agree.
-/

namespace RpcRace.TemplateWinner

open RpcRace.Library.CString
open RpcRace.Library.Run
open RpcRace.RpcConn
open RpcRace.ConnectionPair
open RpcRace.PairMoves
open RpcRace.JsonResponse
open RpcRace.RpcProxy
open RpcRace.Dispatch
open RpcRace.RaceMoves
open RpcRace.ProxyMoves
open RpcRace.SlotMoves
open RpcRace.Requests
open RpcRace.ClientMoves
open RpcRace.Outcomes
open RpcRace.StickyNode
open RpcRace.Broadcast

variable {n : Nat}

/-! ## The reference -/

/-- A template of some height, from some node. -/
structure Arrival (n : Nat) where
  node : Fin n
  height : Int
deriving DecidableEq

/-- The second pass of `select_gbt_winner`: a later response of the same height is preferred. -/
def lastGreatest (best : Arrival n) : List (Arrival n) → Arrival n
  | [] => best
  | response :: rest =>
      lastGreatest (if best.height ≤ response.height then response else best) rest

/--
`select_gbt_winner` over the responses in the order of their arrival; `none`
is the result `-1`.
-/
def selectGbtWinner (responses : List (Arrival n)) (expected : Int) : Option (Arrival n) :=
  match responses with
  | [] => none
  | first :: rest =>
      match (first :: rest).find? fun response => response.height = expected with
      | some response => some response
      | none => some (lastGreatest first rest)

/-- No response is better than the first one. -/
def BestFirst (expected : Int) : List (Arrival n) → Prop
  | [] => True
  | first :: rest =>
      ∀ later ∈ rest,
        first.height = expected ∨ later.height ≠ expected ∧ later.height < first.height

theorem lastGreatest_eq {first : Arrival n} {rest : List (Arrival n)}
    (smaller : ∀ later ∈ rest, later.height < first.height) :
    lastGreatest first rest = first := by
  induction rest with
  | nil => rfl
  | cons response rest induction =>
      have next := smaller response List.mem_cons_self
      rw [lastGreatest, if_neg (by omega)]
      exact induction fun later member => smaller later (List.mem_cons_of_mem _ member)

theorem selectGbtWinner_of_bestFirst {expected : Int} {first : Arrival n}
    {rest : List (Arrival n)} (best : BestFirst expected (first :: rest)) :
    selectGbtWinner (first :: rest) expected = some first := by
  rw [selectGbtWinner]
  by_cases hit : first.height = expected
  · rw [List.find?_cons_of_pos (by simpa using hit)]
  · have others : ∀ later ∈ rest, later.height ≠ expected ∧ later.height < first.height := by
      intro later member
      rcases best later member with equal | smaller
      · exact absurd equal hit
      · exact smaller
    have unmatched : (first :: rest).find? (fun response => response.height = expected) = none := by
      rw [List.find?_cons_of_neg (by simpa using hit), List.find?_eq_none]
      intro later member
      simpa using (others later member).1
    rw [unmatched, lastGreatest_eq fun later member => (others later member).2]

theorem BestFirst.append {expected : Int} {responses : List (Arrival n)} {later : Arrival n}
    (best : BestFirst expected responses)
    (worse : ∀ first ∈ responses.head?,
      first.height = expected ∨ later.height ≠ expected ∧ later.height < first.height) :
    BestFirst expected (responses ++ [later]) := by
  cases responses with
  | nil =>
      intro other member
      simp at member
  | cons first rest =>
      intro other member
      rcases List.mem_append.mp member with earlier | last
      · exact best other earlier
      · rw [List.mem_singleton.mp last]
        exact worse first rfl

/-! ## Histories -/

/-- The response that an effect delivers, unless it is an error. -/
def arrivedBy (env : Env) : Effect n → Option (Arrival n)
  | .delivered node _ conn =>
      if responseIsError env.yyjsonRead conn then none
      else some ⟨node, parseGbtHeight env.yyjsonRead conn⟩
  | _ => none

/-- The response that an effect forwards to the client. -/
def passedBy (env : Env) : Effect n → Option (Arrival n)
  | .forwarded node _ conn _ _ => some ⟨node, parseGbtHeight env.yyjsonRead conn⟩
  | _ => none

/-- The node that an effect makes sticky. -/
def crownedBy : Effect n → Option (Fin n)
  | .stickySet node => some node
  | _ => none

section Histories

variable (env : Env) (history : List (Effect n))

/-- The responses of a race that are no errors, the oldest first. -/
def arrivals : List (Arrival n) :=
  (history.filterMap (arrivedBy env)).reverse

/-- The responses that a race forwarded. -/
def passed : List (Arrival n) :=
  history.filterMap (passedBy env)

/-- The nodes that a race made sticky. -/
def crowned : List (Fin n) :=
  history.filterMap crownedBy

end Histories

/--
Once every node is done, the response that was forwarded and made sticky is
the one that the reference selects.
-/
structure MatchesReference (env : Env) (expected : Int) (proxy : Proxy n) : Prop where
  chosen : openNodes (sinceRequest proxy.trace) = [] →
    ∀ winner ∈ selectGbtWinner (arrivals env (sinceRequest proxy.trace)) expected,
      passed env (sinceRequest proxy.trace) = [winner] ∧
        crowned (sinceRequest proxy.trace) = [winner.node]

instance (env : Env) (expected : Int) (proxy : Proxy n) :
    Decidable (MatchesReference env expected proxy) :=
  decidable_of_iff
    (openNodes (sinceRequest proxy.trace) = [] →
      ∀ winner ∈ selectGbtWinner (arrivals env (sinceRequest proxy.trace)) expected,
        passed env (sinceRequest proxy.trace) = [winner] ∧
          crowned (sinceRequest proxy.trace) = [winner.node])
    ⟨MatchesReference.mk, MatchesReference.chosen⟩

/-- The effects that these histories look at. -/
def isChoice (env : Env) : Effect n → Bool
  | .delivered _ _ conn => !responseIsError env.yyjsonRead conn
  | .forwarded _ _ _ _ _ => true
  | .stickySet _ => true
  | .requestAccepted _ _ _ _ => true
  | _ => false

theorem isRequest_of_isChoice {env : Env} {effect : Effect n}
    (unchosen : isChoice env effect = false) :
    isRequest effect = false := by
  cases effect with
  | requestAccepted => simp [isChoice] at unchosen
  | _ => rfl

section Unchosen

variable {env : Env} {added : List (Effect n)}
  (unchosen : ∀ effect ∈ added, isChoice env effect = false)

include unchosen

theorem filterMap_arrivedBy : added.filterMap (arrivedBy env) = [] := by
  rw [List.filterMap_eq_nil_iff]
  intro effect member
  have other := unchosen effect member
  cases effect with
  | delivered node slot conn =>
      simp only [isChoice, Bool.not_eq_false'] at other
      simp [arrivedBy, other]
  | _ => rfl

theorem filterMap_passedBy : added.filterMap (passedBy env) = [] := by
  rw [List.filterMap_eq_nil_iff]
  intro effect member
  have other := unchosen effect member
  cases effect with
  | forwarded => simp [isChoice] at other
  | _ => rfl

theorem filterMap_crownedBy : added.filterMap crownedBy = [] := by
  rw [List.filterMap_eq_nil_iff]
  intro effect member
  have other := unchosen effect member
  cases effect with
  | stickySet => simp [isChoice] at other
  | _ => rfl

theorem sinceRequest_unchosen (trace : List (Effect n)) :
    sinceRequest (added ++ trace) = added ++ sinceRequest trace :=
  sinceRequest_append (fun effect member => isRequest_of_isChoice (unchosen effect member)) trace

theorem arrivals_append (history : List (Effect n)) :
    arrivals env (added ++ history) = arrivals env history := by
  simp only [arrivals, List.filterMap_append, filterMap_arrivedBy unchosen, List.nil_append]

theorem passed_append (history : List (Effect n)) :
    passed env (added ++ history) = passed env history := by
  simp only [passed, List.filterMap_append, filterMap_passedBy unchosen, List.nil_append]

theorem crowned_append (history : List (Effect n)) :
    crowned (added ++ history) = crowned history := by
  simp only [crowned, List.filterMap_append, filterMap_crownedBy unchosen, List.nil_append]

end Unchosen

/-- A valid response is the newest arrival. -/
theorem arrivals_delivered {env : Env} {node : Fin n} {slot : Fin 2} {conn : UpstreamConn}
    (valid : responseIsError env.yyjsonRead conn = false) (history : List (Effect n)) :
    arrivals env (.delivered node slot conn :: history) =
      arrivals env history ++ [⟨node, parseGbtHeight env.yyjsonRead conn⟩] := by
  simp [arrivals, arrivedBy, valid]

/-! ## What one callback does to the choice -/

/-- The valid response that an event delivers. -/
def arriving (env : Env) (proxy : Proxy n) (event : Event n) : Option (Arrival n) :=
  match event with
  | .conn node slot connEvent _ =>
      (connOutcome proxy node slot connEvent).bind fun outcome =>
        if outcome.upcall = some .response ∧
            responseIsError env.yyjsonRead outcome.conn = false then
          some ⟨node, parseGbtHeight env.yyjsonRead outcome.conn⟩
        else none
  | _ => none

/-- The callbacks as seen by a `getblocktemplate` race and the drain after it. -/
inductive TemplateMove (env : Env) (proxy : Proxy n) (event : Event n) (result : Proxy n) :
    Prop where
  | kept (added : List (Effect n)) (trace : result.trace = added ++ proxy.trace)
      (unchosen : ∀ effect ∈ added, isChoice env effect = false)
      (state_eq : result.race.state = proxy.race.state)
      (gbt_eq : result.race.isGbtRace = proxy.race.isGbtRace)
  | drained (node : Fin n) (slot : Fin 2) (chunk : Memory) (later : List (Effect n))
      (trace : result.trace = later ++
        .delivered node slot ((proxy.slot node slot).absorb chunk) ::
          .transferred node slot [] chunk :: proxy.trace)
      (unchosen : ∀ effect ∈ later, isChoice env effect = false)
      (valid : responseIsError env.yyjsonRead ((proxy.slot node slot).absorb chunk) = false)
      (arrives : arriving env proxy event = some
        ⟨node, parseGbtHeight env.yyjsonRead ((proxy.slot node slot).absorb chunk)⟩)
      (busy : (proxy.slot node slot).inFlight = true)
      (wasIdle : proxy.race.state = .idle) (idle : result.race.state = .idle)
  | won (node : Fin n) (slot : Fin 2) (chunk : Memory) (inIbd : Bool)
      (results : List SendResult) (later : List (Effect n))
      (trace : result.trace = later ++ forwardEffect proxy node slot chunk inIbd results ::
        (deliveryEffects proxy node slot chunk true ++ proxy.trace))
      (unchosen : ∀ effect ∈ later, isChoice env effect = false)
      (valid : responseIsError env.yyjsonRead ((proxy.slot node slot).absorb chunk) = false)
      (arrives : arriving env proxy event = some
        ⟨node, parseGbtHeight env.yyjsonRead ((proxy.slot node slot).absorb chunk)⟩)
      (active : proxy.race.state ≠ .idle) (idle : result.race.state = .idle)
  | lost (added : List (Effect n)) (trace : result.trace = added ++ proxy.trace)
      (silent : ∀ effect ∈ added, isRequest effect = false)
      (noArrival : added.filterMap (arrivedBy env) = [])
      (active : proxy.race.state ≠ .idle) (idle : result.race.state = .idle)
      (quiet : ∀ node slot, (result.slot node slot).inFlight = false)

theorem isChoice_raceComplete (env : Env) (proxy : Proxy n) :
    ∀ effect ∈ Effect.raceCompleted :: cancelEffects proxy, isChoice env effect = false :=
  forall_raceComplete proxy rfl fun _ => rfl

theorem isChoice_of_isAside {env : Env} {effect : Effect n} (quiet : isAside effect = true) :
    isChoice env effect = false := by
  cases effect with
  | delivered => simp [isAside, isHousekeeping] at quiet
  | forwarded => simp [isAside, isHousekeeping] at quiet
  | stickySet => simp [isAside, isHousekeeping] at quiet
  | requestAccepted => simp [isAside, isHousekeeping] at quiet
  | _ => rfl

/-- Effects that choose nothing are lost with the race. -/
theorem TemplateMove.lost_of_unchosen {env : Env} {proxy result : Proxy n} {event : Event n}
    (added : List (Effect n)) (trace : result.trace = added ++ proxy.trace)
    (unchosen : ∀ effect ∈ added, isChoice env effect = false)
    (active : proxy.race.state ≠ .idle) (idle : result.race.state = .idle)
    (quiet : ∀ node slot, (result.slot node slot).inFlight = false) :
    TemplateMove env proxy event result :=
  .lost added trace (fun effect member => isRequest_of_isChoice (unchosen effect member))
    (filterMap_arrivedBy unchosen) active idle quiet

theorem ResponseMove.template {env : Env} {proxy : Proxy n} {node : Fin n} {slot : Fin 2}
    {chunk : Memory} {connEvent : ConnEvent} {results : List SendResult} {result : Proxy n}
    (move : ResponseMove env proxy node slot chunk results result)
    (out : connOutcome proxy node slot connEvent =
      some ⟨(proxy.slot node slot).absorb chunk, some .response, [], chunk⟩)
    (wellFormed : WellFormed proxy) (active : proxy.race.state ≠ .idle)
    (gbt : proxy.race.isGbtRace = true) :
    TemplateMove env proxy (.conn node slot connEvent results) result := by
  have racing := wellFormed.racing active
  have unwon := racing.unwon_of_isGbtRace gbt
  have arrives : responseIsError env.yyjsonRead ((proxy.slot node slot).absorb chunk) = false →
      arriving env proxy (.conn node slot connEvent results) = some
        ⟨node, parseGbtHeight env.yyjsonRead ((proxy.slot node slot).absorb chunk)⟩ := by
    intro valid
    simp [arriving, out, valid]
  cases move with
  | counted race inIbd counting more unsent =>
      rcases unsent with error | won
      · refine .kept [.delivered node slot ((proxy.slot node slot).absorb chunk),
          .transferred node slot [] chunk] rfl ?_ counting.state_eq
          (Counted.isGbtRace_eq counting)
        simp [isChoice, error]
      · exact absurd unwon won
  | broadcastWon race inIbd counting more all first valid =>
      have other := racing.broadcast all
      simp [Race.isGbtRace, other] at gbt
  | won race inIbd stuck counting more single first valid =>
      obtain rfl : stuck = true := by
        rw [counting.stuck_eq, gbt, valid]
        rfl
      exact .won node slot chunk inIbd results []
        (forwarded_trace_eq proxy node slot chunk race inIbd true results) (by simp) valid
        (arrives valid) active rfl
  | ended race inIbd counting last won => exact absurd unwon won
  | settled race inIbd stuck counting last first =>
      have trace := forwarded_trace_eq proxy node slot chunk race inIbd stuck results
      let sent := sendUpstreamResponseToClient
        (stick (answered proxy node slot chunk race inIbd) node stuck) node slot results
      have idle : (raceComplete sent).race.state = .idle := raceComplete_state sent
      cases error : responseIsError env.yyjsonRead ((proxy.slot node slot).absorb chunk) with
      | false =>
          obtain rfl : stuck = true := by
            rw [counting.stuck_eq, gbt, error]
            rfl
          refine .won node slot chunk inIbd results (.raceCompleted :: cancelEffects sent) ?_
            (isChoice_raceComplete env sent) error (arrives error) active idle
          rw [raceComplete_trace, trace]
      | true =>
          obtain rfl : stuck = false := by
            rw [counting.stuck_eq, error]
            simp
          refine .lost (.raceCompleted :: cancelEffects sent ++
            forwardEffect proxy node slot chunk inIbd results ::
              deliveryEffects proxy node slot chunk false) ?_ ?_ ?_ active idle ?_
          · rw [raceComplete_trace, trace, List.append_assoc]
            rfl
          · refine List.forall_mem_append.mpr ⟨fun effect member =>
              isRequest_of_isChoice (isChoice_raceComplete env sent effect member), ?_⟩
            simp [forwardEffect, deliveryEffects, stickEffects, isRequest]
          · rw [List.filterMap_append, filterMap_arrivedBy (isChoice_raceComplete env sent)]
            simp [forwardEffect, deliveryEffects, stickEffects, arrivedBy, error]
          · apply raceComplete_quiet
            intro other
            exact PairOps.preserve (fun _ _ operation => operation.standbyQuiet)
              (answered_runs out race inIbd other).ops (wellFormed.standby other)

theorem FailureMove.template {env : Env} {proxy base result : Proxy n} {event : Event n}
    {node : Fin n} {earlier : List (Effect n)} (move : FailureMove base node result)
    (trace : base.trace = earlier ++ proxy.trace)
    (unchosen : ∀ effect ∈ earlier, isChoice env effect = false)
    (standby : ∀ other, StandbyQuiet (base.pairs other))
    (unwon : base.race.winnerIdx = none)
    (state_eq : base.race.state = proxy.race.state)
    (gbt_eq : base.race.isGbtRace = proxy.race.isGbtRace)
    (active : proxy.race.state ≠ .idle) :
    TemplateMove env proxy event result := by
  have lost_trace : (lost base node).trace = .gaveUp node :: earlier ++ proxy.trace := by
    rw [List.cons_append, ← trace]
    rfl
  have gaveUp : ∀ effect ∈ Effect.gaveUp node :: earlier, isChoice env effect = false :=
    List.forall_mem_cons.mpr ⟨rfl, unchosen⟩
  cases move with
  | counted more => exact .kept _ lost_trace gaveUp state_eq gbt_eq
  | ended last won => exact absurd unwon won
  | closed last unwon =>
      let hungUp := closeClient (lost base node) true
      refine TemplateMove.lost_of_unchosen (.raceCompleted :: cancelEffects hungUp ++
        .closeClient (lost base node).client.target true :: .gaveUp node :: earlier) ?_ ?_ active
        (raceComplete_state _) (raceComplete_quiet standby)
      · rw [raceComplete_trace, closeClient_trace, lost_trace, List.append_assoc]
        rfl
      · exact List.forall_mem_append.mpr ⟨isChoice_raceComplete env hungUp,
          List.forall_mem_cons.mpr ⟨rfl, gaveUp⟩⟩

theorem ErrorMove.template {env : Env} {proxy result : Proxy n} {node : Fin n} {slot : Fin 2}
    {connEvent : ConnEvent} {event : Event n}
    (move : ErrorMove (breakage proxy node slot) node result)
    (out : connOutcome proxy node slot connEvent =
      some (.quiet (proxy.slot node slot).dropFd (some .error)))
    (wellFormed : WellFormed proxy) (active : proxy.race.state ≠ .idle)
    (gbt : proxy.race.isGbtRace = true) :
    TemplateMove env proxy event result := by
  have unwon := (wellFormed.racing active).unwon_of_isGbtRace gbt
  have unchosen : ∀ effect ∈ [Effect.failed node slot, .transferred node slot [] []],
      isChoice env effect = false := by
    simp [isChoice]
  have standby : ∀ other, StandbyQuiet ((breakage proxy node slot).pairs other) := by
    intro other
    exact PairOps.preserve (fun _ _ operation => operation.standbyQuiet)
      (breakage_runs out other).ops (wellFormed.standby other)
  cases move with
  | retried retryable =>
      refine .kept [_, .failed node slot, .transferred node slot [] []] rfl ?_ rfl rfl
      simp [isChoice]
  | twice already result failure =>
      exact FailureMove.template failure rfl unchosen standby unwon rfl rfl active
  | lost first final result failure =>
      refine FailureMove.template failure rfl unchosen ?_ unwon rfl rfl active
      intro other
      exact PairOps.preserve (fun _ _ operation => operation.standbyQuiet)
        (swapOnError_runs (breakage proxy node slot) node other).ops (standby other)

theorem TimeoutMove.template {env : Env} {proxy result : Proxy n} {event : Event n} {fd : Nat}
    (move : TimeoutMove proxy fd result) (wellFormed : WellFormed proxy)
    (racing : proxy.race.state ≠ .idle → proxy.race.isGbtRace = true) :
    TemplateMove env proxy event result := by
  have expired : ∀ effect ∈ [Effect.timerExpired (n := n) fd proxy.now],
      isChoice env effect = false := by
    simp [isChoice]
  cases move with
  | drained idle =>
      refine .kept (cancelEffects (unstuck (acknowledged proxy fd)) ++
        [.timerExpired fd proxy.now]) ?_ ?_ ?_ ?_
      · rw [cancelRpcTimeout_trace, List.append_assoc]
        rfl
      · refine List.forall_mem_append.mpr ⟨?_, expired⟩
        simp [cancelEffects, isChoice]
      · rw [cancelRpcTimeout_race]
        rfl
      · rw [cancelRpcTimeout_race]
        rfl
  | ended active won =>
      exact absurd ((wellFormed.racing active).unwon_of_isGbtRace (racing active)) won
  | closed active unwon =>
      let hungUp := closeClient (uncounted (acknowledged proxy fd)) true
      refine TemplateMove.lost_of_unchosen (.raceCompleted :: cancelEffects hungUp ++
        [.closeClient proxy.client.target true, .timerExpired fd proxy.now]) ?_ ?_ active
        (raceComplete_state _) (raceComplete_quiet wellFormed.standby)
      · rw [raceComplete_trace, List.append_assoc]
        rfl
      · exact List.forall_mem_append.mpr ⟨isChoice_raceComplete env hungUp,
          List.forall_mem_cons.mpr ⟨rfl, expired⟩⟩

/-- Every callback that accepts no request acts on a template race in one of these ways. -/
theorem step_template (env : Env) (proxy : Proxy n) (event : Event n)
    (wellFormed : WellFormed proxy) (waiting : acceptedMethod env proxy event = none)
    (racing : proxy.race.state ≠ .idle → proxy.race.isGbtRace = true) :
    TemplateMove env proxy event (step env proxy event) := by
  have move := step_raceStep env proxy event wellFormed
  generalize step env proxy event = result at move
  cases move with
  | aside event result added trace quiet race_eq waiting =>
      exact .kept added trace (fun effect member => isChoice_of_isAside (quiet effect member))
        (by rw [race_eq]) (by rw [race_eq])
  | notified => exact .kept [.blockNotify] rfl (by simp [isChoice]) rfl rfl
  | request event chunk method result bytes accepted idle acceptance =>
      rw [waiting] at accepted
      contradiction
  | lateResponse node slot event results chunk result added out idle trace quiet race_eq =>
      have unchosen : ∀ effect ∈ added, isChoice env effect = false :=
        fun effect member => isChoice_of_isAside (quiet effect member)
      cases error : responseIsError env.yyjsonRead ((proxy.slot node slot).absorb chunk) with
      | false =>
          refine .drained node slot chunk added trace unchosen error ?_ ?_ idle
            (by rw [race_eq, idle])
          · simp [arriving, out, error]
          · exact Delivers.busy ⟨⟨event, results, rfl⟩, Or.inl (by simp [upcallOf, out])⟩
      | true =>
          refine .kept (added ++
            [.delivered node slot ((proxy.slot node slot).absorb chunk),
              .transferred node slot [] chunk]) ?_ ?_ (by rw [race_eq]) (by rw [race_eq])
          · rw [trace, List.append_assoc]
            rfl
          · exact List.forall_mem_append.mpr ⟨unchosen, by simp [isChoice, error]⟩
  | response node slot event results chunk result out complete active move =>
      exact ResponseMove.template move out wellFormed active (racing active)
  | lateError node slot event results result added idle trace quiet race_eq =>
      refine .kept (added ++ [.failed node slot, .transferred node slot [] []]) ?_ ?_
        (by rw [race_eq]) (by rw [race_eq])
      · rw [trace, List.append_assoc]
        rfl
      · refine List.forall_mem_append.mpr
          ⟨fun effect member => isChoice_of_isAside (quiet effect member), ?_⟩
        simp [isChoice]
  | error node slot event results result out active move =>
      exact ErrorMove.template move out wellFormed active (racing active)
  | expired fd results result registered move => exact TimeoutMove.template move wellFormed racing

/-- While the proxy is idle and accepts no request, nothing gets in flight. -/
theorem step_quiet (env : Env) (proxy : Proxy n) (event : Event n)
    (wellFormed : WellFormed proxy) (waiting : acceptedMethod env proxy event = none)
    (idle : proxy.race.state = .idle)
    (quiet : ∀ node slot, (proxy.slot node slot).inFlight = false) (node : Fin n)
    (slot : Fin 2) :
    ((step env proxy event).slot node slot).inFlight = false := by
  rcases step_explained env proxy event wellFormed with ⟨added, -, -, moves⟩
  by_contra busy
  have move := moves node slot
  rcases SlotMove.busy_cases move (by simpa using busy) with ⟨len, starts⟩ | ⟨wasBusy, -⟩
  · generalize slotTrace node slot added = effects at move starts
    generalize (step env proxy event).slot node slot = after at move
    cases move with
    | started other nonempty connected cause =>
        rcases cause with ⟨chunk, -, accepted, -⟩ | ⟨-, active, -⟩
        · exact accepted waiting
        · exact active idle
    | _ => simp at starts
  · rw [quiet node slot] at wasBusy
    contradiction

/-! ## The invariant -/

/-- How far a template race has come. -/
inductive TemplatePhase (env : Env) (proxy : Proxy n) : Prop where
  /-- No valid response has come. -/
  | open_ (racing : proxy.race.isGbtRace = true)
      (unanswered : arrivals env (sinceRequest proxy.trace) = [])
      (unsent : passed env (sinceRequest proxy.trace) = [])
      (uncrowned : crowned (sinceRequest proxy.trace) = [])
  /-- The first valid response was taken, whatever came after it. -/
  | chosen (idle : proxy.race.state = .idle) (first : Arrival n) (rest : List (Arrival n))
      (arrived : arrivals env (sinceRequest proxy.trace) = first :: rest)
      (sent : passed env (sinceRequest proxy.trace) = [first])
      (sticky : crowned (sinceRequest proxy.trace) = [first.node])
  /-- All nodes have failed, or the time was up, and no node is listened to. -/
  | abandoned (idle : proxy.race.state = .idle)
      (quiet : ∀ node slot, (proxy.slot node slot).inFlight = false)
      (unanswered : arrivals env (sinceRequest proxy.trace) = [])

theorem active_of_isGbtRace {race : Race n} (gbt : race.isGbtRace = true) :
    race.state ≠ .idle := by
  intro idle
  simp [Race.isGbtRace, idle] at gbt

theorem TemplatePhase.racing {env : Env} {proxy : Proxy n} (phase : TemplatePhase env proxy)
    (active : proxy.race.state ≠ .idle) :
    proxy.race.isGbtRace = true := by
  cases phase with
  | open_ racing => exact racing
  | chosen idle => exact absurd idle active
  | abandoned idle => exact absurd idle active

/-- The phases and the order of the responses, as far as they have come. -/
structure Choosing (env : Env) (expected : Int) (proxy : Proxy n) : Prop where
  wellFormed : WellFormed proxy
  phase : TemplatePhase env proxy
  best : BestFirst expected (arrivals env (sinceRequest proxy.trace))

/-- No request is accepted. -/
def NoRequest (env : Env) (proxy : Proxy n) (event : Event n) : Prop :=
  acceptedMethod env proxy event = none

instance (env : Env) (proxy : Proxy n) (event : Event n) :
    Decidable (NoRequest env proxy event) :=
  inferInstanceAs (Decidable (_ = none))

/--
A response that comes after the first one is not better: the first has the
expected height, or the later one has another height and a smaller one than
the first.
-/
def FirstIsBest (env : Env) (expected : Int) (proxy : Proxy n) (event : Event n) : Prop :=
  ∀ later ∈ arriving env proxy event,
    ∀ first ∈ (arrivals env (sinceRequest proxy.trace)).head?,
      first.height = expected ∨ later.height ≠ expected ∧ later.height < first.height

instance (env : Env) (expected : Int) (proxy : Proxy n) (event : Event n) :
    Decidable (FirstIsBest env expected proxy event) :=
  inferInstanceAs (Decidable (∀ later ∈ arriving env proxy event, _))

theorem step_choosing (env : Env) (expected : Int) (proxy : Proxy n) (event : Event n)
    (choosing : Choosing env expected proxy)
    (guarded : NoRequest env proxy event ∧ FirstIsBest env expected proxy event) :
    Choosing env expected (step env proxy event) := by
  rcases guarded with ⟨waiting, worse⟩
  rcases choosing with ⟨wellFormed, phase, best⟩
  have after := step_wellFormed env proxy event wellFormed
  have calm := step_quiet env proxy event wellFormed waiting
  have move := step_template env proxy event wellFormed waiting phase.racing
  generalize step env proxy event = result at after calm move
  cases move with
  | kept added trace unchosen state_eq gbt_eq =>
      have since_eq := sinceRequest_unchosen unchosen proxy.trace
      rw [← trace] at since_eq
      have arrivals_eq := arrivals_append unchosen (sinceRequest proxy.trace)
      have passed_eq := passed_append unchosen (sinceRequest proxy.trace)
      have crowned_eq := crowned_append unchosen (sinceRequest proxy.trace)
      rw [← since_eq] at arrivals_eq passed_eq crowned_eq
      refine ⟨after, ?_, arrivals_eq ▸ best⟩
      cases phase with
      | open_ racing unanswered unsent uncrowned =>
          exact .open_ (gbt_eq.trans racing) (arrivals_eq.trans unanswered)
            (passed_eq.trans unsent) (crowned_eq.trans uncrowned)
      | chosen idle first rest arrived sent sticky =>
          exact .chosen (state_eq.trans idle) first rest (arrivals_eq.trans arrived)
            (passed_eq.trans sent) (crowned_eq.trans sticky)
      | abandoned idle quiet unanswered =>
          exact .abandoned (state_eq.trans idle) (calm idle quiet)
            (arrivals_eq.trans unanswered)
  | drained node slot chunk later trace unchosen valid arrives busy wasIdle idle =>
      have since_eq : sinceRequest result.trace = later ++
          .delivered node slot ((proxy.slot node slot).absorb chunk) ::
            .transferred node slot [] chunk :: sinceRequest proxy.trace := by
        rw [trace, sinceRequest_unchosen unchosen, sinceRequest_cons rfl, sinceRequest_cons rfl]
      have arrivals_eq : arrivals env (sinceRequest result.trace) =
          arrivals env (sinceRequest proxy.trace) ++
            [⟨node, parseGbtHeight env.yyjsonRead ((proxy.slot node slot).absorb chunk)⟩] := by
        rw [since_eq, arrivals_append unchosen, arrivals_delivered valid]
        rfl
      refine ⟨after, ?_, arrivals_eq ▸ best.append (worse _ arrives)⟩
      cases phase with
      | open_ racing => exact absurd wasIdle (active_of_isGbtRace racing)
      | chosen _ first rest arrived sent sticky =>
          refine .chosen idle first _ (by rw [arrivals_eq, arrived]; rfl) ?_ ?_
          · rw [since_eq, passed_append unchosen]
            exact sent
          · rw [since_eq, crowned_append unchosen]
            exact sticky
      | abandoned _ quiet =>
          rw [quiet node slot] at busy
          contradiction
  | won node slot chunk inIbd results later trace unchosen valid arrives active idle =>
      have since_eq : sinceRequest result.trace =
          later ++ forwardEffect proxy node slot chunk inIbd results ::
            (deliveryEffects proxy node slot chunk true ++ sinceRequest proxy.trace) := by
        rw [trace, sinceRequest_unchosen unchosen, sinceRequest_cons rfl, sinceRequest_append]
        simp [deliveryEffects, stickEffects, isRequest]
      have arrivals_eq : arrivals env (sinceRequest result.trace) =
          arrivals env (sinceRequest proxy.trace) ++
            [⟨node, parseGbtHeight env.yyjsonRead ((proxy.slot node slot).absorb chunk)⟩] := by
        rw [since_eq, arrivals_append unchosen]
        exact arrivals_delivered valid _
      refine ⟨after, ?_, arrivals_eq ▸ best.append (worse _ arrives)⟩
      cases phase with
      | open_ racing unanswered unsent uncrowned =>
          refine .chosen idle _ [] (by rw [arrivals_eq, unanswered]; rfl) ?_ ?_
          · rw [since_eq, passed_append unchosen]
            exact congrArg (List.cons _) unsent
          · rw [since_eq, crowned_append unchosen]
            exact congrArg (List.cons node) uncrowned
      | chosen wasIdle => exact absurd wasIdle active
      | abandoned wasIdle => exact absurd wasIdle active
  | lost added trace silent noArrival active idle quiet =>
      have arrivals_eq : arrivals env (sinceRequest result.trace) =
          arrivals env (sinceRequest proxy.trace) := by
        rw [trace, sinceRequest_append silent, arrivals, List.filterMap_append, noArrival]
        rfl
      refine ⟨after, ?_, arrivals_eq ▸ best⟩
      cases phase with
      | open_ racing unanswered => exact .abandoned idle quiet (arrivals_eq.trans unanswered)
      | chosen wasIdle => exact absurd wasIdle active
      | abandoned wasIdle => exact absurd wasIdle active

/-- The reference agrees with the first valid response if none is better. -/
theorem Choosing.matchesReference {env : Env} {expected : Int} {proxy : Proxy n}
    (choosing : Choosing env expected proxy) :
    MatchesReference env expected proxy := by
  refine ⟨fun _ winner selected => ?_⟩
  have best := choosing.best
  cases choosing.phase with
  | open_ racing unanswered =>
      rw [unanswered] at selected
      contradiction
  | chosen idle first rest arrived sent sticky =>
      rw [arrived] at best selected
      rw [selectGbtWinner_of_bestFirst best] at selected
      cases selected
      exact ⟨sent, sticky⟩
  | abandoned idle quiet unanswered =>
      rw [unanswered] at selected
      contradiction

/-- A template race begins with no response. -/
theorem choosing_of_accepted (env : Env) (expected : Int) (proxy : Proxy n) (event : Event n)
    (wellFormed : WellFormed proxy) {method : Memory}
    (accepted : acceptedMethod env proxy event = some method)
    (racing : (step env proxy event).race.isGbtRace = true) :
    Choosing env expected (step env proxy event) := by
  have after := step_wellFormed env proxy event wellFormed
  rcases step_of_accepted env proxy event wellFormed accepted with
    ⟨chunk, created, result, -, -, -, acceptance, step_eq⟩
  rw [step_eq] at after racing ⊢
  cases acceptance with
  | fanout race begun state pending reachable =>
      have history := fun base => sinceRequest_fanout env created (withChunk proxy chunk) base
        method proxy.trace
      have unchosen : ∀ base : Proxy n, ∀ effect ∈ timerEffects base env created ++
          startEffects (withChunk proxy chunk) (fanoutTargets (withChunk proxy chunk))
            (withChunk proxy chunk).client.recvLen, isChoice env effect = false := by
        intro base
        refine List.forall_mem_append.mpr ⟨?_, ?_⟩
        · simp only [timerEffects]
          split_ifs <;> simp [isChoice]
        · intro effect member
          simp only [startEffects, List.mem_reverse, List.mem_map] at member
          rcases member with ⟨node, -, rfl⟩
          rfl
      refine ⟨after, .open_ racing ?_ ?_ ?_, ?_⟩
      · rw [history, arrivals, filterMap_arrivedBy (unchosen _)]
        · rfl
        · rfl
      · rw [history, passed, filterMap_passedBy (unchosen _)]
        rfl
      · rw [history, crowned, filterMap_crownedBy (unchosen _)]
        rfl
      · rw [history, arrivals, filterMap_arrivedBy (unchosen _)]
        · trivial
        · rfl
  | sticky race begun state pending single node stuck available =>
      rw [clearRequest_race, startRpcTimeout_race] at racing
      simp [Race.isGbtRace, state] at racing
  | refused race begun state => exact absurd state (active_of_isGbtRace racing)

/-! ## Runs -/

/--
The response that a `getblocktemplate` race forwards and makes sticky is the
one of the reference, in every run in which no response is better than the
first one.
-/
theorem matchesReference_of_firstIsBest (env : Env) (boot : Boot n)
    (before after : List (Event n)) (event : Event n) (method : Memory)
    (accepted : acceptedMethod env (run (step env) (rpcProxyCreate boot) before) event =
      some method)
    (racing : (step env (run (step env) (rpcProxyCreate boot) before) event).race.isGbtRace =
      true)
    (waiting : Along (step env) (NoRequest env)
      (step env (run (step env) (rpcProxyCreate boot) before) event) after)
    (guarded : Along (step env)
      (FirstIsBest env ((run (step env) (rpcProxyCreate boot) before).race.lastBlockHeight + 1))
      (step env (run (step env) (rpcProxyCreate boot) before) event) after) :
    Throughout (step env)
      (MatchesReference env
        ((run (step env) (rpcProxyCreate boot) before).race.lastBlockHeight + 1))
      (step env (run (step env) (rpcProxyCreate boot) before) event) after := by
  have start := choosing_of_accepted env
    ((run (step env) (rpcProxyCreate boot) before).race.lastBlockHeight + 1) _ event
    (run_wellFormed env boot before) accepted racing
  apply Throughout.mono fun proxy (choosing : Choosing env _ proxy) => choosing.matchesReference
  exact throughout_of_along (step_choosing env _) start (waiting.and guarded)

/-- The state in which two nodes have been asked for a template. -/
def templateAsked : Proxy 2 :=
  step exampleEnv (exampleRun 2 [clientConnects]) (clientSends gbtRequest)

/-- Two nodes answer with templates of these heights, in this order. -/
def templatesArrive (first second : String) : List (Event 2) :=
  [slotWrites 0 0 1000, slotWrites 1 0 1000,
    slotReads 0 0 (templateResponse first) [.accepted 1000],
    slotReads 1 0 (templateResponse second) [.accepted 1000]]

/-- The first response has the height that follows the last block. -/
theorem matchesReference_of_firstIsBest_expectedFirst :
    openNodes (sinceRequest
        (run (step exampleEnv) templateAsked (templatesArrive "1" "2")).trace) = [] ∧
      Along (step exampleEnv) (NoRequest exampleEnv) templateAsked (templatesArrive "1" "2") ∧
      Along (step exampleEnv) (FirstIsBest exampleEnv 1) templateAsked
        (templatesArrive "1" "2") ∧
      Throughout (step exampleEnv) (MatchesReference exampleEnv 1) templateAsked
        (templatesArrive "1" "2") := by
  have facts :
      openNodes (sinceRequest
          (run (step exampleEnv) templateAsked (templatesArrive "1" "2")).trace) = [] ∧
        acceptedMethod exampleEnv (exampleRun 2 [clientConnects]) (clientSends gbtRequest) =
          some (ascii "getblocktemplate") ∧
        (exampleRun 2 [clientConnects]).race.lastBlockHeight + 1 = 1 ∧
        templateAsked.race.isGbtRace = true ∧
        Along (step exampleEnv) (NoRequest exampleEnv) templateAsked
          (templatesArrive "1" "2") ∧
        Along (step exampleEnv) (FirstIsBest exampleEnv 1) templateAsked
          (templatesArrive "1" "2") := by
    decide +kernel
  rcases facts with ⟨done, accepted, expected, racing, waiting, best⟩
  have matched := matchesReference_of_firstIsBest exampleEnv (exampleBoot 2) [clientConnects]
    (templatesArrive "1" "2") (clientSends gbtRequest) (ascii "getblocktemplate") accepted racing
    waiting
  change Along _ (FirstIsBest _ ((exampleRun 2 [clientConnects]).race.lastBlockHeight + 1)) _ _ →
    Throughout _ (MatchesReference _ ((exampleRun 2 [clientConnects]).race.lastBlockHeight + 1))
      _ _ at matched
  rw [expected] at matched
  exact ⟨done, waiting, best, matched best⟩

/-! ## A better template that comes later -/

/-- Both nodes have answered with height 1, and then a new block was notified. -/
def newBlock : List (Event 2) :=
  [clientConnects, clientSends gbtRequest] ++ templatesArrive "1" "1" ++ [.blockNotify]

/-- The proxy after the request for a template of the new block. -/
def askedAgain : Proxy 2 :=
  step exampleEnv (exampleRun 2 newBlock) (clientSends gbtRequest)

/--
The template of the height that follows the last block comes second.  The
reference selects it, but the other one was forwarded.
-/
theorem expectedSecond_not_matchesReference :
    (∀ node slot, ((exampleRun 2 newBlock).slot node slot).inFlight = false) ∧
      acceptedMethod exampleEnv (exampleRun 2 newBlock) (clientSends gbtRequest) =
        some (ascii "getblocktemplate") ∧
      (exampleRun 2 newBlock).race.lastBlockHeight = 1 ∧
      askedAgain.race.isGbtRace = true ∧ askedAgain.race.state = .fanout ∧
      Along (step exampleEnv) (NoRequest exampleEnv) askedAgain (templatesArrive "3" "2") ∧
      ¬ Throughout (step exampleEnv) (MatchesReference exampleEnv 2) askedAgain
        (templatesArrive "3" "2") := by
  have facts :
      (∀ node slot, ((exampleRun 2 newBlock).slot node slot).inFlight = false) ∧
        acceptedMethod exampleEnv (exampleRun 2 newBlock) (clientSends gbtRequest) =
          some (ascii "getblocktemplate") ∧
        (exampleRun 2 newBlock).race.lastBlockHeight = 1 ∧
        askedAgain.race.isGbtRace = true ∧ askedAgain.race.state = .fanout ∧
        Along (step exampleEnv) (NoRequest exampleEnv) askedAgain (templatesArrive "3" "2") ∧
        ¬ MatchesReference exampleEnv 2
          (run (step exampleEnv) askedAgain (templatesArrive "3" "2")) := by
    decide +kernel
  rcases facts with ⟨quiet, accepted, height, racing, fanout, waiting, other⟩
  refine ⟨quiet, accepted, height, racing, fanout, waiting, ?_⟩
  intro matched
  exact other (throughout_end matched)

end RpcRace.TemplateWinner
