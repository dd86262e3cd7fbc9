import RpcRace.StickyNode

/-!
# The recorded block height

`last_block_height` is updated in four branches: a template of the expected
height, the first valid template, and two fallbacks to `best_gbt_height`.
The fallbacks are never reached, because the first valid template already
wins its race.  So the recorded height is the greatest height of a template
that was forwarded as the winner of a `getblocktemplate` race, and nothing
else changes it (`lastBlockHeight_eq_greatest`).

The heights come from the nodes unchecked, and the next height to expect is
`last_block_height + 1`: a winner of the height `INT64_MAX` makes it overflow
(`expectedFits_iff_belowTop`).
-/

namespace RpcRace.BlockHeight

open RpcRace.Library.CString
open RpcRace.Library.Run
open RpcRace.RpcConn
open RpcRace.JsonResponse
open RpcRace.RpcProxy
open RpcRace.Dispatch
open RpcRace.RaceMoves
open RpcRace.ProxyMoves
open RpcRace.SlotMoves
open RpcRace.Requests
open RpcRace.ClientMoves
open RpcRace.Outcomes
open RpcRace.StickyNode

variable {n : Nat}

/-! ## Histories -/

/-- The node was made sticky just before: it is the winner of a template race. -/
def justCrowned (node : Fin n) : List (Effect n) → Bool
  | .stickySet other :: _ => other = node
  | _ => false

/--
The heights of the responses that were passed to
`send_upstream_response_to_client` as winners of template races, newest first.
-/
def winnerHeights (read : JsonReader) : List (Effect n) → List Int
  | [] => []
  | .forwarded node _ conn _ _ :: past =>
      if justCrowned node past then parseGbtHeight read conn :: winnerHeights read past
      else winnerHeights read past
  | _ :: past => winnerHeights read past

/-- The greatest of some heights and zero. -/
def greatest (heights : List Int) : Int :=
  heights.foldr max 0

theorem winnerHeights_append {read : JsonReader} {added : List (Effect n)}
    (silent : ∀ effect ∈ added, isForward effect = false) (past : List (Effect n)) :
    winnerHeights read (added ++ past) = winnerHeights read past := by
  induction added with
  | nil => rfl
  | cons effect rest induction =>
      have first := silent effect List.mem_cons_self
      rw [← induction fun other member => silent other (List.mem_cons_of_mem _ member)]
      cases effect with
      | forwarded => simp [isForward] at first
      | _ => rfl

/-- A response that is forwarded after its node was made sticky, or without that. -/
theorem winnerHeights_forwarded (read : JsonReader) (proxy : Proxy n) (node : Fin n)
    (slot : Fin 2) (chunk : Memory) (inIbd stuck : Bool) (results : List SendResult) :
    winnerHeights read
        (forwardEffect proxy node slot chunk inIbd results ::
          (deliveryEffects proxy node slot chunk stuck ++ proxy.trace)) =
      (if stuck then [parseGbtHeight read ((proxy.slot node slot).absorb chunk)] else []) ++
        winnerHeights read proxy.trace := by
  cases stuck with
  | false => rfl
  | true =>
      rw [forwardEffect, winnerHeights]
      have crowned : justCrowned node
          (deliveryEffects proxy node slot chunk true ++ proxy.trace) = true := by
        simp [deliveryEffects, stickEffects, justCrowned]
      rw [if_pos crowned]
      rfl

/-! ## What one callback does -/

/-- The height of the response that an event delivers, if it wins a template race. -/
def wonHeight (env : Env) (proxy : Proxy n) (event : Event n) : Option Int :=
  match event with
  | .conn node slot connEvent _ =>
      (connOutcome proxy node slot connEvent).bind fun outcome =>
        if outcome.upcall = some .response ∧ proxy.race.isGbtRace = true ∧
            responseIsError env.yyjsonRead outcome.conn = false then
          some (parseGbtHeight env.yyjsonRead outcome.conn)
        else none
  | _ => none

/-- The recorded height and the heights of the winners go together. -/
structure Recorded (env : Env) (proxy : Proxy n) (event : Event n) (result : Proxy n) :
    Prop where
  height_eq : result.race.lastBlockHeight =
    (wonHeight env proxy event).elim proxy.race.lastBlockHeight (max · proxy.race.lastBlockHeight)
  winners_eq : winnerHeights env.yyjsonRead result.trace =
    (wonHeight env proxy event).toList ++ winnerHeights env.yyjsonRead proxy.trace

/-- A judgement raises the height to that of a valid template. -/
theorem judgeResponse_height (env : Env) (race : Race n) (conn : UpstreamConn) (node : Fin n)
    (racing : Racing race) :
    (judgeResponse env race.countDown conn node).race.lastBlockHeight =
      if race.isGbtRace = true ∧ responseIsError env.yyjsonRead conn = false then
        max (parseGbtHeight env.yyjsonRead conn) race.lastBlockHeight
      else race.lastBlockHeight := by
  have gbt_eq : race.countDown.isGbtRace = race.isGbtRace := rfl
  have won_height : ∀ (judged : Race n) (height : Int),
      judged.lastBlockHeight = race.lastBlockHeight →
      (judged.wonAt node height).lastBlockHeight = max height race.lastBlockHeight := by
    intro judged height same
    unfold Race.wonAt
    dsimp only
    rw [same]
    split_ifs with greater
    · exact (max_eq_left greater.le).symm
    · exact (max_eq_right (not_lt.mp greater)).symm
  unfold judgeResponse
  rw [gbt_eq]
  cases error : responseIsError env.yyjsonRead conn with
  | true => simp [judgeError, Race.countDown]
  | false =>
      cases gbt : race.isGbtRace with
      | false =>
          simp only [Bool.false_eq_true, if_false, judgeGeneric, false_and]
          split_ifs <;> rfl
      | true =>
          have unwon := racing.unwon_of_isGbtRace gbt
          have unmatched : race.countDown.gbtHeightMatched = false := racing.unmatched
          simp only [Bool.false_eq_true, if_false, if_true, judgeGbt, unmatched, true_and]
          split_ifs with matches_ fresh
          · exact won_height race.countDown _ rfl
          · apply won_height
            unfold Race.trackBest
            split_ifs <;> rfl
          · exfalso
            apply fresh
            unfold Race.trackBest
            split_ifs <;> exact unwon

/-- The end of `on_upstream_response` leaves the height alone: there is no best node to crown. -/
theorem finishResponse_height {proxy : Proxy n} {node : Fin n} {slot : Fin 2} {isGbtRace : Bool}
    {results : List SendResult}
    (unranked : proxy.race.winnerIdx = none → proxy.race.bestGbtNodeIdx = none) :
    (finishResponse proxy node slot isGbtRace results).race.lastBlockHeight =
      proxy.race.lastBlockHeight := by
  have settled : proxy.race.winnerIdx = none →
      (settleWithoutWinner proxy isGbtRace results).race = proxy.race := by
    intro unwon
    unfold settleWithoutWinner
    rw [unranked unwon]
    cases isGbtRace <;>
    · dsimp only
      split
      · rfl
      · split_ifs <;> rfl
  unfold finishResponse
  split_ifs with last unwon
  · rw [raceComplete_race, settled unwon]
    rfl
  · rw [raceComplete_race]
    rfl
  · split
    · unfold earlyIdle resetInFlight
      dsimp only
      split_ifs <;> rfl
    · rfl

theorem applyJudgement_race (proxy : Proxy n) (node : Fin n) (slot : Fin 2)
    (judgement : Judgement n) (results : List SendResult) :
    (applyJudgement proxy node slot judgement results).race = judgement.race := by
  unfold applyJudgement
  cases judgement.sticky <;> cases judgement.forward <;> rfl

/-- A race without a winner after a judgement has no best node: the response was an error. -/
theorem Counted.unranked {env : Env} {before after : Race n} {conn : UpstreamConn} {node : Fin n}
    {stuck : Bool} (counting : Counted env before conn node stuck after) (racing : Racing before)
    (unwon : after.winnerIdx = none) :
    after.bestGbtNodeIdx = none := by
  have error : responseIsError env.yyjsonRead conn = true := by
    by_contra valid
    rw [counting.winner_eq, if_neg valid] at unwon
    simp at unwon
  have unstuck : stuck = false := by
    rw [counting.stuck_eq, error]
    simp
  exact (counting.fallback_eq unstuck).1.trans racing.bestNode

/-- A response to the race records its height if it wins a template race, and only then. -/
theorem connEvent_height (env : Env) {proxy : Proxy n} {node : Fin n} {slot : Fin 2}
    {connEvent : ConnEvent} (results : List SendResult) {chunk : Memory}
    (out : connOutcome proxy node slot connEvent =
      some ⟨(proxy.slot node slot).absorb chunk, some .response, [], chunk⟩)
    (active : proxy.race.state ≠ .idle) (racing : Racing proxy.race) :
    (RpcProxy.connEvent env proxy node slot connEvent results).race.lastBlockHeight =
      if proxy.race.isGbtRace = true ∧
          responseIsError env.yyjsonRead ((proxy.slot node slot).absorb chunk) = false then
        max (parseGbtHeight env.yyjsonRead ((proxy.slot node slot).absorb chunk))
          proxy.race.lastBlockHeight
      else proxy.race.lastBlockHeight := by
  rcases judgeResponse_counted env proxy.race ((proxy.slot node slot).absorb chunk) node racing
    with ⟨counting, -⟩
  rw [connEvent_of_response env results out active, finishResponse_height, applyJudgement_race,
    judgeResponse_height env proxy.race _ node racing]
  rw [applyJudgement_race]
  exact Counted.unranked counting racing

theorem wonHeight_of_response {env : Env} {proxy : Proxy n} {node : Fin n} {slot : Fin 2}
    {connEvent : ConnEvent} {results : List SendResult} {chunk : Memory}
    (out : connOutcome proxy node slot connEvent =
      some ⟨(proxy.slot node slot).absorb chunk, some .response, [], chunk⟩) :
    wonHeight env proxy (.conn node slot connEvent results) =
      if proxy.race.isGbtRace = true ∧
          responseIsError env.yyjsonRead ((proxy.slot node slot).absorb chunk) = false then
        some (parseGbtHeight env.yyjsonRead ((proxy.slot node slot).absorb chunk))
      else none := by
  simp [wonHeight, out]

/-- Only a response wins a race. -/
theorem wonHeight_eq_none {env : Env} {proxy : Proxy n} {event : Event n}
    (other : proxy.race.state = .idle ∨ upcallOf proxy event ≠ some .response) :
    wonHeight env proxy event = none := by
  cases event with
  | conn node slot connEvent results =>
      cases out : connOutcome proxy node slot connEvent with
      | none => simp [wonHeight, out]
      | some outcome =>
          simp only [wonHeight, out, Option.bind_some]
          rw [if_neg]
          rintro ⟨response, gbt, -⟩
          rcases other with idle | silent
          · simp [Race.isGbtRace, idle] at gbt
          · rw [upcallOf, out, Option.bind_some] at silent
            exact silent response
  | _ => rfl

theorem winnerHeights_of_outcome {env : Env} {proxy result : Proxy n} {event : Event n}
    (outcome : StepOutcome env proxy event result)
    (other : proxy.race.state = .idle ∨ upcallOf proxy event ≠ some .response)
    (read : JsonReader) :
    winnerHeights read result.trace = winnerHeights read proxy.trace := by
  have silent : ∀ added : List (Effect n), (∀ effect ∈ added, isPlain effect = true) →
      ∀ effect ∈ added, isForward effect = false := by
    intro added plain effect member
    have quiet := plain effect member
    simp only [isPlain, Bool.and_eq_true, Bool.not_eq_true'] at quiet
    exact quiet.1.1
  cases outcome with
  | quiet added trace plain => rw [trace, winnerHeights_append (silent added plain)]
  | opened added chunk method bytes accepted trace plain =>
      rw [trace, winnerHeights_append (silent added plain)]
      rfl
  | refused chunk method bytes accepted trace =>
      rw [trace]
      rfl
  | ended added trace plain => rw [trace, winnerHeights_append (silent added plain)]
  | forwarded later node slot chunk inIbd stuck connEvent results event_eq out trace plain complete
      active =>
      rcases other with idle | unheard
      · exact absurd idle active
      · subst event_eq
        simp [upcallOf, out] at unheard
  | closed later earlier trace plainLater plainEarlier =>
      rw [trace, winnerHeights_append (silent later plainLater)]
      exact winnerHeights_append (silent earlier plainEarlier) proxy.trace

/-- The winners that a response adds to the history. -/
theorem ResponseMove.winners {env : Env} {proxy result : Proxy n} {node : Fin n} {slot : Fin 2}
    {connEvent : ConnEvent} {results : List SendResult} {chunk : Memory}
    (move : ResponseMove env proxy node slot chunk results result)
    (out : connOutcome proxy node slot connEvent =
      some ⟨(proxy.slot node slot).absorb chunk, some .response, [], chunk⟩) :
    winnerHeights env.yyjsonRead result.trace =
      (wonHeight env proxy (.conn node slot connEvent results)).toList ++
        winnerHeights env.yyjsonRead proxy.trace := by
  have won : ∀ {stuck race},
      Counted env proxy.race ((proxy.slot node slot).absorb chunk) node stuck race →
      (wonHeight env proxy (.conn node slot connEvent results)).toList =
        if stuck then [parseGbtHeight env.yyjsonRead ((proxy.slot node slot).absorb chunk)]
        else [] := by
    intro stuck race counting
    rw [wonHeight_of_response out, counting.stuck_eq]
    cases proxy.race.isGbtRace <;>
      cases responseIsError env.yyjsonRead ((proxy.slot node slot).absorb chunk) <;> rfl
  have completed : ∀ judged : Proxy n, winnerHeights env.yyjsonRead (raceComplete judged).trace =
      winnerHeights env.yyjsonRead judged.trace := by
    intro judged
    rw [raceComplete_trace]
    apply winnerHeights_append
    exact forall_raceComplete judged rfl fun _ => rfl
  cases move with
  | counted race inIbd counting =>
      rw [won counting]
      rfl
  | broadcastWon race inIbd counting =>
      have trace := forwarded_trace_eq proxy node slot chunk race inIbd false results
      change winnerHeights _ (sendUpstreamResponseToClient
        (stick (answered proxy node slot chunk race inIbd) node false) node slot results).trace = _
      rw [won counting, trace, winnerHeights_forwarded]
  | won race inIbd stuck counting =>
      have trace := forwarded_trace_eq proxy node slot chunk race inIbd stuck results
      change winnerHeights _ (sendUpstreamResponseToClient
        (stick (answered proxy node slot chunk race inIbd) node stuck) node slot results).trace = _
      rw [won counting, trace, winnerHeights_forwarded]
  | ended race inIbd counting =>
      rw [completed, won counting]
      rfl
  | settled race inIbd stuck counting =>
      rw [completed, forwarded_trace_eq, winnerHeights_forwarded, won counting]

theorem FailureMove.height_eq {proxy result : Proxy n} {node : Fin n}
    (move : FailureMove proxy node result) :
    result.race.lastBlockHeight = proxy.race.lastBlockHeight := by
  cases move with
  | counted => rfl
  | ended => rw [raceComplete_race]; rfl
  | closed => rw [raceComplete_race]; rfl

theorem ErrorMove.height_eq {proxy result : Proxy n} {node : Fin n}
    (move : ErrorMove proxy node result) :
    result.race.lastBlockHeight = proxy.race.lastBlockHeight := by
  cases move with
  | retried => rfl
  | twice already result failure => exact FailureMove.height_eq failure
  | lost first final result failure =>
      have same := FailureMove.height_eq failure
      exact same

theorem TimeoutMove.height_eq {proxy result : Proxy n} {fd : Nat}
    (move : TimeoutMove proxy fd result) :
    result.race.lastBlockHeight = proxy.race.lastBlockHeight := by
  cases move with
  | drained => rw [cancelRpcTimeout_race]; rfl
  | ended => rw [raceComplete_race]; rfl
  | closed => rw [raceComplete_race]; rfl

theorem Acceptance.height_eq {env : Env} {proxy result : Proxy n} {method : Memory}
    {created : Bool} (acceptance : Acceptance env proxy method created result) :
    result.race.lastBlockHeight = proxy.race.lastBlockHeight := by
  cases acceptance with
  | fanout race begun => rw [startRpcTimeout_race]; exact begun.height_eq
  | sticky race begun => rw [startRpcTimeout_race]; exact begun.height_eq
  | refused race begun => exact begun.height_eq

/-- A callback that is no response to a race leaves the height alone. -/
theorem step_height_of_unheard (env : Env) (proxy : Proxy n) (event : Event n)
    (wellFormed : WellFormed proxy)
    (other : proxy.race.state = .idle ∨ upcallOf proxy event ≠ some .response) :
    (step env proxy event).race.lastBlockHeight = proxy.race.lastBlockHeight := by
  have move := step_raceStep env proxy event wellFormed
  generalize step env proxy event = result at move
  cases move with
  | aside event result added trace quiet race_eq => rw [race_eq]
  | notified => rfl
  | request event chunk method result bytes accepted idle acceptance =>
      have same := Acceptance.height_eq acceptance
      exact same
  | lateResponse node slot event results chunk result added out idle trace quiet race_eq =>
      rw [race_eq]
  | response node slot event results chunk result out complete active =>
      rcases other with idle | silent
      · exact absurd idle active
      · simp [upcallOf, out] at silent
  | lateError node slot event results result added idle trace quiet race_eq => rw [race_eq]
  | error node slot event results result out active move =>
      have same := ErrorMove.height_eq move
      exact same
  | expired fd results result registered move => exact TimeoutMove.height_eq move

/-- Every callback records the height of the winner it forwards, and no other. -/
theorem step_recorded (env : Env) (proxy : Proxy n) (event : Event n)
    (wellFormed : WellFormed proxy) :
    Recorded env proxy event (step env proxy event) := by
  by_cases other : proxy.race.state = .idle ∨ upcallOf proxy event ≠ some .response
  · have none : wonHeight env proxy event = none := wonHeight_eq_none other
    constructor
    · rw [none, step_height_of_unheard env proxy event wellFormed other]
      rfl
    · rw [none, winnerHeights_of_outcome (step_outcome env proxy event wellFormed) other]
      rfl
  · push Not at other
    rcases step_of_response env proxy event wellFormed other.1 other.2 with
      ⟨node, slot, connEvent, results, chunk, rfl, out, move⟩
    constructor
    · change (RpcProxy.connEvent env proxy node slot connEvent results).race.lastBlockHeight = _
      rw [connEvent_height env results out other.1 (wellFormed.racing other.1),
        wonHeight_of_response out]
      split_ifs <;> rfl
    · exact ResponseMove.winners move out

/-! ## Runs -/

/--
A template with a height above the recorded one wins a `getblocktemplate`
race.
-/
def RaisesHeight (env : Env) (proxy : Proxy n) (event : Event n) : Prop :=
  proxy.race.state = .fanout ∧ proxy.race.methodIs methodGbt = true ∧
    ∃ node slot connEvent results outcome height, event = .conn node slot connEvent results ∧
      connOutcome proxy node slot connEvent = some outcome ∧ outcome.upcall = some .response ∧
      responseIsError env.yyjsonRead outcome.conn = false ∧
      gbtHeight env.yyjsonRead outcome.conn = some height ∧ proxy.race.lastBlockHeight < height

/-- The recorded height is the greatest height of a winner, or zero. -/
def IsGreatest (env : Env) (proxy : Proxy n) : Prop :=
  proxy.race.lastBlockHeight = greatest (winnerHeights env.yyjsonRead proxy.trace)

theorem greatest_nonneg (heights : List Int) : 0 ≤ greatest heights := by
  induction heights with
  | nil => exact le_rfl
  | cons height rest induction => exact induction.trans (le_max_right height _)

theorem Recorded.isGreatest {env : Env} {proxy result : Proxy n} {event : Event n}
    (recorded : Recorded env proxy event result) (before : IsGreatest env proxy) :
    IsGreatest env result := by
  unfold IsGreatest at before ⊢
  rw [recorded.height_eq, recorded.winners_eq]
  cases wonHeight env proxy event with
  | none => exact before
  | some height => exact congrArg (max height) before

theorem Recorded.height_le {env : Env} {proxy result : Proxy n} {event : Event n}
    (recorded : Recorded env proxy event result) :
    proxy.race.lastBlockHeight ≤ result.race.lastBlockHeight := by
  rw [recorded.height_eq]
  cases wonHeight env proxy event with
  | none => exact le_rfl
  | some height => exact le_max_right _ _

theorem wonHeight_eq_some {env : Env} {proxy : Proxy n} {event : Event n} {height : Int}
    (won : wonHeight env proxy event = some height) :
    proxy.race.isGbtRace = true ∧
      ∃ node slot connEvent results outcome, event = .conn node slot connEvent results ∧
        connOutcome proxy node slot connEvent = some outcome ∧ outcome.upcall = some .response ∧
        responseIsError env.yyjsonRead outcome.conn = false ∧
        parseGbtHeight env.yyjsonRead outcome.conn = height := by
  cases event with
  | conn node slot connEvent results =>
      rcases Option.bind_eq_some_iff.mp won with ⟨outcome, out, chosen⟩
      split_ifs at chosen with wins
      exact ⟨wins.2.1, node, slot, connEvent, results, outcome, rfl, out, wins.1, wins.2.2,
        Option.some.inj chosen⟩
  | _ => simp [wonHeight] at won

/-- A height that is not raised by a winner stays, also one without a height field. -/
theorem Recorded.height_of_not_raises {env : Env} {proxy result : Proxy n} {event : Event n}
    (recorded : Recorded env proxy event result) (nonneg : 0 ≤ proxy.race.lastBlockHeight)
    (keeps : ¬ RaisesHeight env proxy event) :
    result.race.lastBlockHeight = proxy.race.lastBlockHeight := by
  rw [recorded.height_eq]
  cases won : wonHeight env proxy event with
  | none => rfl
  | some height =>
      apply max_eq_right
      by_contra greater
      rcases wonHeight_eq_some won with
        ⟨gbt, node, slot, connEvent, results, outcome, rfl, out, response, valid, parsed⟩
      have fanout : proxy.race.methodIs methodGbt = true ∧ proxy.race.state = .fanout := by
        simpa [Race.isGbtRace] using gbt
      have present : gbtHeight env.yyjsonRead outcome.conn = some height := by
        cases field : gbtHeight env.yyjsonRead outcome.conn with
        | none =>
            rw [parseGbtHeight, field, Option.getD_none] at parsed
            omega
        | some other =>
            rw [parseGbtHeight, field, Option.getD_some] at parsed
            rw [parsed]
      exact keeps ⟨fanout.2, fanout.1, node, slot, connEvent, results, outcome, height, rfl, out,
        response, valid, present, not_le.mp greater⟩

theorem throughout_isGreatest (env : Env) (boot : Boot n) (events : List (Event n)) :
    Throughout (step env) (fun proxy => WellFormed proxy ∧ IsGreatest env proxy)
      (rpcProxyCreate boot) events := by
  apply throughout_of_step
  · rintro proxy event ⟨wellFormed, before⟩
    exact ⟨step_wellFormed env proxy event wellFormed,
      (step_recorded env proxy event wellFormed).isGreatest before⟩
  · exact ⟨rpcProxyCreate_wellFormed boot, rfl⟩

/--
In every state of a run the recorded height is the greatest height of a
winner of a template race; no callback lowers it, and none changes it but the
win of a template with a greater height.
-/
theorem lastBlockHeight_eq_greatest (env : Env) (boot : Boot n) (events : List (Event n)) :
    Throughout (step env) (IsGreatest env) (rpcProxyCreate boot) events ∧
      Along (step env)
        (fun proxy event =>
          proxy.race.lastBlockHeight ≤ (step env proxy event).race.lastBlockHeight ∧
            (¬ RaisesHeight env proxy event →
              (step env proxy event).race.lastBlockHeight = proxy.race.lastBlockHeight))
        (rpcProxyCreate boot) events := by
  constructor
  · refine (throughout_isGreatest env boot events).mono ?_
    rintro proxy ⟨-, greatest⟩
    exact greatest
  · rw [along_iff]
    intro before event after split
    have reached := throughout_end (throughout_isGreatest env boot before)
    generalize run (step env) (rpcProxyCreate boot) before = proxy at reached
    have recorded := step_recorded env proxy event reached.1
    have nonneg : 0 ≤ proxy.race.lastBlockHeight := by
      rw [reached.2]
      exact greatest_nonneg _
    exact ⟨recorded.height_le, recorded.height_of_not_raises nonneg⟩

/-! ## Overflow -/

/-- `INT64_MAX`. -/
def int64Max : Int := 2 ^ 63 - 1

/-- A value of `int64_t`. -/
def FitsInt64 (value : Int) : Prop :=
  -2 ^ 63 ≤ value ∧ value ≤ int64Max

instance (value : Int) : Decidable (FitsInt64 value) :=
  inferInstanceAs (Decidable (_ ∧ _))

/--
The expected height, `last_block_height + 1`, is computed for every valid
response in a template race, and fits.
-/
def ExpectedFits (env : Env) (proxy : Proxy n) (event : Event n) : Prop :=
  wonHeight env proxy event ≠ none → FitsInt64 (proxy.race.lastBlockHeight + 1)

/-- A valid response in a template race comes before a winner of the height `INT64_MAX`. -/
def BelowTop (env : Env) (proxy : Proxy n) (event : Event n) : Prop :=
  wonHeight env proxy event ≠ none → int64Max ∉ winnerHeights env.yyjsonRead proxy.trace

instance (env : Env) (proxy : Proxy n) (event : Event n) :
    Decidable (ExpectedFits env proxy event) :=
  inferInstanceAs (Decidable (_ → _))

theorem asInt_le {value : Json} {number : Int} (read : value.asInt = some number) :
    number ≤ int64Max := by
  have bound (signed : Int64) : signed.toInt ≤ int64Max := signed.toInt_le
  cases value with
  | uint unsigned =>
      cases read
      exact bound unsigned.toInt64
  | sint signed =>
      cases read
      exact bound signed
  | _ => simp [Json.asInt] at read

/-- Every height that `parse_gbt_height` returns is a value of `int64_t`. -/
theorem parseGbtHeight_le (read : JsonReader) (conn : UpstreamConn) :
    parseGbtHeight read conn ≤ int64Max := by
  unfold parseGbtHeight
  cases height : gbtHeight read conn with
  | none => decide
  | some number =>
      simp only [gbtHeight, Option.bind_eq_bind, Option.bind_eq_some_iff] at height
      rcases height with ⟨root, -, result, -, object, -, field, -, parsed⟩
      exact asInt_le parsed

theorem winnerHeights_le (read : JsonReader) (trace : List (Effect n)) :
    ∀ height ∈ winnerHeights read trace, height ≤ int64Max := by
  induction trace with
  | nil => simp [winnerHeights]
  | cons effect past induction =>
      cases effect with
      | forwarded node slot conn written sent =>
          rw [winnerHeights]
          split_ifs
          · exact List.forall_mem_cons.mpr ⟨parseGbtHeight_le read conn, induction⟩
          · exact induction
      | _ => exact induction

theorem le_greatest {heights : List Int} {height : Int} (member : height ∈ heights) :
    height ≤ greatest heights := by
  induction heights with
  | nil => simp at member
  | cons first rest induction =>
      rcases List.mem_cons.mp member with rfl | later
      · exact le_max_left _ _
      · exact (induction later).trans (le_max_right _ _)

theorem greatest_mem (heights : List Int) :
    greatest heights = 0 ∨ greatest heights ∈ heights := by
  induction heights with
  | nil => exact Or.inl rfl
  | cons first rest induction =>
      change max first (greatest rest) = 0 ∨ max first (greatest rest) ∈ _
      rcases max_choice first (greatest rest) with left | right
      · rw [left]
        exact Or.inr List.mem_cons_self
      · rw [right]
        exact induction.imp_right (List.mem_cons_of_mem first)

/-- The expected height overflows exactly if a winner had the greatest height there is. -/
theorem fitsInt64_greatest_iff {heights : List Int}
    (below : ∀ height ∈ heights, height ≤ int64Max) :
    FitsInt64 (greatest heights + 1) ↔ int64Max ∉ heights := by
  have nonneg := greatest_nonneg heights
  constructor
  · rintro ⟨-, fits⟩ member
    have reached := le_greatest member
    omega
  · intro absent
    have within : greatest heights < int64Max := by
      rcases greatest_mem heights with zero | member
      · rw [zero]
        decide
      · refine lt_of_le_of_ne (below _ member) fun same => ?_
        rw [same] at member
        exact absent member
    exact ⟨by omega, by omega⟩

/--
In a run the expected height fits `int64_t` whenever it is computed, exactly
if no valid response in a template race follows a winner of the height
`INT64_MAX`.
-/
theorem expectedFits_iff_belowTop (env : Env) (boot : Boot n) (events : List (Event n)) :
    Along (step env) (ExpectedFits env) (rpcProxyCreate boot) events ↔
      Along (step env) (BelowTop env) (rpcProxyCreate boot) events := by
  rw [along_iff, along_iff]
  refine forall₄_congr fun before event after split => ?_
  have recorded := (throughout_end (throughout_isGreatest env boot before)).2
  generalize run (step env) (rpcProxyCreate boot) before = proxy at recorded
  unfold ExpectedFits BelowTop
  rw [IsGreatest] at recorded
  rw [recorded, fitsInt64_greatest_iff (winnerHeights_le env.yyjsonRead proxy.trace)]

/-- The JSON text of a template of the height `INT64_MAX`. -/
def topText : Memory :=
  templateText "9223372036854775807"

/-- A parser that is right about this text, too. -/
def topEnv : Env where
  rpcTimeoutMs := 30000
  yyjsonRead text :=
    if text = topText then some (templateJson 9223372036854775807) else exampleRead text

/-- A node wins with this template, and it wins the race after the next block, too. -/
def topTwice : List (Event 1) :=
  [clientConnects, clientSends gbtRequest, slotWrites 0 0 1000,
    slotReads 0 0 (httpMessage "HTTP/1.1 200 OK" "54" topText) [.accepted 1000], .blockNotify,
    clientSends gbtRequest, slotWrites 0 0 1000,
    slotReads 0 0 (templateResponse "1") [.accepted 1000]]

/-- The second race computes `INT64_MAX + 1`. -/
theorem topTwice_overflows :
    ¬ Along (step topEnv) (ExpectedFits topEnv) (rpcProxyCreate (exampleBoot 1)) topTwice := by
  decide +kernel

end RpcRace.BlockHeight
