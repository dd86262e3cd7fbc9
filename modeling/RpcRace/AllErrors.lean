import RpcRace.ClientStream
import RpcRace.Broadcast

/-!
# Races that no node wins

A client whose request fails on every node is meant to get the error response
that was received last.  The rule is written twice.  `on_upstream_response`
forwards the response that completes the count, and `on_upstream_error` closes
the client when it is a transport failure that completes it.  Neither of them
looks back at the other nodes, so the order in which the nodes are heard
matters: `answeredWithLatest_iff_answersClient` says that the client gets the
latest error response exactly when a response is what ends the race, and the
client takes it.
-/

namespace RpcRace.AllErrors

open RpcRace.Library.CString
open RpcRace.Library.Run
open RpcRace.RpcConn
open RpcRace.JsonResponse
open RpcRace.RpcProxy
open RpcRace.Dispatch
open RpcRace.RaceMoves
open RpcRace.ProxyMoves
open RpcRace.SlotMoves
open RpcRace.Requests
open RpcRace.ClientMoves
open RpcRace.Outcomes
open RpcRace.ClientStream
open RpcRace.Broadcast

variable {n : Nat}

/-! ## What is heard from the nodes -/

/-- The response in this effect. -/
def response : Effect n → Option (Fin n × Fin 2 × UpstreamConn)
  | .delivered node slot conn => some (node, slot, conn)
  | _ => none

/-- The complete response that was received last. -/
def latestResponse (history : List (Effect n)) : Option (Fin n × Fin 2 × UpstreamConn) :=
  history.findSome? response

/--
All bytes of the response that was received last were written to a client, and
the race did not close it.  Before it is forwarded, a response may change the
IBD flag of its slot.
-/
structure AnsweredWithLatest (proxy : Proxy n) : Prop where
  written : ∃ node slot conn inIbd client,
    latestResponse (sinceRequest proxy.trace) = some (node, slot, conn) ∧
      .forwarded node slot { conn with inIbd := inIbd } (some client)
        (conn.headerLen + conn.contentLength) ∈ sinceRequest proxy.trace
  unclosed : ∀ effect ∈ sinceRequest proxy.trace, isRaceClose effect = false

/--
The event completes a response of less than `2^64` bytes, the client is
connected and its socket takes all of them.
-/
def AnswersClient (proxy : Proxy n) (event : Event n) : Prop :=
  match event with
  | .conn node slot connEvent results =>
      proxy.client.connected = true ∧
        ∃ outcome ∈ connOutcome proxy node slot connEvent, outcome.upcall = some .response ∧
          outcome.conn.headerLen + outcome.conn.contentLength < sizeModulus ∧
          outcome.conn.headerLen + outcome.conn.contentLength ≤ capacity results
  | _ => False

instance (proxy : Proxy n) (event : Event n) : Decidable (AnswersClient proxy event) :=
  match event with
  | .conn node slot connEvent results =>
      inferInstanceAs (Decidable (_ ∧
        ∃ outcome ∈ connOutcome proxy node slot connEvent, outcome.upcall = some .response ∧
          outcome.conn.headerLen + outcome.conn.contentLength < sizeModulus ∧
          outcome.conn.headerLen + outcome.conn.contentLength ≤ capacity results))
  | .accept _ | .client _ | .rotation _ _ | .timeout _ _ | .blockNotify | .elapse _ => .isFalse id

/-- The race goes on and is not timed out, no node is heard after it is done, and none succeeds. -/
structure Fruitless (env : Env) (proxy : Proxy n) (event : Event n) : Prop where
  within : WithinRace proxy event
  once : AnswersOnce proxy event
  fails : deliversSuccess env proxy event = false

instance (env : Env) (proxy : Proxy n) (event : Event n) : Decidable (Fruitless env proxy event) :=
  decidable_of_iff
    (WithinRace proxy event ∧ AnswersOnce proxy event ∧ deliversSuccess env proxy event = false)
    ⟨fun ⟨within, once, fails⟩ => ⟨within, once, fails⟩,
      fun ⟨within, once, fails⟩ => ⟨within, once, fails⟩⟩

/-! ## One callback -/

/-- Neither an outcome, nor a new request, nor a response. -/
def isMute (effect : Effect n) : Bool :=
  isPlain effect && (response effect).isNone

theorem isPlain_iff {effect : Effect n} :
    isPlain effect = true ↔
      isForward effect = false ∧ isRaceClose effect = false ∧ isRequest effect = false := by
  simp [isPlain, and_assoc]

theorem isMute_iff {effect : Effect n} :
    isMute effect = true ↔ isPlain effect = true ∧ response effect = none := by
  simp [isMute]

theorem isMute_raceComplete (proxy : Proxy n) :
    ∀ effect ∈ Effect.raceCompleted :: cancelEffects proxy, isMute effect = true :=
  forall_raceComplete proxy rfl fun _ => rfl

/-- What one callback does to a race without a winner. -/
inductive ErringMove (proxy : Proxy n) (event : Event n) (result : Proxy n) : Prop where
  /-- The race goes on. -/
  | goes (added : List (Effect n)) (trace : result.trace = added ++ proxy.trace)
      (plain : ∀ effect ∈ added, isPlain effect = true)
      (state_eq : result.race.state = proxy.race.state)
      (unwon : result.race.winnerIdx = none)
  /-- The last node has an error response. -/
  | forwards (later : List (Effect n)) (node : Fin n) (slot : Fin 2) (connEvent : ConnEvent)
      (results : List SendResult) (conn : UpstreamConn) (inIbd : Bool) (received : Memory)
      (event_eq : event = .conn node slot connEvent results)
      (out : connOutcome proxy node slot connEvent = some ⟨conn, some .response, [], received⟩)
      (complete : rpcConnResponseComplete conn = true)
      (trace : result.trace =
        later ++ .forwarded node slot { conn with inIbd := inIbd } proxy.client.target
          (clientBytesWritten proxy.client { conn with inIbd := inIbd } results) ::
            .delivered node slot conn :: .transferred node slot [] received :: proxy.trace)
      (mute : ∀ effect ∈ later, isMute effect = true)
      (idle : result.race.state = .idle)
  /-- The last node fails. -/
  | closes (added : List (Effect n)) (target : Option Nat)
      (silent : upcallOf proxy event ≠ some .response)
      (trace : result.trace = added ++ proxy.trace)
      (asked : ∀ effect ∈ added, isRequest effect = false)
      (close : .closeClient target true ∈ added)
      (idle : result.race.state = .idle)

theorem ResponseMove.erring {env : Env} {proxy : Proxy n} {node : Fin n} {slot : Fin 2}
    {connEvent : ConnEvent} {chunk : Memory} {results : List SendResult} {result : Proxy n}
    (move : ResponseMove env proxy node slot chunk results result)
    (out : connOutcome proxy node slot connEvent =
      some ⟨(proxy.slot node slot).absorb chunk, some .response, [], chunk⟩)
    (complete : rpcConnResponseComplete ((proxy.slot node slot).absorb chunk) = true)
    (error : responseIsError env.yyjsonRead ((proxy.slot node slot).absorb chunk) = true)
    (unwon : proxy.race.winnerIdx = none) :
    ErringMove proxy (.conn node slot connEvent results) result := by
  cases move with
  | counted race inIbd counting more unsent =>
      refine .goes [_, _] rfl (isPlain_delivered node slot _ chunk) counting.state_eq ?_
      rw [answered_race, counting.winner_eq, error]
      exact unwon
  | broadcastWon race inIbd counting more all first valid =>
      rw [valid] at error
      contradiction
  | won race inIbd stuck counting more single first valid =>
      rw [valid] at error
      contradiction
  | ended race inIbd counting last won => exact absurd unwon won
  | settled race inIbd stuck counting last first =>
      obtain rfl : stuck = false := by
        rw [counting.stuck_eq, error]
        exact Bool.and_false _
      let sent := sendUpstreamResponseToClient
        (stick (answered proxy node slot chunk race inIbd) node false) node slot results
      refine .forwards (.raceCompleted :: cancelEffects sent) node slot connEvent results
        ((proxy.slot node slot).absorb chunk) inIbd chunk rfl out complete ?_
        (isMute_raceComplete sent) (raceComplete_state _)
      rw [raceComplete_trace, forwarded_trace_eq]
      rfl

theorem FailureMove.erring {proxy base result : Proxy n} {event : Event n} {node : Fin n}
    {earlier : List (Effect n)} (move : FailureMove base node result)
    (silent : upcallOf proxy event ≠ some .response)
    (trace : base.trace = earlier ++ proxy.trace)
    (plain : ∀ effect ∈ earlier, isPlain effect = true)
    (state_eq : base.race.state = proxy.race.state)
    (unwon : base.race.winnerIdx = none) :
    ErringMove proxy event result := by
  have lost_trace : (lost base node).trace = .gaveUp node :: (earlier ++ proxy.trace) := by
    rw [← trace]
    rfl
  cases move with
  | counted more =>
      exact .goes (.gaveUp node :: earlier) lost_trace (List.forall_mem_cons.mpr ⟨rfl, plain⟩)
        state_eq unwon
  | ended last won => exact absurd unwon won
  | closed last =>
      let hungUp := closeClient (lost base node) true
      let after := Effect.raceCompleted :: cancelEffects hungUp
      refine .closes
        (after ++ .closeClient (lost base node).client.target true :: .gaveUp node :: earlier)
        (lost base node).client.target silent ?_ ?_ (by simp) (raceComplete_state _)
      · rw [raceComplete_trace, closeClient_trace, lost_trace]
        simp [after, hungUp]
      · refine List.forall_mem_append.mpr ⟨fun effect member => ?_, ?_⟩
        · have mute := isMute_raceComplete hungUp effect member
          exact (isPlain_iff.mp (isMute_iff.mp mute).1).2.2
        · refine List.forall_mem_cons.mpr ⟨rfl, List.forall_mem_cons.mpr ⟨rfl, ?_⟩⟩
          exact fun effect member => (isPlain_iff.mp (plain effect member)).2.2

theorem ErrorMove.erring {proxy result : Proxy n} {event : Event n} {node : Fin n} {slot : Fin 2}
    (move : ErrorMove (breakage proxy node slot) node result)
    (silent : upcallOf proxy event ≠ some .response) (unwon : proxy.race.winnerIdx = none) :
    ErringMove proxy event result := by
  have plain := isPlain_failed node slot
  cases move with
  | retried retryable =>
      exact .goes [_, _, _] rfl (List.forall_mem_cons.mpr ⟨rfl, plain⟩) rfl unwon
  | twice already result failure =>
      exact FailureMove.erring failure silent rfl plain rfl unwon
  | lost first final result failure =>
      exact FailureMove.erring failure silent rfl plain rfl unwon

theorem step_erringMove (env : Env) (proxy : Proxy n) (event : Event n)
    (wellFormed : WellFormed proxy) (within : WithinRace proxy event)
    (fails : deliversSuccess env proxy event = false) (unwon : proxy.race.winnerIdx = none) :
    ErringMove proxy event (step env proxy event) := by
  rcases within with ⟨active, inTime⟩
  have move := step_raceStep env proxy event wellFormed
  generalize step env proxy event = result at move
  cases move with
  | aside event result added trace quiet race_eq waiting =>
      exact .goes added trace (fun effect member => isPlain_of_isAside (quiet effect member))
        (by rw [race_eq]) (by rw [race_eq, unwon])
  | notified =>
      exact .goes [.blockNotify] rfl (List.forall_mem_singleton.mpr rfl) rfl unwon
  | request event chunk method result bytes accepted idle acceptance =>
      exact absurd idle active
  | lateResponse node slot event results chunk result added out idle trace quiet race_eq =>
      exact absurd idle active
  | response node slot event results chunk result out complete active move =>
      rw [deliversSuccess, out] at fails
      exact ResponseMove.erring move out complete (by simpa using fails) unwon
  | lateError node slot event results result added idle trace quiet race_eq =>
      exact absurd idle active
  | error node slot event results result out active move =>
      exact ErrorMove.erring move (by simp [upcallOf, out, ConnOutcome.quiet]) unwon
  | expired fd results result registered move =>
      rw [expires, registered] at inTime
      contradiction

/-! ## The outcome of a race that ends -/

/-- A complete response is written in full exactly if there is a client that takes all of it. -/
theorem written_iff {client : Client} {conn : UpstreamConn} {results : List SendResult}
    (sound : TargetSound client) (complete : rpcConnResponseComplete conn = true) :
    (∃ target, client.target = some target ∧
        clientBytesWritten client conn results = conn.headerLen + conn.contentLength) ↔
      client.connected = true ∧ conn.headerLen + conn.contentLength < sizeModulus ∧
        conn.headerLen + conn.contentLength ≤ capacity results := by
  constructor
  · rintro ⟨target, target_eq, written⟩
    have connected : client.connected = true := by
      rw [sound, target_eq]
      rfl
    have small : conn.expected < sizeModulus := Nat.mod_lt _ (by decide)
    rw [clientBytesWritten, if_pos connected, clientSendLoop_eq _ _ _ (Nat.zero_le _)] at written
    have bounded : conn.headerLen + conn.contentLength < sizeModulus := by
      split_ifs at written <;> omega
    have expected_eq : conn.expected = conn.headerLen + conn.contentLength :=
      Nat.mod_eq_of_lt bounded
    refine ⟨connected, bounded, ?_⟩
    split_ifs at written <;> omega
  · rintro ⟨connected, bounded, takes⟩
    rw [sound] at connected
    rcases Option.isSome_iff_exists.mp connected with ⟨target, target_eq⟩
    refine ⟨target, target_eq, clientBytesWritten_of_takes ?_ complete bounded takes⟩
    rw [sound, target_eq]
    rfl

theorem sinceRequest_plain {later past : List (Effect n)}
    (plain : ∀ effect ∈ later, isPlain effect = true) :
    sinceRequest (later ++ past) = later ++ sinceRequest past :=
  sinceRequest_append (fun effect member => (isPlain_iff.mp (plain effect member)).2.2) past

theorem latestResponse_mute {later past : List (Effect n)}
    (mute : ∀ effect ∈ later, isMute effect = true) :
    latestResponse (later ++ past) = latestResponse past := by
  have nothing : later.findSome? response = none := by
    rw [List.findSome?_eq_none_iff]
    intro effect member
    exact (isMute_iff.mp (mute effect member)).2
  rw [latestResponse, List.findSome?_append, nothing, Option.none_or]
  rfl

/-- Nothing was forwarded for the latest request, and the race did not close the client. -/
def Unsettled (proxy : Proxy n) : Prop :=
  ∀ effect ∈ sinceRequest proxy.trace, isForward effect = false ∧ isRaceClose effect = false

theorem unsettled_of_plain {proxy : Proxy n} {added : List (Effect n)} {result : Proxy n}
    (trace : result.trace = added ++ proxy.trace)
    (plain : ∀ effect ∈ added, isPlain effect = true) (unsettled : Unsettled proxy) :
    Unsettled result := by
  rw [Unsettled, trace, sinceRequest_plain plain]
  refine List.forall_mem_append.mpr ⟨fun effect member => ?_, unsettled⟩
  rcases isPlain_iff.mp (plain effect member) with ⟨unsent, unclosed, -⟩
  exact ⟨unsent, unclosed⟩

theorem answersClient_iff {proxy : Proxy n} {node : Fin n} {slot : Fin 2} {connEvent : ConnEvent}
    {conn : UpstreamConn} {received : Memory} (results : List SendResult)
    (out : connOutcome proxy node slot connEvent = some ⟨conn, some .response, [], received⟩) :
    AnswersClient proxy (.conn node slot connEvent results) ↔
      proxy.client.connected = true ∧ conn.headerLen + conn.contentLength < sizeModulus ∧
        conn.headerLen + conn.contentLength ≤ capacity results := by
  constructor
  · rintro ⟨connected, outcome, completes, -, takes⟩
    obtain rfl := Option.some.inj (out.symm.trans completes)
    exact ⟨connected, takes⟩
  · rintro ⟨connected, takes⟩
    exact ⟨connected, _, out, rfl, takes⟩

/-- A response that is forwarded at the end of a race is the only one of the race. -/
theorem mem_forwarded_iff {later past : List (Effect n)} {node other : Fin n}
    {slot index : Fin 2} {conn last sent : UpstreamConn} {received : Memory}
    {target client : Option Nat} {count full : Nat}
    (plain : ∀ effect ∈ later, isPlain effect = true)
    (unsent : ∀ effect ∈ past, isForward effect = false) :
    .forwarded other index sent client full ∈
        later ++ .forwarded node slot conn target count :: .delivered node slot last ::
          .transferred node slot [] received :: past ↔
      (other = node ∧ index = slot ∧ sent = conn) ∧ client = target ∧ full = count := by
  have silent : ∀ effects : List (Effect n), (∀ effect ∈ effects, isForward effect = false) →
      .forwarded other index sent client full ∉ effects := by
    intro effects quiet member
    have unsent := quiet _ member
    simp [isForward] at unsent
  have early := silent later fun effect member => (isPlain_iff.mp (plain effect member)).1
  simp [early, silent past unsent, and_assoc]

/-- The callback that ends the race decides what the client gets. -/
theorem ErringMove.answered_iff {proxy result : Proxy n} {event : Event n}
    (move : ErringMove proxy event result) (active : proxy.race.state ≠ .idle)
    (sound : TargetSound proxy.client) (unsettled : Unsettled proxy)
    (idle : result.race.state = .idle) :
    AnsweredWithLatest result ↔ AnswersClient proxy event := by
  cases move with
  | goes added trace plain state_eq unwon =>
      rw [state_eq] at idle
      exact absurd idle active
  | forwards later node slot connEvent results conn inIbd received event_eq out complete trace
      mute _ =>
      subst event_eq
      have plain : ∀ effect ∈ later, isPlain effect = true := fun effect member =>
        (isMute_iff.mp (mute effect member)).1
      have since_eq := congrArg sinceRequest trace
      rw [sinceRequest_plain plain, sinceRequest_cons rfl, sinceRequest_cons rfl,
        sinceRequest_cons rfl] at since_eq
      have latest : latestResponse (sinceRequest result.trace) = some (node, slot, conn) := by
        rw [since_eq, latestResponse_mute mute]
        rfl
      have written : (∃ target, proxy.client.target = some target ∧
          clientBytesWritten proxy.client { conn with inIbd := inIbd } results =
            conn.headerLen + conn.contentLength) ↔ _ :=
        written_iff sound complete
      have unsent := fun effect member => (unsettled effect member).1
      rw [answersClient_iff results out, ← written]
      constructor
      · rintro ⟨⟨other, index, last, flag, client, last_eq, member⟩, -⟩
        rw [latest, Option.some.injEq, Prod.mk.injEq, Prod.mk.injEq] at last_eq
        rcases last_eq with ⟨rfl, rfl, rfl⟩
        rw [since_eq, mem_forwarded_iff plain unsent] at member
        exact ⟨client, member.2.1.symm, member.2.2.symm⟩
      · rintro ⟨client, target_eq, full⟩
        refine ⟨⟨node, slot, conn, inIbd, client, latest, ?_⟩, ?_⟩
        · rw [since_eq, mem_forwarded_iff plain unsent]
          exact ⟨⟨rfl, rfl, rfl⟩, target_eq.symm, full.symm⟩
        · rw [since_eq]
          refine List.forall_mem_append.mpr ⟨fun effect member => ?_, ?_⟩
          · exact (isPlain_iff.mp (plain effect member)).2.1
          · simpa [isRaceClose] using fun effect member => (unsettled effect member).2
  | closes added target silent trace asked close _ =>
      refine iff_of_false (fun answered => ?_) fun answers => ?_
      · have member : .closeClient target true ∈ sinceRequest result.trace := by
          rw [trace, sinceRequest_append asked]
          exact List.mem_append_left _ close
        have unclosed := answered.unclosed _ member
        simp [isRaceClose] at unclosed
      · cases event with
        | conn node slot connEvent results =>
            rcases answers with ⟨-, outcome, out, response, -⟩
            exact silent (by simp [upcallOf, Option.mem_def.mp out, response])
        | _ => exact answers

/-! ## Runs -/

/-- What holds during a race that no node wins. -/
structure Erring (proxy : Proxy n) : Prop where
  wellFormed : WellFormed proxy
  sound : TargetSound proxy.client
  unaborted : Unaborted proxy
  started : ∀ node slot, (proxy.slot node slot).inFlight = true →
    (sinceRequest proxy.trace).any (startsNode node) = true
  unwon : proxy.race.state ≠ .idle → proxy.race.winnerIdx = none
  unsettled : proxy.race.state ≠ .idle → Unsettled proxy

theorem ErringMove.racing {proxy result : Proxy n} {event : Event n}
    (move : ErringMove proxy event result) (before : Unsettled proxy)
    (active : result.race.state ≠ .idle) :
    result.race.winnerIdx = none ∧ Unsettled result := by
  cases move with
  | goes added trace plain state_eq unwon => exact ⟨unwon, unsettled_of_plain trace plain before⟩
  | forwards later node slot connEvent results conn inIbd received event_eq out complete trace
      mute idle =>
      exact absurd idle active
  | closes added target silent trace asked close idle => exact absurd idle active

theorem step_erring (env : Env) (proxy : Proxy n) (event : Event n) (erring : Erring proxy)
    (fruitless : Fruitless env proxy event) :
    Erring (step env proxy event) := by
  have active := fruitless.within.1
  have move := step_erringMove env proxy event erring.wellFormed fruitless.within fruitless.fails
    (erring.unwon active)
  have count := step_count env proxy event erring.wellFormed active (Or.inr fruitless.fails)
    fruitless.within.2
  have before := erring.unsettled active
  constructor
  · exact step_wellFormed env proxy event erring.wellFormed
  · exact (step_clientChange env proxy event erring.wellFormed).targetSound erring.sound
  · apply count.unaborted active erring.unaborted
    intro node slot delivers
    exact mem_openNodes_of_delivers delivers erring.started fruitless.once
  · exact step_started env event erring.wellFormed active erring.started
  · exact fun racing => (move.racing before racing).1
  · exact fun racing => (move.racing before racing).2

/-- A request that is sent to all nodes, with no other in flight, begins such a race. -/
theorem erring_of_accepted (env : Env) (proxy : Proxy n) (event : Event n)
    (wellFormed : WellFormed proxy) (sound : TargetSound proxy.client)
    (quiet : ∀ node slot, (proxy.slot node slot).inFlight = false) {method : Memory}
    (accepted : acceptedMethod env proxy event = some method)
    (fanout : (step env proxy event).race.state = .fanout) :
    Erring (step env proxy event) := by
  have sound := (step_clientChange env proxy event wellFormed).targetSound sound
  have unaborted := unaborted_of_accepted env proxy event wellFormed accepted (by simp [fanout])
  have started := started_of_quiet env event wellFormed quiet
  have after := step_wellFormed env proxy event wellFormed
  have outcome := step_outcome env proxy event wellFormed
  generalize step env proxy event = result at *
  cases outcome with
  | opened added chunk method bytes accepted trace plain idle active unwon target_eq =>
      refine ⟨after, sound, unaborted, started, fun _ => unwon, fun _ => ?_⟩
      rw [Unsettled, trace, sinceRequest_plain plain]
      refine List.forall_mem_append.mpr ⟨fun effect member => ?_, ?_⟩
      · rcases isPlain_iff.mp (plain effect member) with ⟨unsent, unclosed, -⟩
        exact ⟨unsent, unclosed⟩
      · simp [sinceRequest, requestEffect, isRequest, isForward, isRaceClose]
  | refused chunk method bytes accepted trace wasIdle idle target_eq => simp [fanout] at idle
  | quiet added trace plain state_eq winner_eq waiting => simp [waiting] at accepted
  | ended added trace plain active won idle waiting client_eq => simp [waiting] at accepted
  | forwarded later node slot chunk inIbd stuck connEvent results event_eq =>
      subst event_eq
      simp [acceptedMethod, storedChunk] at accepted
  | closed later earlier trace plainLater plainEarlier active unwon idle waiting client_eq =>
      simp [waiting] at accepted

/-- A race in which every node is done is over. -/
theorem Erring.idle {proxy : Proxy n} (erring : Erring proxy)
    (done : openNodes (sinceRequest proxy.trace) = []) :
    proxy.race.state = .idle := by
  by_contra active
  have pending := erring.unaborted.pending active
  have positive := (erring.wellFormed.racing active).pending
  rw [done, List.length_nil] at pending
  omega

theorem run_targetSound (env : Env) (boot : Boot n) (events : List (Event n)) :
    TargetSound (run (step env) (rpcProxyCreate boot) events).client := by
  have keep : ∀ (proxy : Proxy n) event, WellFormed proxy ∧ TargetSound proxy.client →
      WellFormed (step env proxy event) ∧ TargetSound (step env proxy event).client := by
    rintro proxy event ⟨wellFormed, sound⟩
    exact ⟨step_wellFormed env proxy event wellFormed,
      (step_clientChange env proxy event wellFormed).targetSound sound⟩
  exact (run_invariant keep ⟨rpcProxyCreate_wellFormed boot, rfl⟩ events).2

/-- The client connects, and the second of two nodes loses its standby connection. -/
def withoutStandby : List (Event 2) :=
  [clientConnects, slotFails 1 1]

/-- The second node fails. -/
def secondFails : List (Event 2) :=
  [slotWrites 0 0 1000, slotWrites 1 0 1000, slotFails 1 0]

/-- The first node answers with an error. -/
def firstErrs : Event 2 :=
  slotReads 0 0 errorResponse [.accepted 1000]

theorem not_answered_of_isRaceClose {proxy : Proxy n}
    (closed : (sinceRequest proxy.trace).any isRaceClose = true) :
    ¬ AnsweredWithLatest proxy := by
  intro answered
  rcases List.any_eq_true.mp closed with ⟨effect, member, isClose⟩
  rw [answered.unclosed effect member] at isClose
  contradiction

/-- The first node answers with an error, and then the second node fails. -/
def failureAfterError : List (Event 2) :=
  [slotWrites 0 0 1000, slotWrites 1 0 1000,
    slotReads 0 0 errorResponse [.accepted 1000], slotFails 1 0]

end RpcRace.AllErrors
