import RpcRace.Outcomes

/-!
# What a client connection receives

`send_upstream_response_to_client` writes as much as the client's socket
takes and drops the rest.  Nothing remembers the rest, and the connection
stays open.  The stream of a client is a sequence of whole responses as long
as the socket takes every response at once, and
`framed_of_takesAll` shows that this is all it needs.
-/

namespace RpcRace.ClientStream

open RpcRace.Library.CString
open RpcRace.Library.Run
open RpcRace.RpcConn
open RpcRace.JsonResponse
open RpcRace.RpcProxy
open RpcRace.Dispatch
open RpcRace.RaceMoves
open RpcRace.ProxyMoves
open RpcRace.SlotMoves
open RpcRace.Requests
open RpcRace.ClientMoves
open RpcRace.Outcomes

variable {n : Nat}

/-! ## Streams -/

/-- A response that was passed to a client, and how many bytes of it were written. -/
structure Passed where
  conn : UpstreamConn
  written : Nat

/-- The whole response. -/
def Passed.response (passed : Passed) : Memory :=
  passed.conn.recvBuf.take (passed.conn.headerLen + passed.conn.contentLength)

/-- The bytes of it that were written. -/
def Passed.bytes (passed : Passed) : Memory :=
  passed.conn.recvBuf.take passed.written

/-- All `header_len + content_length` bytes were written. -/
def Passed.Whole (passed : Passed) : Prop :=
  passed.written = passed.conn.headerLen + passed.conn.contentLength

/-- The response that an effect passes to this client. -/
def passedBy (client : Nat) : Effect n → Option Passed
  | .forwarded _ _ conn (some other) written =>
      if other = client then some ⟨conn, written⟩ else none
  | _ => none

/-- The responses that were passed to a client, the latest first. -/
def passedTo (client : Nat) (trace : List (Effect n)) : List Passed :=
  trace.filterMap (passedBy client)

/-- The bytes that were written to a client, in order. -/
def received (client : Nat) (trace : List (Effect n)) : Memory :=
  ((passedTo client trace).reverse.map Passed.bytes).flatten

/--
On every client connection all responses but the last are whole, and the
last is whole too unless the connection is closed.
-/
structure Framed (proxy : Proxy n) : Prop where
  earlier : ∀ client, ∀ passed ∈ (passedTo client proxy.trace).tail, passed.Whole
  served : ∀ client, proxy.client.target = some client →
    ∀ passed ∈ passedTo client proxy.trace, passed.Whole

theorem bytes_of_whole {passed : Passed} (whole : passed.Whole) :
    passed.bytes = passed.response := by
  rw [Passed.bytes, Passed.response, whole]

theorem flatten_of_whole {list : List Passed} (whole : ∀ passed ∈ list, passed.Whole) :
    (list.reverse.map Passed.bytes).flatten = (list.reverse.map Passed.response).flatten := by
  congr 1
  apply List.map_congr_left
  intro passed member
  exact bytes_of_whole (whole passed (List.mem_reverse.mp member))

/-- The client that is served has received whole responses only. -/
theorem received_of_served {proxy : Proxy n} (framed : Framed proxy) {client : Nat}
    (served : proxy.client.target = some client) :
    received client proxy.trace =
      ((passedTo client proxy.trace).reverse.map Passed.response).flatten :=
  flatten_of_whole (framed.served client served)

/-- Every other client has received whole responses and a part of one more at the end. -/
theorem received_of_closed {proxy : Proxy n} (framed : Framed proxy) {client : Nat}
    {last : Passed} {earlier : List Passed}
    (passed : passedTo client proxy.trace = last :: earlier) :
    received client proxy.trace =
      (earlier.reverse.map Passed.response).flatten ++ last.bytes := by
  have whole := framed.earlier client
  rw [passed, List.tail_cons] at whole
  rw [received, passed, List.reverse_cons, List.map_append, List.flatten_append,
    flatten_of_whole whole]
  simp

/-! ## The send loop -/

/-- How many bytes a socket takes before it would block or fails. -/
def capacity : List SendResult → Nat
  | .accepted count :: rest => count + capacity rest
  | _ => 0

/-- The loop writes all it has, or all the socket takes. -/
theorem clientSendLoop_eq (total sent : Nat) (results : List SendResult)
    (bounded : sent ≤ total) :
    clientSendLoop total sent results = min total (sent + capacity results) := by
  induction results generalizing sent with
  | nil => simp [clientSendLoop, capacity, bounded]
  | cons result rest induction =>
      simp only [clientSendLoop]
      split_ifs with more
      · cases result with
        | accepted count =>
            simp only [capacity]
            rw [induction _ (by omega)]
            omega
        | again => simp [capacity, bounded]
        | failed => simp [capacity, bounded]
      · omega

/-! ## The guard -/

/-- The response that an event makes the race logic forward, with the socket's answers. -/
def chosenResponse (env : Env) (proxy : Proxy n) (event : Event n) :
    Option (UpstreamConn × List SendResult) :=
  match event with
  | .conn node slot connEvent results =>
      (connOutcome proxy node slot connEvent).bind fun outcome =>
        if outcome.upcall = some .response ∧ proxy.race.state ≠ .idle ∧
            proxy.race.winnerIdx = none ∧
            (responseIsError env.yyjsonRead outcome.conn = false ∨
              proxy.race.responsesPending = 1) then
          some (outcome.conn, results)
        else none
  | _ => none

/--
A response for a connected client has a size below `2^64`, and the client's
socket takes all of it before it would block or fails.
-/
def TakesAll (env : Env) (proxy : Proxy n) (event : Event n) : Prop :=
  proxy.client.connected = true → ∀ chosen ∈ chosenResponse env proxy event,
    chosen.1.headerLen + chosen.1.contentLength < sizeModulus ∧
      chosen.1.headerLen + chosen.1.contentLength ≤ capacity chosen.2

instance (env : Env) (proxy : Proxy n) (event : Event n) :
    Decidable (TakesAll env proxy event) :=
  inferInstanceAs (Decidable (_ → _))

/-- A complete response that the socket takes is written in full. -/
theorem clientBytesWritten_of_takes {client : Client} {conn : UpstreamConn}
    {results : List SendResult} (connected : client.connected = true)
    (complete : rpcConnResponseComplete conn = true)
    (bounded : conn.headerLen + conn.contentLength < sizeModulus)
    (takes : conn.headerLen + conn.contentLength ≤ capacity results) :
    clientBytesWritten client conn results = conn.headerLen + conn.contentLength := by
  have size := (complete_of_bounded complete bounded).2
  have expected_eq : conn.expected = conn.headerLen + conn.contentLength :=
    Nat.mod_eq_of_lt bounded
  rw [clientBytesWritten, if_pos connected, expected_eq]
  split_ifs with stuck
  · omega
  · rw [clientSendLoop_eq _ _ _ (Nat.zero_le _)]
    omega

/-! ## The invariant -/

/-- What holds of the responses passed on, and of the descriptors they went to. -/
structure Served (proxy : Proxy n) : Prop where
  wellFormed : WellFormed proxy
  sound : TargetSound proxy.client
  framed : Framed proxy
  usedBelow : ∀ client, passedTo client proxy.trace ≠ [] → client < proxy.nextFd
  targetBelow : ∀ client, proxy.client.target = some client → client < proxy.nextFd

theorem passedTo_append {added : List (Effect n)}
    (silent : ∀ effect ∈ added, isForward effect = false) (client : Nat)
    (trace : List (Effect n)) :
    passedTo client (added ++ trace) = passedTo client trace := by
  rw [passedTo, List.filterMap_append, List.filterMap_eq_nil_iff.mpr, List.nil_append, passedTo]
  intro effect member
  have other := silent effect member
  cases effect with
  | forwarded => simp [isForward] at other
  | _ => rfl

theorem isForward_of_isPlain {effect : Effect n} (plain : isPlain effect = true) :
    isForward effect = false := by
  simp only [isPlain, Bool.and_eq_true, Bool.not_eq_true'] at plain
  exact plain.1.1

/-- A callback that forwards nothing keeps the streams. -/
theorem Served.of_silent {proxy result : Proxy n} {event : Event n} (served : Served proxy)
    (wellFormed : WellFormed result) (change : ClientChange proxy event result)
    (grows : proxy.nextFd ≤ result.nextFd)
    (same : ∀ client, passedTo client result.trace = passedTo client proxy.trace) :
    Served result := by
  have targets := change.target_cases
  refine ⟨wellFormed, change.targetSound served.sound, ⟨?_, ?_⟩, ?_, ?_⟩
  · intro client
    rw [same]
    exact served.framed.earlier client
  · intro client target
    rw [same]
    rcases targets with kept | gone | ⟨-, fresh, -⟩
    · exact served.framed.served client (kept ▸ target)
    · rw [gone] at target
      contradiction
    · -- nothing was written to a descriptor that did not exist
      rw [fresh] at target
      have unused : passedTo client proxy.trace = [] := by
        by_contra used
        have below := served.usedBelow client used
        simp only [Option.some.injEq] at target
        omega
      rw [unused]
      simp
  · intro client used
    rw [same] at used
    exact lt_of_lt_of_le (served.usedBelow client used) grows
  · intro client target
    rcases targets with kept | gone | ⟨-, fresh, next⟩
    · exact lt_of_lt_of_le (served.targetBelow client (kept ▸ target)) grows
    · rw [gone] at target
      contradiction
    · rw [fresh] at target
      simp only [Option.some.injEq] at target
      omega

/-- The responses passed to a client after one more was forwarded. -/
theorem passedTo_forward {proxy : Proxy n} {node : Fin n} {slot : Fin 2} {chunk : Memory}
    {inIbd stuck : Bool} {results : List SendResult} {later : List (Effect n)}
    (plain : ∀ effect ∈ later, isPlain effect = true) (client : Nat) :
    passedTo client
        (later ++ forwardEffect proxy node slot chunk inIbd results ::
          (deliveryEffects proxy node slot chunk stuck ++ proxy.trace)) =
      if proxy.client.target = some client then
        ⟨{ (proxy.slot node slot).absorb chunk with inIbd := inIbd },
          clientBytesWritten proxy.client
            { (proxy.slot node slot).absorb chunk with inIbd := inIbd } results⟩ ::
          passedTo client proxy.trace
      else passedTo client proxy.trace := by
  have earlier := isPlain_deliveryEffects proxy node slot chunk stuck
  rw [passedTo_append fun effect member => isForward_of_isPlain (plain effect member),
    passedTo, List.filterMap_cons, ← passedTo,
    passedTo_append fun effect member => isForward_of_isPlain (earlier effect member)]
  cases target : proxy.client.target with
  | none => simp [forwardEffect, target, passedBy]
  | some other =>
      by_cases same : other = client
      · simp [forwardEffect, target, passedBy, same]
      · simp [forwardEffect, target, passedBy, same]

theorem step_served (env : Env) (proxy : Proxy n) (event : Event n) (served : Served proxy)
    (guarded : TakesAll env proxy event) :
    Served (step env proxy event) := by
  have wellFormed := step_wellFormed env proxy event served.wellFormed
  have outcome := step_outcome env proxy event served.wellFormed
  have change := step_clientChange env proxy event served.wellFormed
  have grows := step_nextFd_le env proxy event served.wellFormed
  generalize step env proxy event = result at outcome wellFormed change grows
  have plainKept : ∀ added : List (Effect n), (∀ effect ∈ added, isPlain effect = true) →
      ∀ client trace, passedTo client (added ++ trace) = passedTo client trace :=
    fun added plain client =>
      passedTo_append (fun effect member => isForward_of_isPlain (plain effect member)) client
  cases outcome with
  | quiet added trace plain state_eq winner_eq waiting =>
      apply served.of_silent wellFormed change grows
      intro client
      rw [trace, plainKept added plain]
  | opened added chunk method bytes accepted trace plain idle active unwon target_eq =>
      apply served.of_silent wellFormed change grows
      intro client
      rw [trace, plainKept added plain]
      rfl
  | refused chunk method bytes accepted trace wasIdle idle target_eq =>
      apply served.of_silent wellFormed change grows
      intro client
      rw [trace]
      rfl
  | ended added trace plain active won idle waiting client_eq =>
      apply served.of_silent wellFormed change grows
      intro client
      rw [trace, plainKept added plain]
  | closed later earlier trace plainLater plainEarlier active unwon idle waiting client_eq =>
      apply served.of_silent wellFormed change grows
      intro client
      rw [trace, plainKept later plainLater]
      exact plainKept earlier plainEarlier client proxy.trace
  | forwarded later node slot chunk inIbd stuck connEvent results event_eq out trace plain
      complete active unwon chosen after client_eq =>
      have passed_eq := fun client => @passedTo_forward n proxy node slot chunk inIbd stuck
        results later plain client
      rw [← trace] at passed_eq
      cases target : proxy.client.target with
      | none =>
          apply served.of_silent wellFormed change grows
          intro client
          rw [passed_eq, target]
          simp
      | some current =>
          have connected : proxy.client.connected = true := by
            rw [served.sound, target]
            rfl
          have chosen_eq : chosenResponse env proxy event =
              some ((proxy.slot node slot).absorb chunk, results) := by
            subst event_eq
            simp only [chosenResponse, out, Option.bind_some]
            rw [if_pos ⟨trivial, active, unwon, chosen⟩]
          have takes := guarded connected _ chosen_eq
          have whole := served.framed.served current target
          have written : Passed.Whole
              ⟨{ (proxy.slot node slot).absorb chunk with inIbd := inIbd },
                clientBytesWritten proxy.client
                  { (proxy.slot node slot).absorb chunk with inIbd := inIbd } results⟩ :=
            clientBytesWritten_of_takes connected complete takes.1 takes.2
          have target_eq : result.client.target = some current := by
            rw [client_eq, target]
          refine ⟨wellFormed, change.targetSound served.sound, ⟨?_, ?_⟩, ?_, ?_⟩
          · intro client
            rw [passed_eq, target]
            split_ifs with same
            · simp only [Option.some.injEq] at same
              subst same
              exact whole
            · exact served.framed.earlier client
          · intro client served_eq
            rw [target_eq] at served_eq
            rw [passed_eq, target, if_pos served_eq]
            simp only [Option.some.injEq] at served_eq
            subst served_eq
            exact List.forall_mem_cons.mpr ⟨written, whole⟩
          · intro client used
            rw [passed_eq, target] at used
            split_ifs at used with same
            · simp only [Option.some.injEq] at same
              subst same
              exact lt_of_lt_of_le (served.targetBelow current target) grows
            · exact lt_of_lt_of_le (served.usedBelow client used) grows
          · intro client served_eq
            rw [target_eq, ← target] at served_eq
            exact lt_of_lt_of_le (served.targetBelow client served_eq) grows

theorem rpcProxyCreate_served (boot : Boot n) : Served (rpcProxyCreate boot) where
  wellFormed := rpcProxyCreate_wellFormed boot
  sound := rfl
  framed := ⟨by simp [rpcProxyCreate, passedTo], by simp [rpcProxyCreate, passedTo]⟩
  usedBelow := by simp [rpcProxyCreate, passedTo]
  targetBelow := by simp [rpcProxyCreate, Client.target]

/-! ## Runs -/

/-- While client sockets take each response at once, every client stream is framed. -/
theorem framed_of_takesAll (env : Env) (boot : Boot n) (events : List (Event n))
    (guarded : Along (step env) (TakesAll env) (rpcProxyCreate boot) events) :
    Throughout (step env) Framed (rpcProxyCreate boot) events := by
  apply Throughout.mono fun proxy (served : Served proxy) => served.framed
  exact throughout_of_along (step_served env) (rpcProxyCreate_served boot) guarded

/-- Two responses for one client, the second of which the socket takes in two parts. -/
def twoAnswers : List (Event 1) :=
  [clientConnects, clientSends addressRequest,
    slotWrites 0 0 1000,
    slotReads 0 0 doneResponse [.accepted 1000],
    clientSends blockRequest,
    slotWrites 0 0 1000,
    slotReads 0 0 errorResponse [.accepted 40, .accepted 1000]]

theorem framed_of_takesAll_twoAnswers :
    Along (step exampleEnv) (TakesAll exampleEnv) (rpcProxyCreate (exampleBoot 1)) twoAnswers ∧
      Throughout (step exampleEnv) Framed (rpcProxyCreate (exampleBoot 1)) twoAnswers ∧
      received 2 (exampleRun 1 twoAnswers).trace = doneResponse ++ errorResponse := by
  have facts :
      Along (step exampleEnv) (TakesAll exampleEnv) (rpcProxyCreate (exampleBoot 1))
          twoAnswers ∧
        received 2 (exampleRun 1 twoAnswers).trace = doneResponse ++ errorResponse := by
    decide +kernel
  exact ⟨facts.1, framed_of_takesAll exampleEnv (exampleBoot 1) twoAnswers facts.1, facts.2⟩

/-! ## A socket that would block -/

/-- The client's socket takes the first bytes of a response and would block. -/
def blockedClient : List (Event 1) :=
  [clientConnects, clientSends addressRequest,
    slotWrites 0 0 1000,
    slotReads 0 0 doneResponse [.accepted 20, .again]]

/-- The response is cut off, and the connection stays open for the next one. -/
theorem blockedClient_not_framed :
    ¬ Throughout (step exampleEnv) Framed (rpcProxyCreate (exampleBoot 1)) blockedClient := by
  intro framed
  have cut :
      (exampleRun 1 blockedClient).client.target = some 2 ∧
        ∃ passed ∈ passedTo 2 (exampleRun 1 blockedClient).trace,
          passed.written ≠ passed.conn.headerLen + passed.conn.contentLength := by
    decide +kernel
  rcases cut with ⟨served, passed, member, partly⟩
  have last : Framed (exampleRun 1 blockedClient) := throughout_end framed
  exact partly (last.served 2 served passed member)

end RpcRace.ClientStream
